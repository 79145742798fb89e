import CrdBindings.Text.Digits
import CrdBindings.Text.Lines
import CrdBindings.Text.Quoted

/-!
Release versions: three numbers of up to 64 bits, pre-release identifiers and build identifiers.
`Version.read` takes a text apart or says what is wrong with its first faulty part.
-/

namespace CrdBindings
set_option autoImplicit false

/-- A version `major.minor.patch[-pre][+build]`; `pre` and `build` are empty when absent. -/
structure Version where
  major : Nat
  minor : Nat
  patch : Nat
  pre : String
  build : String
deriving DecidableEq, Repr, Inhabited

namespace Version

def ofNumbers (major minor patch : Nat) : Version := ⟨major, minor, patch, "", ""⟩

def text (v : Version) : String :=
  s!"{v.major}.{v.minor}.{v.patch}" ++
    (if v.pre.isEmpty then "" else "-" ++ v.pre) ++
    (if v.build.isEmpty then "" else "+" ++ v.build)

inductive Part where
  | major | minor | patch | pre | build
deriving DecidableEq, Repr

def Part.name : Part → String
  | major => "major version number"
  | minor => "minor version number"
  | patch => "patch version number"
  | pre => "pre-release identifier"
  | build => "build metadata"

inductive Fault where
  | empty
  | ends (inside : Part)
  | unexpected (c : Char) (inside : Part)
  | unexpectedAfter (c : Char) (after : Part)
  | leadingZero (part : Part)
  | tooLarge (part : Part)
  | emptySegment (part : Part)
deriving DecidableEq, Repr

def Fault.message : Fault → String
  | empty => "empty string, expected a semver version"
  | ends part => s!"unexpected end of input while parsing {part.name}"
  | unexpected c part => s!"unexpected character {Text.charLiteral c} while parsing {part.name}"
  | unexpectedAfter c part => s!"unexpected character {Text.charLiteral c} after {part.name}"
  | leadingZero part => s!"invalid leading zero in {part.name}"
  | tooLarge part => s!"value of {part.name} exceeds u64::MAX"
  | emptySegment part => s!"empty identifier segment in {part.name}"

/-- A decimal number without a leading zero, and the text after it. -/
def readNumber (part : Part) (cs : List Char) : Except Fault (Nat × List Char) :=
  let digits := cs.takeWhile Char.isDigit
  let rest := cs.dropWhile Char.isDigit
  if digits.isEmpty then
    match rest with
    | c :: _ => .error (.unexpected c part)
    | [] => .error (.ends part)
  else if digits.length > 1 ∧ digits.head? = some '0' then .error (.leadingZero part)
  else if Text.ofDigits 10 digits > Text.maxWord then .error (.tooLarge part)
  else .ok (Text.ofDigits 10 digits, rest)

def readPoint (part : Part) : List Char → Except Fault (List Char)
  | '.' :: rest => .ok rest
  | c :: _ => .error (.unexpectedAfter c part)
  | [] => .error (.ends part)

def isIdentChar (c : Char) : Bool := c.isAlpha || c.isDigit || c == '-'

/-- What is wrong with one segment of an identifier. Only in a pre-release a number must not start
with a zero. -/
def segmentFault? (part : Part) (segment : List Char) : Option Fault :=
  if segment.isEmpty then some (.emptySegment part)
  else if part = .pre ∧ segment.all Char.isDigit ∧ segment.length > 1 ∧ segment.head? = some '0' then
    some (.leadingZero part)
  else none

/-- Segments between points, as one text, and the text after them. -/
def readIdentifier (part : Part) (cs : List Char) : Except Fault (String × List Char) :=
  let run := cs.takeWhile fun c => isIdentChar c || c == '.'
  match (Text.splitAtChar '.' run).findSome? (segmentFault? part) with
  | some fault => .error fault
  | none => .ok (String.ofList run, cs.dropWhile fun c => isIdentChar c || c == '.')

/-- An identifier behind its mark, or nothing. -/
def readMarked (mark : Char) (part : Part) (cs : List Char) : Except Fault (String × List Char) :=
  match cs with
  | c :: rest => if c = mark then readIdentifier part rest else .ok ("", cs)
  | [] => .ok ("", [])

/-- The last part that a text was read into. -/
def lastPart (pre build : String) : Part :=
  if build.isEmpty then (if pre.isEmpty then .patch else .pre) else .build

def read (cs : List Char) : Except Fault Version := do
  if cs.isEmpty then throw .empty
  let (major, cs) ← readNumber .major cs
  let cs ← readPoint .major cs
  let (minor, cs) ← readNumber .minor cs
  let cs ← readPoint .minor cs
  let (patch, cs) ← readNumber .patch cs
  let (pre, cs) ← readMarked '-' .pre cs
  let (build, cs) ← readMarked '+' .build cs
  match cs with
  | c :: _ => throw (.unexpectedAfter c (lastPart pre build))
  | [] => return ⟨major, minor, patch, pre, build⟩

/-- Drops one leading `v` or `V`. -/
def dropMark : List Char → List Char
  | 'v' :: cs => cs
  | 'V' :: cs => cs
  | cs => cs

end Version
end CrdBindings
