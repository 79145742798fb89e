import CrdBindings.Failure
import CrdBindings.Text.Blank
import CrdBindings.Version

/-!
Version fragments and the release they select. A fragment names a major number, a line
`major.minor`, or one exact version. Against the releases of a repository a line selects its highest
patch release; without known releases it stands for its first.
-/

namespace CrdBindings
set_option autoImplicit false

inductive Fragment where
  | major (major : Nat)
  | line (major minor : Nat)
  | exact (version : Version)
deriving DecidableEq, Repr

namespace Fragment

def text : Fragment → String
  | major m => toString m
  | line m n => s!"{m}.{n}"
  | exact v => v.text

def majorNumber : Fragment → Nat
  | major m => m
  | line m _ => m
  | exact v => v.major

inductive Fault where
  | empty
  | version (fault : Version.Fault)
  | notNumeric
  | tooManyParts
deriving DecidableEq, Repr

def Fault.message : Fault → String
  | empty => "empty version"
  | version fault => fault.message
  | notNumeric => "version components must be numeric"
  | tooManyParts => "expected major[.minor[.patch]]"

def ofNumbers : List Nat → Except Fault Fragment
  | [m] => .ok (.major m)
  | [m, n] => .ok (.line m n)
  | [m, n, p] => .ok (.exact (.ofNumbers m n p))
  | _ => .error .tooManyParts

/-- Reads the text that remains of a fragment without blanks and mark. With a hyphen or a plus sign
it must be a whole version; otherwise its parts are numbers, where leading zeros do not count. -/
def readBare (cs : List Char) : Except Fault Fragment :=
  if cs.isEmpty then .error .empty
  else if cs.any fun c => c == '-' || c == '+' then
    match Version.read cs with
    | .ok v => .ok (.exact v)
    | .error fault => .error (.version fault)
  else
    match (Text.splitAtChar '.' cs).mapM Text.word? with
    | some numbers => ofNumbers numbers
    | none => .error .notNumeric

/-- Reads a fragment, with blanks around it and a leading `v` allowed. -/
def read (cs : List Char) : Except Fault Fragment := readBare (Version.dropMark (Text.trim cs))

/-- Reads a fragment that was given on its own. -/
def parse (input : String) : Except Failure Fragment :=
  match read input.toList with
  | .ok fragment => .ok fragment
  | .error fault => .error (.malformedReference input fault.message)

end Fragment

/-- The version of a release tag, with blanks around it and a leading `v` allowed. -/
def Version.ofTag? (tag : String) : Option Version :=
  (Version.read (Version.dropMark (Text.trim tag.toList))).toOption

namespace Fragment

/-- The releases as listed in a message. -/
def describe (releases : List Version) : String :=
  if releases.isEmpty then "none" else Text.joinWith ", " (releases.map Version.text)

/-- A release that a line covers: the same major and minor number, and no pre-release. -/
def covers (m n : Nat) (release : Version) : Bool :=
  release.major == m && release.minor == n && release.pre.isEmpty

/-- Of two releases of a line the one with the higher patch number; of equal ones the second. -/
def later (a b : Version) : Version := if b.patch < a.patch then a else b

/-- The last of the releases with the highest patch number. -/
def latest? : List Version → Option Version
  | [] => none
  | v :: vs => some (vs.foldl later v)

/-- Selects the release that a fragment stands for among the known ones. -/
def select (fragment : Fragment) (releases : List Version) : Except Failure Version :=
  let noMatch := Failure.noMatch fragment.text (describe releases)
  match fragment with
  | major _ => .error (.ambiguousVersion fragment.text)
  | exact v => if v ∈ releases then .ok v else .error noMatch
  | line m n =>
    match latest? (releases.filter (covers m n)) with
    | some release => .ok release
    | none => .error noMatch

/-- The release that a fragment stands for where no release is known. -/
def assume (fragment : Fragment) : Except Failure Version :=
  match fragment with
  | major _ => .error (.ambiguousVersion fragment.text)
  | line m n => .ok (.ofNumbers m n 0)
  | exact v => .ok v

end Fragment
end CrdBindings
