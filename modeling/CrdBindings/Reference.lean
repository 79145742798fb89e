import CrdBindings.Text.LetterCase
import CrdBindings.Version.Fragment

/-!
Symbolic references `provider:account/repo[@version]`: the grammar, reading and writing, and the test
that sets references apart from addresses and file paths.
-/

namespace CrdBindings
set_option autoImplicit false

/-- A reference to the definitions that a repository publishes. -/
structure Reference where
  provider : String
  account : String
  repo : String
  version : Option Fragment
deriving DecidableEq, Repr

namespace Reference

def repository (r : Reference) : String := s!"{r.account}/{r.repo}"

def text (r : Reference) : String :=
  s!"{r.provider}:{r.account}/{r.repo}" ++
    match r.version with
    | some fragment => "@" ++ fragment.text
    | none => ""

def isProviderChar (c : Char) : Bool := c.isAlpha || c.isDigit || c == '_' || c == '-'

def isNameChar (c : Char) : Bool := isProviderChar c || c == '.'

structure Parts where
  provider : List Char
  account : List Char
  repo : List Char
  version : Option (List Char)
deriving DecidableEq, Repr

/-- The version part behind a repository: nothing, or `@` and characters none of which is blank. -/
def versionPart? : List Char → Option (Option (List Char))
  | [] => some none
  | '@' :: v => if !v.isEmpty && v.all (!Text.isBlank ·) then some (some v) else none
  | _ => none

def afterAccount? (provider account : List Char) (cs : List Char) : Option Parts :=
  let repo := cs.takeWhile isNameChar
  if repo.isEmpty then none
  else (versionPart? (cs.dropWhile isNameChar)).map fun v => ⟨provider, account, repo, v⟩

def afterProvider? (provider : List Char) (cs : List Char) : Option Parts :=
  let account := cs.takeWhile isNameChar
  match cs.dropWhile isNameChar with
  | '/' :: rest => if account.isEmpty then none else afterAccount? provider account rest
  | _ => none

def parts? (cs : List Char) : Option Parts :=
  match cs with
  | [] => none
  | c :: _ =>
    if !c.isAlpha then none
    else
      match cs.dropWhile isProviderChar with
      | ':' :: rest => afterProvider? (cs.takeWhile isProviderChar) rest
      | _ => none

def ofParts (p : Parts) (version : Option Fragment) : Reference :=
  ⟨String.ofList p.provider, String.ofList p.account, String.ofList p.repo, version⟩

/-- Reads a reference; every refusal carries the input as it was given. -/
def parse (input : String) : Except Failure Reference :=
  match parts? (Text.trim input.toList) with
  | none => .error (.malformedReference input "expected provider:account/repo[@version]")
  | some p =>
    match p.version with
    | none => .ok (ofParts p none)
    | some v =>
      match Fragment.read v with
      | .ok fragment => .ok (ofParts p (some fragment))
      | .error fault => .error (.malformedReference input fault.message)

def urlSchemes : List String := ["http", "https", "file"]

/-- Whether an input has the form of a reference: a name of two or more characters before a colon,
which is no scheme of an address and has no `//` after it. -/
def isLikely (input : String) : Bool :=
  let cs := Text.trim input.toList
  let name := cs.takeWhile (· != ':')
  match cs.dropWhile (· != ':') with
  | [] => false
  | _ :: rest =>
    name.length > 1 && !(['/', '/'].isPrefixOf rest) &&
      !urlSchemes.contains (Text.lowerAscii (String.ofList name)) && name.all isProviderChar

end Reference
end CrdBindings
