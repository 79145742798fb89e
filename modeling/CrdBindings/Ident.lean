import CrdBindings.Text.LetterCase
import CrdBindings.Text.Lines

/-!
Identifiers of the generated code. A field identifier is lower case with its words apart, a type
identifier has a capital at the start of each word; both avoid the keywords.
-/

namespace CrdBindings.Ident
set_option autoImplicit false

def keywords : List String := [
  "abstract", "as", "async", "await", "become", "box", "break", "const", "continue", "crate",
  "do", "dyn", "else", "enum", "extern", "false", "final", "fn", "for", "if", "impl", "in",
  "let", "loop", "macro", "match", "mod", "move", "mut", "override", "priv", "pub", "ref",
  "return", "self", "Self", "static", "struct", "super", "trait", "true", "try", "type",
  "typeof", "unsafe", "unsized", "use", "virtual", "where", "while", "yield"]

/-- The reserved words that have no raw form. -/
def pathKeywords : List String := ["crate", "self", "Self", "super"]

/-- Makes a reserved word usable: in its raw form, or with a mark behind it where there is none. -/
def escapeKeyword (ident : String) : String :=
  if pathKeywords.contains ident then ident ++ "_"
  else if keywords.contains ident then "r#" ++ ident
  else ident

/-- Removes the marks of raw identifiers from the front. -/
def dropRaw : List Char → List Char
  | 'r' :: '#' :: cs => dropRaw cs
  | cs => cs

/-- An identifier without the mark of its raw form. -/
def bare (ident : String) : String := String.ofList (dropRaw ident.toList)

/-- Whether a capital starts a word: behind a small letter or a digit, or before a small letter.
`before` is the character in front of it and `after` what follows it. -/
def startsWord (before : Option Char) (after : List Char) : Bool :=
  match before with
  | none => false
  | some b =>
    Text.isLower b || b.isDigit ||
      match after with
      | c :: _ => Text.isLower c
      | [] => false

/-- The characters of a name in lower case with a mark before each word and for every character
that no identifier has; marks are not cleaned up yet. -/
def markWords (before : Option Char) : List Char → List Char
  | [] => []
  | c :: cs =>
    (if Text.isUpper c then
      (if startsWord before cs then ['_'] else []) ++ Text.lowerChar c
    else if Text.isAsciiAlnum c || c == '_' then [c]
    else ['_']) ++ markWords (some c) cs

/-- Makes one mark of several in a row. -/
def mergeMarks : List Char → List Char
  | [] => []
  | c :: cs =>
    if c = '_' ∧ cs.head? = some '_' then mergeMarks cs else c :: mergeMarks cs

def trimMarks (cs : List Char) : List Char :=
  ((cs.dropWhile (· == '_')).reverse.dropWhile (· == '_')).reverse

/-- The words of a name in lower case, with one mark between them. -/
def snake (name : List Char) : List Char := trimMarks (mergeMarks (markWords none name))

/-- Characters between those that are no ASCII letter or digit, each run with a capital in front. -/
def pascalFrom (atStart : Bool) : List Char → List Char
  | [] => []
  | c :: cs =>
    if Text.isAsciiAlnum c then (if atStart then c.toUpper else c) :: pascalFrom false cs
    else pascalFrom true cs

/-- The words of a name without anything between them, each with a capital in front. -/
def pascal (name : List Char) : List Char := pascalFrom true name

/-- Puts a character in front of a text that starts with a digit. -/
def guardDigit (guard : Char) : List Char → List Char
  | [] => []
  | c :: cs => if c.isDigit then guard :: c :: cs else c :: cs

def orElse (standIn : String) (cs : List Char) : List Char :=
  if cs.isEmpty then standIn.toList else cs

def field (name : String) : String :=
  escapeKeyword (String.ofList (guardDigit '_' (orElse "field" (snake name.toList))))

def type (name : String) : String :=
  escapeKeyword (String.ofList (guardDigit 'V' (orElse "Empty" (pascal name.toList))))

def module (group version : String) : String :=
  field (String.ofList (snake (Text.lower group ++ "." ++ Text.lower version).toList))

end CrdBindings.Ident
