import CrdBindings.Text.Digits
import CrdBindings.Yaml.Input

/-!
The tokens of a YAML text, and the words among them: anchors, tags and directives. Each reader takes
the text behind the sign that starts its token and gives the number of characters it takes.
-/

namespace CrdBindings.Yaml
set_option autoImplicit false

inductive Token where
  | versionDirective (major minor : Nat)
  | tagDirective (handle uri : List Char)
  | documentStart
  | documentEnd
  | streamEnd
  | blockSequenceStart
  | blockMappingStart
  | blockEnd
  | flowSequenceStart
  | flowSequenceEnd
  | flowMappingStart
  | flowMappingEnd
  | blockEntry
  | flowEntry
  | key
  | value
  | alias (name : List Char)
  | anchor (name : List Char)
  | tag (handle suffix : List Char)
  | scalar (plain : Bool) (text : String)
deriving DecidableEq, Repr

/-- Something read, and the number of characters it took. -/
structure Lexeme (α : Type) where
  value : α
  used : Nat

/-- The name of an anchor or alias, and a sign behind it that may end it. -/
def readAnchor (cs : List Char) : Option (Lexeme (List Char)) :=
  let name := cs.takeWhile isWordChar
  let rest := cs.dropWhile isWordChar
  if !name.isEmpty && (gapNext rest || (rest.head?.map "?:,]\x7d%@`".toList.contains).getD false) then
    some ⟨name, name.length⟩
  else none

/-- A character of an address in a tag; in a verbatim tag also the signs of flow collections. -/
def isUriChar (verbatim : Bool) (c : Char) : Bool :=
  isWordChar c || ";/?:@&=+$.!~*'()".toList.contains c || (verbatim && ",[]".toList.contains c)

/-- An escaped octet of a character: how many are to follow it, and its bits. -/
def leadingOctet? (octet : Nat) : Option (Nat × Nat) :=
  if octet < 0x80 then some (0, octet)
  else if octet / 0x20 = 0x6 then some (1, octet % 0x20)
  else if octet / 0x10 = 0xe then some (2, octet % 0x10)
  else if octet / 0x8 = 0x1e then some (3, octet % 0x8)
  else none

/-- Reads an address. `owed` octets complete the character with the bits read so far; `uri` holds the
characters in reverse. -/
def readUri (verbatim : Bool) (owed bits : Nat) (uri : List Char) (used : Nat) :
    List Char → Option (Lexeme (List Char))
  | '%' :: a :: b :: cs => do
    let octet := (← Text.hexValue? a) * 16 + (← Text.hexValue? b)
    if owed = 0 then
      let (more, first) ← leadingOctet? octet
      if more = 0 then readUri verbatim 0 0 (Char.ofNat first :: uri) (used + 3) cs
      else readUri verbatim more first uri (used + 3) cs
    else if octet / 0x40 ≠ 0x2 then none
    else
      let value := bits * 0x40 + octet % 0x40
      if owed = 1 then readUri verbatim 0 0 (Char.ofNat value :: uri) (used + 3) cs
      else readUri verbatim (owed - 1) value uri (used + 3) cs
  | c :: cs =>
    if owed ≠ 0 || c == '%' then none
    else if isUriChar verbatim c then readUri verbatim 0 0 (c :: uri) (used + 1) cs
    else some ⟨uri.reverse, used⟩
  | [] => if owed ≠ 0 then none else some ⟨uri.reverse, used⟩

def uriOf (verbatim : Bool) (cs : List Char) : Option (Lexeme (List Char)) :=
  readUri verbatim 0 0 [] 0 cs

/-- A tag `<...>`, given as it is: no handle, and the address as suffix. -/
def readVerbatimTag (cs : List Char) : Option (Lexeme Token) := do
  let uri ← uriOf true cs
  if uri.value.isEmpty || (cs.drop uri.used).head? ≠ some '>' then none
  else some ⟨.tag [] uri.value, uri.used + 2⟩

/-- A tag with a handle `!name!` or `!`. The exclamation mark alone is a suffix without a handle. -/
def readShortTag (cs : List Char) : Option (Lexeme Token) := do
  let name := cs.takeWhile isWordChar
  if (cs.dropWhile isWordChar).head? = some '!' then
    let uri ← uriOf false (cs.drop (name.length + 1))
    if uri.value.isEmpty then none
    else some ⟨.tag ('!' :: name ++ ['!']) uri.value, name.length + 1 + uri.used⟩
  else
    let uri ← uriOf false (cs.drop name.length)
    let suffix := name ++ uri.value
    let used := name.length + uri.used
    if suffix.isEmpty then some ⟨.tag [] ['!'], used⟩ else some ⟨.tag ['!'] suffix, used⟩

/-- A tag behind its exclamation mark. A gap follows it, or a comma in a flow collection. -/
def readTag (inFlow : Bool) (cs : List Char) : Option (Lexeme Token) := do
  let tag ←
    match cs with
    | '<' :: rest => readVerbatimTag rest
    | rest => readShortTag rest
  let rest := cs.drop tag.used
  if gapNext rest || (inFlow && rest.head? == some ',') then some tag else none

/-- The end of a line that holds nothing more than a comment: the characters up to and with its line
break. -/
def lineEnd? (cs : List Char) : Option Nat :=
  let gap := (cs.takeWhile isGap).length
  let rest := cs.drop gap
  let comment := if rest.head? = some '#' then (rest.takeWhile (!isBreak ·)).length else 0
  match rest.drop comment with
  | [] => some (gap + comment)
  | '\r' :: '\n' :: _ => some (gap + comment + 2)
  | c :: _ => if isBreak c then some (gap + comment + 1) else none

def versionNumber? (cs : List Char) : Option Nat :=
  if cs.isEmpty || cs.length > 9 then none
  else some (cs.foldl (fun n c => n * 10 + (c.toNat - '0'.toNat)) 0)

def versionDirective? (cs : List Char) : Option (Token × List Char) := do
  let cs := cs.dropWhile isGap
  let major ← versionNumber? (cs.takeWhile Char.isDigit)
  match cs.dropWhile Char.isDigit with
  | '.' :: rest =>
    let minor ← versionNumber? (rest.takeWhile Char.isDigit)
    return (.versionDirective major minor, rest.dropWhile Char.isDigit)
  | _ => none

/-- A tag handle in a directive: `!`, `!!` or `!name!`, and what follows it. -/
def handle? : List Char → Option (List Char × List Char)
  | '!' :: cs =>
    let name := cs.takeWhile isWordChar
    match cs.dropWhile isWordChar with
    | '!' :: rest => some ('!' :: name ++ ['!'], rest)
    | rest => if name.isEmpty then some (['!'], rest) else none
  | _ => none

def tagDirective? (cs : List Char) : Option (Token × List Char) := do
  let (handle, rest) ← handle? (cs.dropWhile isGap)
  if !(rest.head?.map isGap).getD false then none
  let rest := rest.dropWhile isGap
  let uri ← uriOf true rest
  if uri.value.isEmpty || !gapNext (rest.drop uri.used) then none
  return (.tagDirective handle uri.value, rest.drop uri.used)

/-- A directive behind its percent sign, up to the end of its line. -/
def readDirective (cs : List Char) : Option (Lexeme Token) := do
  let name := cs.takeWhile isWordChar
  let rest := cs.dropWhile isWordChar
  if !gapNext rest then none
  let (token, rest) ←
    if name = "YAML".toList then versionDirective? rest
    else if name = "TAG".toList then tagDirective? rest
    else none
  let ending ← lineEnd? rest
  return ⟨token, cs.length - rest.length + ending⟩

end CrdBindings.Yaml
