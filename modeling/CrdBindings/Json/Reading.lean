import CrdBindings.Decimal
import CrdBindings.Json

/-!
JSON values from text, in two passes without a limit on nesting: characters to tokens, and tokens
to a value over a stack of open arrays and objects. An integer of up to 64 bits stays an integer, a
larger one becomes a real; of equal keys the first position and the last value count.
-/

namespace CrdBindings.Json
set_option autoImplicit false

inductive Token where
  | openArray
  | closeArray
  | openObject
  | closeObject
  | comma
  | colon
  | leaf (value : Json)

/-- Where the lexer stands: between tokens, in a bare word, in a string, after a backslash in it, or
within the four digits of a code. Characters read so far are kept in reverse; `high` is a first
surrogate that waits for its second. -/
inductive LexMode where
  | between
  | word (chars : List Char)
  | text (chars : List Char) (high : Option Nat)
  | escape (chars : List Char) (high : Option Nat)
  | code (chars : List Char) (high : Option Nat) (digits : List Char)

def number? (word : List Char) : Option Json := do
  let negative := word.head? == some '-'
  let digits := if negative then word.drop 1 else word
  let d ← Decimal.read? digits
  if d.whole.isEmpty || (d.whole.length > 1 && d.whole.head? == some '0') then none
  else if word.contains '.' && d.fraction.isEmpty then none
  else
    let n := Text.ofDigits 10 d.whole
    if d.isInteger && negative && 0 < n && n ≤ 1 <<< 63 then some (.int (-n))
    else if d.isInteger && !negative && n ≤ Text.maxWord then some (.int n)
    else (d.toReal? negative).map .real

def wordValue? (word : List Char) : Option Json :=
  if word = "null".toList then some .null
  else if word = "true".toList then some (.bool true)
  else if word = "false".toList then some (.bool false)
  else number? word

/-- A character that stands for a token by itself. -/
def markToken? : Char → Option Token
  | '[' => some .openArray
  | ']' => some .closeArray
  | '\x7b' => some .openObject
  | '\x7d' => some .closeObject
  | ',' => some .comma
  | ':' => some .colon
  | _ => none

def isJsonBlank (c : Char) : Bool := c = ' ' || c = '\n' || c = '\r' || c = '\t'

/-- One character outside of strings, after the tokens so far (in reverse). -/
def lexBetween (tokens : List Token) (c : Char) : List Token × LexMode :=
  if isJsonBlank c then (tokens, .between)
  else if c = '"' then (tokens, .text [] none)
  else
    match markToken? c with
    | some t => (t :: tokens, .between)
    | none => (tokens, .word [c])

def shortEscape? : Char → Option Char
  | '"' => some '"'
  | '\\' => some '\\'
  | '/' => some '/'
  | 'b' => some '\x08'
  | 'f' => some '\x0c'
  | 'n' => some '\n'
  | 'r' => some '\r'
  | 't' => some '\t'
  | _ => none

/-- Adds a code unit to a string: surrogates only in pairs. -/
def addUnit? (chars : List Char) (high : Option Nat) (unit : Nat) : Option LexMode :=
  let isHigh := 0xd800 ≤ unit && unit < 0xdc00
  let isLow := 0xdc00 ≤ unit && unit < 0xe000
  match high with
  | some h =>
    if isLow then
      some (.text (Char.ofNat (0x10000 + (h - 0xd800) * 0x400 + (unit - 0xdc00)) :: chars) none)
    else none
  | none =>
    if isHigh then some (.text chars (some unit))
    else if isLow then none
    else some (.text (Char.ofNat unit :: chars) none)

/-- One step of the lexer; the tokens so far are in reverse. -/
def lexStep : List Token × LexMode → Char → Option (List Token × LexMode)
  | (tokens, .between), c => some (lexBetween tokens c)
  | (tokens, .word chars), c =>
    if isJsonBlank c || c = '"' || (markToken? c).isSome then
      (wordValue? chars.reverse).map fun v => lexBetween (.leaf v :: tokens) c
    else some (tokens, .word (c :: chars))
  | (tokens, .text chars high), c =>
    if c = '\\' then some (tokens, .escape chars high)
    else if high.isSome then none
    else if c = '"' then some (.leaf (.str (String.ofList chars.reverse)) :: tokens, .between)
    else if c.toNat < 0x20 then none
    else some (tokens, .text (c :: chars) none)
  | (tokens, .escape chars high), c =>
    if c = 'u' then some (tokens, .code chars high [])
    else if high.isSome then none
    else (shortEscape? c).map fun x => (tokens, .text (x :: chars) none)
  | (tokens, .code chars high digits), c =>
    if Text.digitValue c ≥ 16 then none
    else if digits.length < 3 then some (tokens, .code chars high (digits ++ [c]))
    else (addUnit? chars high (Text.ofDigits 16 (digits ++ [c]))).map fun mode => (tokens, mode)

def tokens? (cs : List Char) : Option (List Token) :=
  match cs.foldlM lexStep ([], .between) with
  | some (tokens, .between) => some tokens.reverse
  | some (tokens, .word chars) => (wordValue? chars.reverse).map fun v => (.leaf v :: tokens).reverse
  | _ => none

/-- An array or object whose end is still to come, with what it holds so far (items in reverse), and
for an object the key that waits for its value. -/
inductive Open where
  | array (items : List Json)
  | object (members : List (String × Json)) (key : String)

mutual

/-- Reads a value inside the open arrays and objects. -/
def readValue : List Open → List Token → Option Json
  | frames, .leaf v :: ts => readNext v frames ts
  | frames, .openArray :: .closeArray :: ts => readNext (.arr []) frames ts
  | frames, .openArray :: ts => readValue (.array [] :: frames) ts
  | frames, .openObject :: .closeObject :: ts => readNext (.obj []) frames ts
  | frames, .openObject :: .leaf (.str k) :: .colon :: ts => readValue (.object [] k :: frames) ts
  | _, _ => none

/-- Goes on after a value that is complete. -/
def readNext (v : Json) : List Open → List Token → Option Json
  | [], [] => some v
  | .array items :: frames, .comma :: ts => readValue (.array (v :: items) :: frames) ts
  | .array items :: frames, .closeArray :: ts => readNext (.arr (v :: items).reverse) frames ts
  | .object members key :: frames, .comma :: .leaf (.str k) :: .colon :: ts =>
    readValue (.object (Keyed.put key v members) k :: frames) ts
  | .object members key :: frames, .closeObject :: ts =>
    readNext (.obj (Keyed.put key v members)) frames ts
  | _, _ => none

end

def read? (text : String) : Option Json := (tokens? text.toList).bind (readValue [])

end CrdBindings.Json
