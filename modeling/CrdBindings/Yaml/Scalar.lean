import CrdBindings.Decimal
import CrdBindings.Json

/-!
The values of scalars. A plain scalar is null, a truth value, an integer in one of four bases, a real
or a text, by its form; any other scalar is a text. A tag of the standard kinds takes the place of the
form.
-/

namespace CrdBindings.Yaml.Scalar
set_option autoImplicit false

def isNull (text : String) : Bool :=
  text == "null" || text == "Null" || text == "NULL" || text == "~"

/-- The truth value of a word: in lower case, with a capital, or in capitals. -/
def truth? (text : String) : Option Bool :=
  if text == "true" || text == "True" || text == "TRUE" then some true
  else if text == "false" || text == "False" || text == "FALSE" then some false
  else none

/-- A text without the sign in front of it, and whether that is a minus. -/
def unsigned : List Char → Bool × List Char
  | '-' :: cs => (true, cs)
  | '+' :: cs => (false, cs)
  | cs => (false, cs)

/-- Whether a text is a decimal number with a leading zero, which counts as a text. -/
def isPadded (cs : List Char) : Bool :=
  let digits := (unsigned cs).2
  digits.length > 1 && digits.head? == some '0' && digits.all Char.isDigit

/-- The number that digits spell, after the sign of their base. -/
def magnitude? : List Char → Option Nat
  | '0' :: 'x' :: digits => numeral? 16 digits
  | '0' :: 'o' :: digits => numeral? 8 digits
  | '0' :: 'b' :: digits => numeral? 2 digits
  | digits => if isPadded digits then none else numeral? 10 digits
where
  numeral? (base : Nat) (digits : List Char) : Option Nat :=
    if Text.isNumeral base digits then some (Text.ofDigits base digits) else none

inductive Whole where
  | value (n : Int)
  /-- An integer that needs more than 64 bits but not more than 128. -/
  | tooLarge
  | none

/-- Reads an integer. Beyond 128 bits a text is none. -/
def whole (cs : List Char) : Whole :=
  let (negative, digits) := unsigned cs
  match magnitude? digits with
  | .none => .none
  | some n =>
    if negative then
      if n ≤ 1 <<< 63 then .value (-n) else if n ≤ 1 <<< 127 then .tooLarge else .none
    else if n < 1 <<< 64 then .value n
    else if n < 1 <<< 128 then .tooLarge
    else .none

/-- The words for what is no finite number. -/
def unboundedWords : List String :=
  [".inf", ".Inf", ".INF", "+.inf", "+.Inf", "+.INF", "-.inf", "-.Inf", "-.INF", ".nan", ".NaN", ".NAN"]

/-- Reads a real. What is no finite number has no value; a number that is too large is no real. -/
def real? (text : String) : Option Json :=
  if unboundedWords.contains text then some .null
  else
    let (negative, numeral) := unsigned text.toList
    match Decimal.read? numeral with
    | some d =>
      if d.whole.isEmpty && d.fraction.isEmpty then none else (d.toReal? negative).map .real
    | none => none

/-- The value of a plain scalar, unless it is an integer that is too large. -/
def plainValue? (text : String) : Option Json :=
  if text.isEmpty || isNull text then some .null
  else
    match truth? text with
    | some b => some (.bool b)
    | none =>
      match whole text.toList with
      | .value n => some (.int n)
      | .tooLarge => none
      | .none => some (if isPadded text.toList then .str text else (real? text).getD (.str text))

/-- Whether a tag has a meaning in one application only. -/
def isLocal (tag : Option String) : Bool :=
  match tag with
  | some tag => tag.toList.head? == some '!'
  | none => false

def standard (name : String) : String := "tag:yaml.org,2002:" ++ name

def taggedValue? (tag text : String) : Option Json :=
  if tag = standard "bool" then (truth? text).map .bool
  else if tag = standard "int" then
    match whole text.toList with
    | .value n => some (.int n)
    | _ => none
  else if tag = standard "float" then real? text
  else if tag = standard "null" then if isNull text then some .null else none
  else some (.str text)

/-- The value of a scalar, unless its tag or its size refuses one. -/
def value? (tag : Option String) (plain : Bool) (text : String) : Option Json :=
  match tag with
  | none => if plain then plainValue? text else some (.str text)
  | some t => if isLocal (some t) then none else taggedValue? t text

end CrdBindings.Yaml.Scalar
