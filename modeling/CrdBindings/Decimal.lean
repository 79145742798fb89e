import CrdBindings.Real64
import CrdBindings.Text.Digits

/-!
Decimal numerals: digits, an optional fraction and an optional exponent. `Decimal` is the text taken
apart; a numeral without fraction and exponent is an integer, any other one a real.
-/

namespace CrdBindings
set_option autoImplicit false

/-- A numeral taken apart: digits before the point, after it, and the exponent. -/
structure Decimal where
  whole : List Char
  fraction : List Char
  exponent : Int
  isInteger : Bool

namespace Decimal

/-- An exponent: an optional sign and at least one digit, up to the end of the text. -/
def exponentOf? (cs : List Char) : Option Int :=
  let (negative, digits) :=
    match cs with
    | '-' :: r => (true, r)
    | '+' :: r => (false, r)
    | r => (false, r)
  if digits.isEmpty || !digits.all Char.isDigit then none
  else
    let n : Int := Text.ofDigits 10 digits
    some (if negative then -n else n)

/-- What follows the digits before the point. -/
def tail? (whole : List Char) : List Char → Option Decimal
  | [] => some ⟨whole, [], 0, true⟩
  | c :: cs =>
    let fraction := if c = '.' then cs.takeWhile Char.isDigit else []
    let rest := if c = '.' then cs.dropWhile Char.isDigit else c :: cs
    match rest with
    | [] => some ⟨whole, fraction, 0, false⟩
    | e :: power =>
      if e = 'e' || e = 'E' then
        (exponentOf? power).map fun n => ⟨whole, fraction, n, false⟩
      else none

/-- Takes an unsigned numeral apart. Digits may be missing on either side of the point. -/
def read? (cs : List Char) : Option Decimal :=
  tail? (cs.takeWhile Char.isDigit) (cs.dropWhile Char.isDigit)

/-- The nearest real, unless it is too large. -/
def toReal? (negative : Bool) (d : Decimal) : Option Real64 :=
  Real64.ofDecimal negative (Text.ofDigits 10 (d.whole ++ d.fraction)) (d.exponent - d.fraction.length)

end Decimal
end CrdBindings
