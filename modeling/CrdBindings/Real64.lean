/-!
Finite binary floating-point numbers of 64 bits, as exact values: a sign, and a significand times a
power of two in lowest terms. A decimal number is read as the nearest of them, a tie going to the
even significand. Zero keeps its sign, yet the two zeros count as one number.
-/

namespace CrdBindings
set_option autoImplicit false

/-- The number `±significand · 2 ^ exponent`; the significand is odd, or zero with exponent 0. -/
structure Real64 where
  negative : Bool
  significand : Nat
  exponent : Int
deriving DecidableEq, Repr

namespace Real64

def zero (negative : Bool) : Real64 := ⟨negative, 0, 0⟩

/-- Equality of numbers: the sign of zero does not count. -/
def same (a b : Real64) : Bool :=
  (a.significand == 0 && b.significand == 0) || a == b

/-- Brings `m · 2 ^ e` to lowest terms. -/
def reduce (negative : Bool) (m : Nat) (e : Int) : Real64 :=
  if m = 0 then zero negative
  else if m % 2 = 0 then reduce negative (m / 2) (e + 1)
  else ⟨negative, m, e⟩
termination_by m
decreasing_by omega

/-- The nearest natural number to `n / d`; a tie goes to the even one. -/
def roundQuotient (n d : Nat) : Nat :=
  let q := n / d
  let r := n % d
  if 2 * r < d then q
  else if 2 * r > d then q + 1
  else if q % 2 = 0 then q else q + 1

def leadingBit (n d : Nat) : Int :=
  let l : Int := (n.log2 : Int) - d.log2
  if d <<< l.toNat ≤ n <<< (-l).toNat then l else l - 1

/-- The number nearest to `±n / d`, unless it is too large: 53 significant bits, and no bit below
`2 ^ -1074`. -/
def ofQuotient (negative : Bool) (n d : Nat) : Option Real64 :=
  if n = 0 then some (zero negative)
  else
    let e := max (leadingBit n d - 52) (-1074)
    let m := roundQuotient (n <<< (-e).toNat) (d <<< e.toNat)
    if m <<< e.toNat ≥ 1 <<< 1024 then none else some (reduce negative m e)

/-- The number nearest to `±digits · 10 ^ exponent`, unless it is too large. Far outside the range
the powers of ten are not computed. -/
def ofDecimal (negative : Bool) (digits : Nat) (exponent : Int) : Option Real64 :=
  if digits = 0 then some (zero negative)
  else
    let size : Int := (Nat.toDigits 10 digits).length + exponent
    if size > 400 then none
    else if size < -400 then some (zero negative)
    else ofQuotient negative (digits * Nat.pow 10 exponent.toNat) (Nat.pow 10 (-exponent).toNat)

end Real64
end CrdBindings
