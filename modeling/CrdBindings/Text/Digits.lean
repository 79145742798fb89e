/-!
Digits and the numbers they spell. `maxWord` is the largest number of 64 bits without a sign, the
bound of every number in a version.
-/

namespace CrdBindings.Text
set_option autoImplicit false

/-- The value of a digit in a base up to 36; 36 for any other character. -/
def digitValue (c : Char) : Nat :=
  if c.isDigit then c.toNat - '0'.toNat
  else if 'a' ≤ c ∧ c ≤ 'z' then c.toNat - 'a'.toNat + 10
  else if 'A' ≤ c ∧ c ≤ 'Z' then c.toNat - 'A'.toNat + 10
  else 36

def hexValue? (c : Char) : Option Nat := if digitValue c < 16 then some (digitValue c) else none

/-- The value of a list of digits in a base, the leading digit first. -/
def ofDigits (base : Nat) (digits : List Char) : Nat :=
  digits.foldl (fun n c => n * base + digitValue c) 0

def isNumeral (base : Nat) (cs : List Char) : Bool :=
  !cs.isEmpty && cs.all (digitValue · < base)

def maxWord : Nat := (1 <<< 64) - 1

/-- The decimal number that a text spells, if it fits 64 bits. Leading zeros are allowed. -/
def word? (cs : List Char) : Option Nat :=
  if isNumeral 10 cs ∧ ofDigits 10 cs ≤ maxWord then some (ofDigits 10 cs) else none

end CrdBindings.Text
