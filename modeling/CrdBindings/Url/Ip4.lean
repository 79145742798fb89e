import CrdBindings.Text.Digits
import CrdBindings.Text.Lines

/-!
Addresses of 32 bits: up to four numbers between points, each decimal, octal or hexadecimal, of which
the last fills what the others leave.
-/

namespace CrdBindings.Url.Ip4
set_option autoImplicit false

def number? : List Char → Option Nat
  | [] => none
  | ['0'] => some 0
  | '0' :: c :: digits =>
    if c = 'x' || c = 'X' then spelled? 16 digits else spelled? 8 (c :: digits)
  | digits => spelled? 10 digits
where
  spelled? (base : Nat) (digits : List Char) : Option Nat :=
    if digits.all (Text.digitValue · < base) then some (Text.ofDigits base digits) else none

/-- The parts between points; a point at the end does not count. -/
def parts (cs : List Char) : List (List Char) :=
  let pieces := Text.splitAtChar '.' cs
  if 1 < pieces.length && pieces.getLast? == some [] then pieces.dropLast else pieces

/-- Whether a host is meant as an address: its last part is a number, or digits only. -/
def isMeant (cs : List Char) : Bool :=
  match (parts cs).getLast? with
  | some last => (!last.isEmpty && last.all Char.isDigit) || (number? last).isSome
  | none => false

/-- The numbers in front of the last one, as the leading octets. -/
def leading (shift : Nat) : List Nat → Nat
  | [] => 0
  | n :: ns => (n <<< shift) + leading (shift - 8) ns

def read? (cs : List Char) : Option Nat := do
  let numbers ← (parts cs).mapM number?
  let last ← numbers.getLast?
  let front := numbers.dropLast
  if numbers.length ≤ 4 && last < 1 <<< (32 - 8 * front.length) && front.all (· < 256) then
    some (leading 24 front + last)
  else none

def text (address : Nat) : String :=
  Text.joinWith "." ([24, 16, 8, 0].map fun shift => toString ((address >>> shift) % 256))

end CrdBindings.Url.Ip4
