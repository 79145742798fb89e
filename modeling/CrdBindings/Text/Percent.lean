import CrdBindings.Text.Digits

/-!
Percent escapes: an octet written as a percent sign and two hexadecimal digits. A character is
escaped through its octets in UTF-8; a percent sign without two such digits behind it stands for
itself.
-/

namespace CrdBindings.Text
set_option autoImplicit false

def hexDigit (n : Nat) : Char :=
  if n < 10 then Char.ofNat ('0'.toNat + n) else Char.ofNat ('A'.toNat + (n - 10))

def escapeOctet (octet : UInt8) : List Char :=
  ['%', hexDigit (octet.toNat / 16), hexDigit (octet.toNat % 16)]

def octetsOf (c : Char) : List UInt8 := String.utf8EncodeChar c

/-- Whether a character is escaped everywhere: a control, or none of ASCII. -/
def isEscapedAlways (c : Char) : Bool := c.toNat < 0x20 || 0x7f ≤ c.toNat

/-- Escapes controls, characters that are not ASCII, and those of a set. -/
def percentEncode (set : List Char) (cs : List Char) : List Char :=
  cs.flatMap fun c =>
    if isEscapedAlways c || set.contains c then (octetsOf c).flatMap escapeOctet else [c]

def percentDecode : List Char → List UInt8
  | '%' :: a :: b :: cs =>
    match hexValue? a, hexValue? b with
    | some high, some low => UInt8.ofNat (high * 16 + low) :: percentDecode cs
    | _, _ => octetsOf '%' ++ percentDecode (a :: b :: cs)
  | c :: cs => octetsOf c ++ percentDecode cs
  | [] => []

/-- The characters that octets spell in UTF-8, if they do. -/
def charsOf? (octets : List UInt8) : Option (List Char) :=
  (String.fromUTF8? ⟨octets.toArray⟩).map String.toList

end CrdBindings.Text
