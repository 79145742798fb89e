import CrdBindings.Text.Digits

/-!
Punycode: characters as letters, digits and hyphens. The ASCII characters come first; each other one
is inserted by a number that counts the places passed over, in a base of 36 whose thresholds follow
the numbers before.
-/

namespace CrdBindings.Url.Punycode
set_option autoImplicit false

/-- The digits below the threshold of a place end a number. -/
def threshold (place bias : Nat) : Nat :=
  if place ≤ bias then 1 else if bias + 26 ≤ place then 26 else place - bias

theorem threshold_pos (place bias : Nat) : 0 < threshold place bias := by
  unfold threshold
  split <;> (try split) <;> omega

def digit (n : Nat) : Char :=
  if n < 26 then Char.ofNat ('a'.toNat + n) else Char.ofNat ('0'.toNat + (n - 26))

def digitValue? (c : Char) : Option Nat :=
  if c.isDigit then some (c.toNat - '0'.toNat + 26)
  else if c.toLower.isAlpha then some (c.toLower.toNat - 'a'.toNat)
  else none

/-- The bias of a distance, which is first brought below 456. -/
def scale (distance bias : Nat) : Nat :=
  if 455 < distance then scale (distance / 35) (bias + 36)
  else bias + 36 * distance / (distance + 38)
termination_by distance
decreasing_by omega

/-- The bias behind a number, when so many characters are placed. -/
def adapt (distance placed : Nat) (first : Bool) : Nat :=
  let d := if first then distance / 700 else distance / 2
  scale (d + d / placed) 0

/-- The digits of a number, the lowest place first. -/
def number (bias place n : Nat) : List Char :=
  let t := threshold place bias
  if n < t then [digit n]
  else digit (t + (n - t) % (36 - t)) :: number bias (place + 36) ((n - t) / (36 - t))
termination_by n
decreasing_by
  have := threshold_pos place bias
  exact Nat.lt_of_le_of_lt (Nat.div_le_self _ _) (by omega)

/-- What an encoder knows: the least code that may come next, the places passed over since the last
insertion, the bias, the number of characters placed, and the digits so far. -/
structure Encoder where
  next : Nat
  passed : Nat
  bias : Nat
  placed : Nat
  digits : List Char

/-- Passes over a place, or inserts the character there when it has the code. -/
def Encoder.visit (basic code : Nat) (e : Encoder) (c : Nat) : Encoder :=
  if c < code then { e with passed := e.passed + 1 }
  else if c = code then
    { e with
      digits := e.digits ++ number e.bias 36 e.passed
      bias := adapt e.passed (e.placed + 1) (e.placed == basic)
      passed := 0
      placed := e.placed + 1 }
  else e

def Encoder.insert (basic : Nat) (codes : List Nat) (e : Encoder) (code : Nat) : Encoder :=
  let start := { e with passed := e.passed + (code - e.next) * (e.placed + 1) }
  let done := codes.foldl (Encoder.visit basic code) start
  { done with passed := done.passed + 1, next := code + 1 }

def encode (cs : List Char) : List Char :=
  let basic := cs.filter (·.toNat < 0x80)
  let codes := cs.map Char.toNat
  let others := ((codes.filter (0x80 ≤ ·)).mergeSort (· ≤ ·)).eraseDups
  let done := others.foldl (Encoder.insert basic.length codes) ⟨0x80, 0, 72, basic.length, []⟩
  basic ++ (if basic.isEmpty then [] else ['-']) ++ done.digits

/-- What a decoder knows: the characters placed, the code and place of the next one, the bias, and the
number that is being read, with the place it started from. -/
structure Decoder where
  placed : List Char
  code : Nat
  index : Nat
  bias : Nat
  start : Nat
  weight : Nat
  place : Nat

/-- Inserts the character whose number is complete. -/
def Decoder.insert (d : Decoder) : Option Decoder :=
  let count := d.placed.length + 1
  let code := d.code + d.index / count
  let at' := d.index % count
  if code < 0x110000 && !(0xd800 ≤ code && code < 0xe000) then
    some ⟨d.placed.take at' ++ Char.ofNat code :: d.placed.drop at', code, at' + 1,
      adapt (d.index - d.start) count (d.start == 0), at' + 1, 1, 36⟩
  else none

def Decoder.read (d : Decoder) (c : Char) : Option Decoder := do
  let n ← digitValue? c
  let t := threshold d.place d.bias
  let d := { d with index := d.index + n * d.weight }
  if n < t then d.insert
  else some { d with weight := d.weight * (36 - t), place := d.place + 36 }

def decode (cs : List Char) : Option (List Char) := do
  let digits := (cs.reverse.takeWhile (· != '-')).reverse
  let basic := cs.take (cs.length - digits.length - 1)
  let d ← digits.foldlM Decoder.read ⟨basic, 0x80, 0, 72, 0, 1, 36⟩
  if d.place = 36 then some d.placed else none

end CrdBindings.Url.Punycode
