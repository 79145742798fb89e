import CrdBindings.Text.Digits
import CrdBindings.Text.Lines

/-!
Addresses of 128 bits: eight groups of up to four hexadecimal digits between colons. Two colons stand
for at least one group of zeros, once; an address of 32 bits may stand for the last two groups.
-/

namespace CrdBindings.Url.Ip6
set_option autoImplicit false

/-- A decimal number below 256 without leading zeros. -/
def octet? (cs : List Char) : Option Nat :=
  if Text.isNumeral 10 cs && (cs.length = 1 || cs.head? != some '0') && Text.ofDigits 10 cs < 256 then
    some (Text.ofDigits 10 cs)
  else none

/-- Two groups from four decimal numbers between points. -/
def pointed? (cs : List Char) : Option (List Nat) := do
  match ← (Text.splitAtChar '.' cs).mapM octet? with
  | [a, b, c, d] => return [a * 256 + b, c * 256 + d]
  | _ => none

/-- Fills the groups up to eight with zeros behind the first `gap`. -/
def fill (groups : List Nat) : Option Nat → Option (List Nat)
  | some gap => some (groups.take gap ++ List.replicate (8 - groups.length) 0 ++ groups.drop gap)
  | none => if groups.length = 8 then some groups else none

/-- Reads groups behind those read so far; `gap` tells where zeros are left out. -/
def readGroups (groups : List Nat) (gap : Option Nat) (cs : List Char) : Option (List Nat) :=
  match cs with
  | [] => fill groups gap
  | c :: more =>
    if groups.length = 8 then none
    else if c = ':' then
      if gap.isSome then none else readGroups (groups ++ [0]) (some (groups.length + 1)) more
    else
      let digits := ((c :: more).take 4).takeWhile (Text.digitValue · < 16)
      let group := Text.ofDigits 16 digits
      match _h : (c :: more).drop digits.length with
      | [] => fill (groups ++ [group]) gap
      | '.' :: _ =>
        if digits.isEmpty || 6 < groups.length then none
        else (pointed? (c :: more)).bind fun last => fill (groups ++ last) gap
      | ':' :: rest => if rest.isEmpty then none else readGroups (groups ++ [group]) gap rest
      | _ => none
termination_by cs.length
decreasing_by
  · simp
  · have := congrArg List.length _h
    rw [List.length_drop, List.length_cons] at this
    simp only [List.length_cons] at this ⊢
    omega

def read? (cs : List Char) : Option (List Nat) :=
  match cs with
  | ':' :: ':' :: rest => readGroups [0] (some 1) rest
  | ':' :: _ | [] | [_] => none
  | cs => readGroups [] none cs

def zeroRun (groups : List Nat) : Nat := (groups.takeWhile (· == 0)).length

/-- Where the longest run of zeros starts, the first of equal ones, and its length. -/
def longestRun (groups : List Nat) : Nat × Nat :=
  (List.range groups.length).foldl
    (fun best i => if best.2 < zeroRun (groups.drop i) then (i, zeroRun (groups.drop i)) else best)
    (0, 0)

def groupText (group : Nat) : String := String.ofList (Nat.toDigits 16 group)

/-- The groups between colons; the longest run of two or more zeros is left out. -/
def text (groups : List Nat) : String :=
  let (start, length) := longestRun groups
  let join (gs : List Nat) := Text.joinWith ":" (gs.map groupText)
  if length < 2 then join groups
  else join (groups.take start) ++ "::" ++ join (groups.drop (start + length))

end CrdBindings.Url.Ip6
