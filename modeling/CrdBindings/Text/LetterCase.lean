import CrdBindings.Text.LetterCase.Runs

/-!
Upper and lower case of single characters, and the lower case of a text. A capital sigma becomes a
final sigma where it ends a word: a cased character stands before it and none after it, both looked
up past the characters that case ignores.
-/

namespace CrdBindings.Text
set_option autoImplicit false

def isUpper (c : Char) : Bool := inRuns LetterCase.upperRuns c
def isLower (c : Char) : Bool := inRuns LetterCase.lowerRuns c
def isCased (c : Char) : Bool := inRuns LetterCase.casedRuns c
def isCaseIgnorable (c : Char) : Bool := inRuns LetterCase.ignorableRuns c

/-- The lower case of one character. Only the capital I with a dot above becomes two characters. -/
def lowerChar (c : Char) : List Char :=
  if c = 'İ' then ['i', '\u0307']
  else
    match LetterCase.loweringRuns.find? (·.1.holds c.toNat) with
    | some (_, distance) => [Char.ofNat (c.toNat + distance).toNat]
    | none => [c]

/-- Whether a cased character comes next, past the characters that case ignores. -/
def nextIsCased (cs : List Char) : Bool :=
  match cs.dropWhile isCaseIgnorable with
  | c :: _ => isCased c
  | [] => false

/-- Lower case of `cs`, where `before` holds the characters in front of it, the nearest first. -/
def lowerAfter (before : List Char) : List Char → List Char
  | [] => []
  | c :: cs =>
    (if c = 'Σ' then
      if nextIsCased before && !nextIsCased cs then ['ς'] else ['σ']
    else lowerChar c) ++ lowerAfter (c :: before) cs

def lower (s : String) : String := String.ofList (lowerAfter [] s.toList)

def lowerAscii (s : String) : String := String.ofList (s.toList.map Char.toLower)

def isAsciiAlnum (c : Char) : Bool := c.isAlpha || c.isDigit

end CrdBindings.Text
