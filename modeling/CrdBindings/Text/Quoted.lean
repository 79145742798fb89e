import CrdBindings.Text.Quoted.Runs

/-!
Text as a quoted literal. Backslash, the quotation mark in use, tab, line feed, carriage return and
NUL have short escapes; a character without a visible shape of its own is written as its code.
-/

namespace CrdBindings.Text
set_option autoImplicit false

def isVisible (c : Char) : Bool :=
  !inRuns Quoted.joiningRuns c && !inRuns Quoted.shapelessRuns c

def escapeChar (mark : Char) (c : Char) : List Char :=
  if c = '\x00' then ['\\', '0']
  else if c = '\t' then ['\\', 't']
  else if c = '\n' then ['\\', 'n']
  else if c = '\r' then ['\\', 'r']
  else if c = '\\' || c = mark then ['\\', c]
  else if isVisible c then [c]
  else ['\\', 'u', '\x7b'] ++ Nat.toDigits 16 c.toNat ++ ['\x7d']

def stringLiteral (s : String) : String :=
  String.ofList ('"' :: s.toList.flatMap (escapeChar '"') ++ ['"'])

def charLiteral (c : Char) : String :=
  String.ofList ('\'' :: escapeChar '\'' c ++ ['\''])

end CrdBindings.Text
