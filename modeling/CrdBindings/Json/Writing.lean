import CrdBindings.Json

/-!
JSON text from values: no blanks, members in order, and a real as an exact decimal with an exponent
or a point, so that it never reads as an integer.
-/

namespace CrdBindings.Json
set_option autoImplicit false

def hex4 (n : Nat) : String :=
  let digits := Nat.toDigits 16 n
  String.ofList (List.replicate (4 - digits.length) '0' ++ digits)

/-- A character inside a JSON string: controls, quotes and backslashes are escaped. -/
def writeChar (c : Char) : String :=
  if c = '"' then "\\\""
  else if c = '\\' then "\\\\"
  else if c.toNat < 0x20 || c.toNat = 0x7f then "\\u" ++ hex4 c.toNat
  else c.toString

def writeString (s : String) : String :=
  s.toList.foldl (fun text c => text ++ writeChar c) "\"" ++ "\""

/-- The exact decimal of a real. -/
def writeReal (r : Real64) : String :=
  (if r.negative then "-" else "") ++
    match r.exponent with
    | .ofNat e => toString (r.significand <<< e) ++ ".0"
    | .negSucc e => toString (r.significand * Nat.pow 5 (e + 1)) ++ "e-" ++ toString (e + 1)

mutual

/-- Appends the text of a value to `text`. -/
def writeTo (text : String) : Json → String
  | .null => text ++ "null"
  | .bool b => text ++ (if b then "true" else "false")
  | .int i => text ++ toString i
  | .real r => text ++ writeReal r
  | .str s => text ++ writeString s
  | .arr items => writeItems (text ++ "[") true items ++ "]"
  | .obj members => writeMembers (text ++ "\x7b") true members ++ "\x7d"

def writeItems (text : String) (first : Bool) : List Json → String
  | [] => text
  | item :: items => writeItems (writeTo (if first then text else text ++ ",") item) false items

def writeMembers (text : String) (first : Bool) : List (String × Json) → String
  | [] => text
  | (key, value) :: members =>
    let start := (if first then text else text ++ ",") ++ writeString key ++ ":"
    writeMembers (writeTo start value) false members

end

def write (value : Json) : String := writeTo "" value

end CrdBindings.Json
