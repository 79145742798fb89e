import CrdBindings.Yaml.Token

/-!
Plain and quoted scalars. Both may run over several lines: gaps around a line break vanish, one
break becomes a space, and further breaks stay.
-/

namespace CrdBindings.Yaml
set_option autoImplicit false

/-- A document mark at the start of a line: three signs and a gap. -/
def atDocumentMark (sign : Char) : List Char → Bool
  | a :: b :: c :: rest => a == sign && b == sign && c == sign && gapNext rest
  | _ => false

def atAnyDocumentMark (cs : List Char) : Bool := atDocumentMark '-' cs || atDocumentMark '.' cs

/-- What stands between two words of a scalar: nothing, gaps within a line, or a line break (none if
it is escaped) with more breaks after it. Characters are in reverse. -/
inductive Between where
  | nothing
  | gaps (chars : List Char)
  | broken (first : Option Char) (more : List Char)

namespace Between

/-- One more gap; behind a line break it does not count. -/
def addGap (c : Char) : Between → Between
  | .nothing => .gaps [c]
  | .gaps chars => .gaps (c :: chars)
  | .broken first more => .broken first more

/-- One more line break; gaps in front of it do not count. -/
def addBreak (c : Char) : Between → Between
  | .broken first more => .broken first (breakChar c :: more)
  | _ => .broken (some (breakChar c)) []

def hasBreak : Between → Bool
  | .broken .. => true
  | _ => false

def isNothing : Between → Bool
  | .nothing => true
  | _ => false

def joined : Between → List Char
  | .nothing => []
  | .gaps chars => chars
  | .broken (some '\n') [] => [' ']
  | .broken (some '\n') more => more
  | .broken first more => more ++ first.toList

end Between

/-- A plain scalar, and whether it ends behind a line break. -/
structure Plain where
  text : String
  afterBreak : Bool

/-- The signs that end a plain scalar within a flow collection. -/
def isFlowSign (c : Char) : Bool := ",[]\x7b\x7d".toList.contains c

/-- Whether a colon inside a flow collection touches a sign that it must not touch. -/
def isStrayColon (c : Char) (cs : List Char) : Bool :=
  c == ':' && (cs.head?.map fun d => isFlowSign d || d == '?').getD false

/-- Reads a plain scalar. `indent` is the least column of its further lines in a block, `column` the
current one, and `text` the characters so far in reverse. -/
def readPlain (inFlow : Bool) (indent : Int) (column : Nat) (text : List Char) (between : Between)
    (used : Nat) : List Char → Option (Lexeme Plain)
  | [] => some ⟨⟨String.ofList text.reverse, between.hasBreak⟩, used⟩
  | '\r' :: '\n' :: cs => readPlain inFlow indent 0 text (between.addBreak '\n') (used + 2) cs
  | c :: cs =>
    if isBreak c then readPlain inFlow indent 0 text (between.addBreak c) (used + 1) cs
    else if isGap c then
      if between.hasBreak && (column : Int) < indent && c == '\t' then none
      else readPlain inFlow indent (column + 1) text (between.addGap c) (used + 1) cs
    else
      let atWord := text.isEmpty || !between.isNothing
      let ends :=
        (!between.isNothing && !inFlow && (column : Int) < indent) ||
        (atWord && column == 0 && atAnyDocumentMark (c :: cs)) || (atWord && c == '#')
      if ends then some ⟨⟨String.ofList text.reverse, between.hasBreak⟩, used⟩
      else if inFlow && isStrayColon c cs then none
      else if (c == ':' && gapNext cs) || (inFlow && isFlowSign c) then
        some ⟨⟨String.ofList text.reverse, between.hasBreak⟩, used⟩
      else
        readPlain inFlow indent (column + 1) (c :: between.joined ++ text) .nothing (used + 1) cs

def readSingle (lineStart : Bool) (text : List Char) (between : Between) (used : Nat) :
    List Char → Option (Lexeme String)
  | [] => none
  | '\r' :: '\n' :: cs => readSingle true text (between.addBreak '\n') (used + 2) cs
  | '\'' :: '\'' :: cs =>
    readSingle false ('\'' :: between.joined ++ text) .nothing (used + 2) cs
  | c :: cs =>
    if isBreak c then readSingle true text (between.addBreak c) (used + 1) cs
    else if isGap c then readSingle false text (between.addGap c) (used + 1) cs
    else if lineStart && atAnyDocumentMark (c :: cs) then none
    else if c == '\'' then some ⟨String.ofList (between.joined ++ text).reverse, used + 1⟩
    else readSingle false (c :: between.joined ++ text) .nothing (used + 1) cs

/-- What an escape in double quotes stands for: a character, or a code of so many digits. -/
inductive Escape where
  | char (c : Char)
  | code (digits : Nat)

def escape? : Char → Option Escape
  | '0' => some (.char '\x00')
  | 'a' => some (.char '\x07')
  | 'b' => some (.char '\x08')
  | 't' => some (.char '\t')
  | '\t' => some (.char '\t')
  | 'n' => some (.char '\n')
  | 'v' => some (.char '\x0b')
  | 'f' => some (.char '\x0c')
  | 'r' => some (.char '\r')
  | 'e' => some (.char '\x1b')
  | ' ' => some (.char ' ')
  | '"' => some (.char '"')
  | '/' => some (.char '/')
  | '\\' => some (.char '\\')
  | 'N' => some (.char '\u0085')
  | '_' => some (.char '\u00a0')
  | 'L' => some (.char '\u2028')
  | 'P' => some (.char '\u2029')
  | 'x' => some (.code 2)
  | 'u' => some (.code 4)
  | 'U' => some (.code 8)
  | _ => none

def isCharCode (n : Nat) : Bool := n < 0xd800 || (0xdfff < n && n ≤ 0x10ffff)

/-- Reads a scalar in double quotes, behind the opening one. While `digits` of a code are to come,
`code` is the value of those read. -/
def readDouble (lineStart : Bool) (digits code : Nat) (text : List Char) (between : Between)
    (used : Nat) : List Char → Option (Lexeme String)
  | [] => none
  | '\\' :: '\r' :: '\n' :: cs =>
    if digits ≠ 0 then none
    else readDouble true 0 0 (between.joined ++ text) (.broken none []) (used + 3) cs
  | '\r' :: '\n' :: cs =>
    if digits ≠ 0 then none else readDouble true 0 0 text (between.addBreak '\n') (used + 2) cs
  | '\\' :: c :: cs =>
    if digits ≠ 0 then none
    else if isBreak c then
      readDouble true 0 0 (between.joined ++ text) (.broken none []) (used + 2) cs
    else
      match escape? c with
      | some (.char x) => readDouble false 0 0 (x :: between.joined ++ text) .nothing (used + 2) cs
      | some (.code n) => readDouble false n 0 (between.joined ++ text) .nothing (used + 2) cs
      | none => none
  | c :: cs =>
    if digits ≠ 0 then
      match Text.hexValue? c with
      | none => none
      | some h =>
        let code := code * 16 + h
        if digits ≠ 1 then readDouble false (digits - 1) code text .nothing (used + 1) cs
        else if isCharCode code then
          readDouble false 0 0 (Char.ofNat code :: text) .nothing (used + 1) cs
        else none
    else if isBreak c then readDouble true 0 0 text (between.addBreak c) (used + 1) cs
    else if isGap c then readDouble false 0 0 text (between.addGap c) (used + 1) cs
    else if lineStart && atAnyDocumentMark (c :: cs) then none
    else if c == '"' then some ⟨String.ofList (between.joined ++ text).reverse, used + 1⟩
    else readDouble false 0 0 (c :: between.joined ++ text) .nothing (used + 1) cs

end CrdBindings.Yaml
