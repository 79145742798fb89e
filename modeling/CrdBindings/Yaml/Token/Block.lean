import CrdBindings.Yaml.Token

/-!
Block scalars. A header gives the style, the treatment of the final line breaks and, where wanted,
the indentation; the lines that follow are taken as they are or folded.
-/

namespace CrdBindings.Yaml
set_option autoImplicit false

/-- What becomes of the line breaks at the end: none stays, one stays, or all stay. -/
inductive Chomp where
  | strip
  | clip
  | keep
deriving DecidableEq

def chomp? : Char → Option Chomp
  | '+' => some .keep
  | '-' => some .strip
  | _ => none

/-- The value of an indentation digit, which is not zero. -/
def indentDigit? (c : Char) : Option Nat :=
  if c.isDigit && c != '0' then some (c.toNat - '0'.toNat) else none

/-- A block header: how the end is treated, the indentation if given, and the characters of both. -/
structure BlockHeader where
  chomp : Chomp
  increment : Option Nat
  used : Nat

/-- The signs of a header: the chomping sign and the indentation digit in either order. -/
def blockHeader : List Char → BlockHeader
  | a :: b :: _ =>
    match chomp? a, indentDigit? a with
    | some chomp, _ =>
      match indentDigit? b with
      | some n => ⟨chomp, some n, 2⟩
      | none => ⟨chomp, none, 1⟩
    | none, some n =>
      match chomp? b with
      | some chomp => ⟨chomp, some n, 2⟩
      | none => ⟨.clip, some n, 1⟩
    | none, none => ⟨.clip, none, 0⟩
  | [a] =>
    match chomp? a, indentDigit? a with
    | some chomp, _ => ⟨chomp, none, 1⟩
    | none, some n => ⟨.clip, some n, 1⟩
    | none, none => ⟨.clip, none, 0⟩
  | [] => ⟨.clip, none, 0⟩

/-- What has been read of a block scalar: its text, the break behind the last line with content, and
the breaks of the empty lines after it, all in reverse; and whether the last line started with a
gap. -/
structure BlockText where
  text : List Char
  lineBreak : Option Char
  emptyLines : List Char
  gapFirst : Bool

namespace BlockText

def empty : BlockText := ⟨[], none, [], false⟩

/-- The text with a new line begun that starts with a character. When folding, a break between two
lines that start without a gap becomes a space, or vanishes before empty lines. -/
def beginLine (literal : Bool) (b : BlockText) (c : Char) : BlockText :=
  let folds := !literal && b.lineBreak == some '\n' && !b.gapFirst && !isGap c
  let text :=
    if folds then (if b.emptyLines.isEmpty then ' ' :: b.text else b.text)
    else b.lineBreak.toList ++ b.text
  ⟨c :: b.emptyLines ++ text, none, [], isGap c⟩

def finish (chomp : Chomp) (b : BlockText) : String :=
  let text := if chomp = .strip then b.text else b.lineBreak.toList ++ b.text
  let text := if chomp = .keep then b.emptyLines ++ text else text
  String.ofList text.reverse

end BlockText

/-- The indentation of a block, once the leading lines are known: the widest of them, and at least
one more than that of the block around it. -/
def detectIndent (parent : Int) (widest : Nat) : Nat := max widest (max (parent + 1).toNat 1)

/-- Reads the lines of a block scalar. `indent` is zero until it is known, `widest` the widest line
start so far, and `inLine` holds within the content of a line. -/
def readBlockLines (literal : Bool) (chomp : Chomp) (parent : Int) (indent widest column : Nat)
    (inLine : Bool) (b : BlockText) (used : Nat) : List Char → Option (Lexeme String)
  | [] => some ⟨b.finish chomp, used⟩
  | '\r' :: '\n' :: cs =>
    if inLine then
      readBlockLines literal chomp parent indent widest 0 false { b with lineBreak := some '\n' }
        (used + 2) cs
    else
      readBlockLines literal chomp parent indent (max widest column) 0 false
        { b with emptyLines := '\n' :: b.emptyLines } (used + 2) cs
  | c :: cs =>
    if inLine then
      if isBreak c then
        readBlockLines literal chomp parent indent widest 0 false
          { b with lineBreak := some (breakChar c) } (used + 1) cs
      else
        readBlockLines literal chomp parent indent widest (column + 1) true
          { b with text := c :: b.text } (used + 1) cs
    else
      let within := indent == 0 || column < indent
      if within && c == ' ' then
        readBlockLines literal chomp parent indent widest (column + 1) false b (used + 1) cs
      else if within && c == '\t' then none
      else if isBreak c then
        readBlockLines literal chomp parent indent (max widest column) 0 false
          { b with emptyLines := breakChar c :: b.emptyLines } (used + 1) cs
      else
        let indent := if indent == 0 then detectIndent parent (max widest column) else indent
        if column == indent then
          readBlockLines literal chomp parent indent widest (column + 1) true
            (b.beginLine literal c) (used + 1) cs
        else some ⟨b.finish chomp, used⟩

/-- Reads a block scalar behind the sign of its style; `parent` is the indentation of the block
around it. -/
def readBlock (literal : Bool) (parent : Int) (cs : List Char) : Option (Lexeme String) := do
  let header := blockHeader cs
  let rest := cs.drop header.used
  let ending ← lineEnd? rest
  let indent :=
    match header.increment with
    | some n => (max parent 0).toNat + n
    | none => 0
  readBlockLines literal header.chomp parent indent 0 0 false .empty (header.used + ending)
    (rest.drop ending)

end CrdBindings.Yaml
