/-!
The characters of a YAML text: their classes, and which of them a text may hold. A text is taken in
blocks of 16384 bytes, and a block with a forbidden character cannot be read at all.
-/

namespace CrdBindings.Yaml
set_option autoImplicit false

def isBreak (c : Char) : Bool :=
  c == '\n' || c == '\r' || c == '\u0085' || c == '\u2028' || c == '\u2029'

def isGap (c : Char) : Bool := c == ' ' || c == '\t'

/-- Whether a gap, a break or the end comes next. -/
def gapNext : List Char → Bool
  | [] => true
  | c :: _ => isGap c || isBreak c

/-- The character that a line break stands for: a line feed, or a separator as it is. -/
def breakChar (c : Char) : Char := if c == '\u2028' || c == '\u2029' then c else '\n'

/-- A character of an anchor, a directive name or a tag handle. -/
def isWordChar (c : Char) : Bool := c.isAlpha || c.isDigit || c == '_' || c == '-'

def orderMark : Char := '\ufeff'

def isAllowed (c : Char) : Bool :=
  let n := c.toNat
  n == 0x9 || n == 0xa || n == 0xd || (0x20 ≤ n && n ≤ 0x7e) || n == 0x85 ||
    (0xa0 ≤ n && n ≤ 0xfffd) || 0x10000 ≤ n

/-- The number of bytes that are read at once. -/
def blockSize : Nat := 16384

/-- The characters in front of the first block that cannot be read, and whether there is one.
`block` holds the characters of the current block in reverse and `size` its bytes. -/
def readable (size : Nat) (block : List Char) : List Char → List Char × Bool
  | [] => (block.reverse, false)
  | c :: cs =>
    if !isAllowed c then ([], true)
    else if size + c.utf8Size > blockSize then
      let (rest, broken) := readable c.utf8Size [c] cs
      (block.reverse ++ rest, broken)
    else readable (size + c.utf8Size) (c :: block) cs

/-- The readable characters of a text, and whether the rest cannot be read. A byte order mark at the
start does not count as a character. -/
def readText (text : String) : List Char × Bool :=
  match text.toList with
  | [] => ([], false)
  | c :: cs => if c == orderMark then readable 3 [] cs else readable 0 [] (c :: cs)

/-- A place in a text: what follows, and how far it is from the start of the text and of its line. -/
structure Cursor where
  rest : List Char
  index : Nat
  line : Nat
  column : Nat

namespace Cursor

def next (c : Cursor) : Cursor :=
  match c.rest with
  | [] => c
  | ch :: rest =>
    if isBreak ch && !(ch == '\r' && rest.head? == some '\n') then ⟨rest, c.index + 1, c.line + 1, 0⟩
    else ⟨rest, c.index + 1, c.line, c.column + 1⟩

def advance : Nat → Cursor → Cursor
  | 0, c => c
  | n + 1, c => advance n c.next

theorem next_rest (c : Cursor) : c.next.rest = c.rest.drop 1 := by
  unfold next
  split
  · simp [*]
  · split <;> simp [*]

theorem advance_rest (n : Nat) (c : Cursor) : (advance n c).rest = c.rest.drop n := by
  induction n generalizing c with
  | zero => rfl
  | succ n ih => rw [advance, ih, next_rest, List.drop_drop, Nat.add_comm]

end Cursor
end CrdBindings.Yaml
