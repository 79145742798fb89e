import CrdBindings.Yaml.Token.Block
import CrdBindings.Yaml.Token.Text

/-!
The tokens of a whole text. The scanner keeps the columns of the open blocks and, for each level of
flow collections, the token that may turn out to be a key: a colon behind it on its line, within
1024 characters, puts a key in front of it. Every step takes at least one character.
-/

namespace CrdBindings.Yaml
set_option autoImplicit false

/-- A token that may be a key: how many tokens stand before it, and its place. At the column of its
block it must be one. -/
structure PossibleKey where
  required : Bool
  before : Nat
  index : Nat
  line : Nat
  column : Nat

/-- What the scanner knows at a place: the tokens so far in reverse and their number, the column of
the block and of those around it, whether a key may start here, and the possible key of each level of
flow collections, the innermost first, with that of the block last. -/
structure Scanner where
  tokens : List Token
  count : Nat
  indent : Int
  outer : List Int
  keyAllowed : Bool
  blockKey : Option PossibleKey
  flowKeys : List (Option PossibleKey)

namespace Scanner

def start : Scanner := ⟨[], 0, -1, [], true, none, []⟩

def inFlow (s : Scanner) : Bool := !s.flowKeys.isEmpty

def emit (t : Token) (s : Scanner) : Scanner :=
  { s with tokens := t :: s.tokens, count := s.count + 1 }

def insertAt (before : Nat) (t : Token) (s : Scanner) : Scanner :=
  { s with
    tokens := s.tokens.take (s.count - before) ++ t :: s.tokens.drop (s.count - before)
    count := s.count + 1 }

def key? (s : Scanner) : Option PossibleKey :=
  match s.flowKeys with
  | key :: _ => key
  | [] => s.blockKey

def setKey (key : Option PossibleKey) (s : Scanner) : Scanner :=
  match s.flowKeys with
  | _ :: keys => { s with flowKeys := key :: keys }
  | [] => { s with blockKey := key }

/-- Gives up the possible key of the current level, unless it must be a key. -/
def dropKey (s : Scanner) : Option Scanner :=
  match s.key? with
  | some key => if key.required then none else some (s.setKey none)
  | none => some s

/-- Takes the next token as a possible key where one may start. -/
def saveKey (c : Cursor) (s : Scanner) : Option Scanner :=
  if s.keyAllowed then do
    let required := !s.inFlow && s.indent == c.column
    return (← s.dropKey).setKey (some ⟨required, s.count, c.index, c.line, c.column⟩)
  else some s

/-- Whether a possible key can no longer be one: its line is over, or it is too long. -/
def isStale (c : Cursor) (key : PossibleKey) : Bool :=
  key.line < c.line || key.index + 1024 < c.index

/-- A possible key that is still one at a place; nothing if it had to be a key and is not. -/
def refresh (c : Cursor) : Option PossibleKey → Option (Option PossibleKey)
  | none => some none
  | some key => if isStale c key then (if key.required then none else some none) else some (some key)

/-- Gives up the possible keys of all levels that can no longer be keys. -/
def dropStale (c : Cursor) (s : Scanner) : Option Scanner := do
  return { s with blockKey := ← refresh c s.blockKey, flowKeys := ← s.flowKeys.mapM (refresh c) }

/-- Closes the blocks of the given columns while they are right of a column: the column of the block
then, those around it, and the number of blocks closed. -/
def closeBlocks (column : Int) (indent : Int) : List Int → Int × List Int × Nat
  | [] => (indent, [], 0)
  | o :: outer =>
    if column < indent then
      let (i, rest, n) := closeBlocks column o outer
      (i, rest, n + 1)
    else (indent, o :: outer, 0)

def unroll (column : Int) (s : Scanner) : Scanner :=
  if s.inFlow then s
  else
    let (indent, outer, n) := closeBlocks column s.indent s.outer
    { s with indent, outer, tokens := List.replicate n .blockEnd ++ s.tokens, count := s.count + n }

/-- Starts a block at a column, if that is right of the current one; its token stands behind the
first `before` ones. -/
def roll (column : Nat) (before : Nat) (t : Token) (s : Scanner) : Scanner :=
  if s.inFlow || (column : Int) ≤ s.indent then s
  else { s.insertAt before t with indent := column, outer := s.indent :: s.outer }

def allowKey (allowed : Bool) (s : Scanner) : Scanner := { s with keyAllowed := allowed }

/-- A collection in flow style starts: it may be a key itself, and holds a level of keys. -/
def openFlow (t : Token) (c : Cursor) (s : Scanner) : Option Scanner := do
  let s ← s.saveKey c
  return ({ s with flowKeys := none :: s.flowKeys }.allowKey true).emit t

def closeFlow (t : Token) (s : Scanner) : Option Scanner := do
  let s ← s.dropKey
  return ({ s with flowKeys := s.flowKeys.drop 1 }.allowKey false).emit t

/-- A mark that starts or ends a document ends all blocks. -/
def documentMark (t : Token) (s : Scanner) : Option Scanner := do
  return ((← (s.unroll (-1)).dropKey).allowKey false).emit t

def blockEntry (c : Cursor) (s : Scanner) : Option Scanner := do
  if !s.inFlow && !s.keyAllowed then none
  let s := s.roll c.column s.count .blockSequenceStart
  return ((← s.dropKey).allowKey true).emit .blockEntry

def explicitKey (c : Cursor) (s : Scanner) : Option Scanner := do
  if !s.inFlow && !s.keyAllowed then none
  let s := s.roll c.column s.count .blockMappingStart
  return ((← s.dropKey).allowKey (!s.inFlow)).emit .key

/-- The colon of a value. It makes a key of the possible one before it. -/
def colon (c : Cursor) (s : Scanner) : Option Scanner :=
  match s.key? with
  | some key =>
    let s := (s.insertAt key.before .key).roll key.column key.before .blockMappingStart
    some (((s.setKey none).allowKey false).emit .value)
  | none =>
    if !s.inFlow && !s.keyAllowed then none
    else
      let s := s.roll c.column s.count .blockMappingStart
      some ((s.allowKey (!s.inFlow)).emit .value)

/-- A word that may be a key or stand in front of one. -/
def wordToken {α : Type} (c : Cursor) (s : Scanner) (lexeme : Option (Lexeme α))
    (token : α → Token) : Option (Scanner × Nat) := do
  let s ← s.saveKey c
  let lexeme ← lexeme
  return ((s.allowKey false).emit (token lexeme.value), lexeme.used)

/-- A plain scalar; behind a line break a key may follow it. -/
def plainToken (c : Cursor) (s : Scanner) : Option (Scanner × Nat) := do
  let s ← s.saveKey c
  let plain ← readPlain s.inFlow (s.indent + 1) c.column [] .nothing 0 c.rest
  return ((s.allowKey plain.value.afterBreak).emit (.scalar true plain.value.text), plain.used - 1)

/-- A block scalar, which is never a key. -/
def blockToken (literal : Bool) (s : Scanner) (cs : List Char) : Option (Scanner × Nat) := do
  let s ← s.dropKey
  let block ← readBlock literal s.indent cs
  return ((s.allowKey true).emit (.scalar false block.value), block.used)

/-- A directive, which ends all blocks. -/
def directive (s : Scanner) (cs : List Char) : Option (Scanner × Nat) := do
  let s ← (s.unroll (-1)).dropKey
  let token ← readDirective cs
  return ((s.allowKey false).emit token.value, token.used)

/-- The signs that cannot start a plain scalar. -/
def isIndicator (ch : Char) : Bool := "-?:,[]\x7b\x7d#&*!|>'\"%@`".toList.contains ch

/-- Whether a character starts a plain scalar; a hyphen, and in a block a question mark or colon, do
so in front of a sign. -/
def startsPlain (inFlow : Bool) (ch : Char) (cs : List Char) : Bool :=
  !(isGap ch || isBreak ch || isIndicator ch) ||
  (ch == '-' && !(cs.head?.map isGap).getD false) ||
  (!inFlow && (ch == '?' || ch == ':') && !gapNext cs)

/-- The token that starts with a character, and the number of characters it takes beyond that. -/
def token (c : Cursor) (ch : Char) (cs : List Char) (s : Scanner) : Option (Scanner × Nat) :=
  let single (s : Option Scanner) := s.map fun s => (s, 0)
  if c.column == 0 && ch == '%' then s.directive cs
  else if c.column == 0 && atDocumentMark '-' (ch :: cs) then
    (s.documentMark .documentStart).map fun s => (s, 2)
  else if c.column == 0 && atDocumentMark '.' (ch :: cs) then
    (s.documentMark .documentEnd).map fun s => (s, 2)
  else if ch == '[' then single (s.openFlow .flowSequenceStart c)
  else if ch == '\x7b' then single (s.openFlow .flowMappingStart c)
  else if ch == ']' then single (s.closeFlow .flowSequenceEnd)
  else if ch == '\x7d' then single (s.closeFlow .flowMappingEnd)
  else if ch == ',' then single (s.dropKey.map fun s => (s.allowKey true).emit .flowEntry)
  else if ch == '-' && gapNext cs then single (s.blockEntry c)
  else if ch == '?' && (s.inFlow || gapNext cs) then single (s.explicitKey c)
  else if ch == ':' && (s.inFlow || gapNext cs) then single (s.colon c)
  else if ch == '*' then s.wordToken c (readAnchor cs) .alias
  else if ch == '&' then s.wordToken c (readAnchor cs) .anchor
  else if ch == '!' then s.wordToken c (readTag s.inFlow cs) id
  else if ch == '|' && !s.inFlow then s.blockToken true cs
  else if ch == '>' && !s.inFlow then s.blockToken false cs
  else if ch == '\'' then s.wordToken c (readSingle false [] .nothing 0 cs) (.scalar false)
  else if ch == '"' then s.wordToken c (readDouble false 0 0 [] .nothing 0 cs) (.scalar false)
  else if startsPlain s.inFlow ch cs then s.plainToken c
  else none

/-- The gaps, comments and line breaks in front of a token: their number of characters, and whether
a key may start behind them. In a block a tab does not count as a gap where a key may start. -/
def skipGaps (inFlow keyAllowed lineStart inComment : Bool) (used : Nat) : List Char → Nat × Bool
  | [] => (used, keyAllowed)
  | c :: cs =>
    if isBreak c then skipGaps inFlow (keyAllowed || !inFlow) true false (used + 1) cs
    else if inComment then skipGaps inFlow keyAllowed false true (used + 1) cs
    else if lineStart && c == orderMark then skipGaps inFlow keyAllowed false false (used + 1) cs
    else if c == ' ' || (c == '\t' && (inFlow || !keyAllowed)) then
      skipGaps inFlow keyAllowed false false (used + 1) cs
    else if c == '#' then skipGaps inFlow keyAllowed false true (used + 1) cs
    else (used, keyAllowed)

/-- Moves to the next token and ends what it ends: keys that are stale, and blocks right of it. -/
def toToken (c : Cursor) (s : Scanner) : Option (Scanner × Cursor) := do
  let (used, allowed) := skipGaps s.inFlow s.keyAllowed (c.column == 0) false 0 c.rest
  let c' := c.advance used
  let s ← (s.allowKey allowed).dropStale c'
  return (s.unroll c'.column, c')

/-- The tokens of a text, and whether it breaks off at a fault. -/
structure Scanned where
  tokens : List Token
  broken : Bool

def finish (s : Scanner) : Scanned :=
  match (s.unroll (-1)).dropKey with
  | some s => ⟨(s.emit .streamEnd).tokens.reverse, false⟩
  | none => ⟨(s.unroll (-1)).tokens.reverse, true⟩

theorem toToken_rest_length {c c' : Cursor} {s s' : Scanner} (h : s.toToken c = some (s', c')) :
    c'.rest.length ≤ c.rest.length := by
  simp only [toToken, Option.bind_eq_bind, Option.bind_eq_some_iff, Option.pure_def,
    Option.some.injEq, Prod.mk.injEq] at h
  obtain ⟨_, _, _, rfl⟩ := h
  simp [Cursor.advance_rest]

set_option linter.unusedVariables false in
def run (c : Cursor) (s : Scanner) : Scanned :=
  match h : s.toToken c with
  | none => ⟨s.tokens.reverse, true⟩
  | some (s', c') =>
    match hc : c'.rest with
    | [] => s'.finish
    | ch :: cs =>
      match s'.token c' ch cs with
      | none => ⟨s'.tokens.reverse, true⟩
      | some (s'', used) => run (c'.advance (used + 1)) s''
termination_by c.rest.length
decreasing_by
  have hle := toToken_rest_length h
  rw [Cursor.advance_rest, hc, List.drop_succ_cons, List.length_drop]
  rw [hc, List.length_cons] at hle
  omega

end Scanner

/-- The tokens of a text up to its first fault, if it has one. -/
def scan (text : String) : Scanner.Scanned :=
  let (chars, broken) := readText text
  let scanned := Scanner.start.run ⟨chars, 0, 0, 0⟩
  if broken then ⟨scanned.tokens.filter (· ≠ .streamEnd), true⟩ else scanned

end CrdBindings.Yaml
