import CrdBindings.Proofs.Layout.Region
import Mathlib.Algebra.GroupWithZero.Nat

/-!
What is read from written lines: how many line feeds there are, which lines are comments, and what
is left without the contents of comments and literals.
-/

namespace CrdBindings.Layout
set_option autoImplicit false

def feeds (text : String) : Nat := text.toList.count '\n'

/-- Whether a line is a comment, after its indentation. -/
def startsComment (line : List Char) : Bool :=
  ['/', '/'].isPrefixOf (line.dropWhile Text.isBlank)

def commentMarks (text : String) : List Bool :=
  (Text.splitAtChar '\n' text.toList).map startsComment

/-- A text without the contents of its comments and literals. -/
def codeText (text : String) : String := String.ofList (Region.codeOf .code text.toList)

@[simp] theorem feeds_append (a b : String) : feeds (a ++ b) = feeds a + feeds b := by
  simp only [feeds, String.toList_append, List.count_append]

def IsPlain (text : String) : Prop := ∀ c ∈ text.toList, isPlain c

instance (text : String) : Decidable (IsPlain text) := List.decidableBAll _ text.toList

theorem IsPlain.append {a b : String} (ha : IsPlain a) (hb : IsPlain b) : IsPlain (a ++ b) := by
  intro c hc
  rw [String.toList_append] at hc
  exact (List.mem_append.mp hc).elim (ha c) (hb c)

theorem IsPlain.feeds_eq {text : String} (h : IsPlain text) : feeds text = 0 :=
  List.count_eq_zero.mpr fun hmem => (isPlain_iff.mp (h '\n' hmem)).2.2 rfl

/-- What stands in front of a comment is nothing but spaces. -/
def IsIndent (text : String) : Prop := ∀ c ∈ text.toList, c = ' '

instance (text : String) : Decidable (IsIndent text) := List.decidableBAll _ text.toList

theorem IsIndent.isPlain {text : String} (h : IsIndent text) : IsPlain text := by
  intro c hc
  rw [h c hc]
  rfl

namespace Piece

def IsPlain : Piece → Prop
  | code text => Layout.IsPlain text
  | literal _ => True

def bare : Piece → String
  | code text => text
  | literal _ => "\"\""

theorem scans {p : Piece} (h : p.IsPlain) :
    Region.Scans .code p.text.toList p.bare.toList .code := by
  cases p with
  | code text => exact scans_plain h
  | literal text =>
    have hbare : "\"\"".toList = ['"', '"'] := by decide
    rw [bare, hbare]
    exact scans_stringLiteral text

theorem feeds_text {p : Piece} (h : p.IsPlain) : feeds p.text = 0 := by
  cases p with
  | code text => exact Layout.IsPlain.feeds_eq h
  | literal text => exact List.count_eq_zero.mpr (Text.feed_not_mem_stringLiteral text)

theorem head_text (p : Piece) (h : p.IsPlain) :
    (p.text.toList.dropWhile Text.isBlank).head? ≠ some '/' := by
  cases p with
  | code text =>
    intro hhead
    have hmem := (List.dropWhile_suffix _).subset (List.mem_of_head? hhead)
    exact (isPlain_iff.mp (h '/' hmem)).1 rfl
  | literal text =>
    have hquote : (Text.stringLiteral text).toList =
        '"' :: (text.toList.flatMap (Text.escapeChar '"') ++ ['"']) := by
      simp [Text.stringLiteral]
    have hblank : Text.isBlank '"' = false := by decide
    simp [Piece.text, hquote, hblank]

end Piece

namespace Line

def IsPlain : Line → Prop
  | code pieces => ∀ p ∈ pieces, p.IsPlain
  | comment indent _ => IsIndent indent

def isComment : Line → Bool
  | code _ => false
  | comment _ _ => true

def feeds : Line → Nat
  | code _ => 0
  | comment _ text => Layout.feeds text

/-- A line without the contents of a comment and of literals. -/
def bare : Line → String
  | code pieces => String.join (pieces.map Piece.bare)
  | comment indent _ => indent ++ "//"

theorem scans {l : Line} (h : l.IsPlain) (hfeeds : l.feeds = 0) :
    Region.Scans .code (l.text ++ "\n").toList (l.bare ++ "\n").toList .code := by
  cases l with
  | code pieces =>
    have hend : Region.Scans .code ['\n'] ['\n'] .code := ⟨rfl, rfl⟩
    have hpieces : Region.Scans .code (String.join (pieces.map Piece.text)).toList
        (String.join (pieces.map Piece.bare)).toList .code := by
      induction pieces with
      | nil => exact Region.scans_nil .code
      | cons p ps ih =>
        simp only [List.map_cons, String.join_cons, String.toList_append]
        exact (Piece.scans (h p List.mem_cons_self)).append
          (ih (fun q hq => h q (List.mem_cons_of_mem p hq)) rfl)
    rw [String.toList_append, String.toList_append]
    exact hpieces.append hend
  | comment indent text =>
    have hindent : Region.Scans .code indent.toList indent.toList .code :=
      scans_plain (IsIndent.isPlain h)
    have hopen : Region.Scans .code ['/', '/'] ['/', '/'] .comment := ⟨rfl, rfl⟩
    have htext := scans_comment (List.count_eq_zero.mp hfeeds)
    have hend : Region.Scans .comment ['\n'] ['\n'] .code := ⟨rfl, rfl⟩
    simpa [Line.text, bare] using hindent.append (hopen.append (htext.append hend))

theorem feeds_text {l : Line} (h : l.IsPlain) : Layout.feeds l.text = l.feeds := by
  cases l with
  | code pieces =>
    show Layout.feeds (String.join (pieces.map Piece.text)) = 0
    induction pieces with
    | nil => rfl
    | cons p ps ih =>
      rw [List.map_cons, String.join_cons, feeds_append, Piece.feeds_text (h p List.mem_cons_self),
        ih fun q hq => h q (List.mem_cons_of_mem p hq)]
  | comment indent text =>
    have hindent : Layout.IsPlain indent := IsIndent.isPlain h
    have hmark : Layout.feeds "//" = 0 := by decide
    rw [Line.text, feeds_append, feeds_append, hindent.feeds_eq, hmark, feeds, Nat.zero_add]

/-- Plain code has nothing but blanks or a character other than a slash in front. -/
theorem head_pieces {pieces : List Piece} (h : ∀ p ∈ pieces, p.IsPlain) :
    ((String.join (pieces.map Piece.text)).toList.dropWhile Text.isBlank).head? ≠ some '/' := by
  induction pieces with
  | nil => simp
  | cons p ps ih =>
    have hrest := ih fun q hq => h q (List.mem_cons_of_mem p hq)
    have hp := h p List.mem_cons_self
    rw [List.map_cons, String.join_cons, String.toList_append, List.dropWhile_append]
    split
    · exact hrest
    · rename_i hne
      cases hdrop : p.text.toList.dropWhile Text.isBlank with
      | nil => simp [hdrop] at hne
      | cons c cs =>
        rintro hhead
        obtain rfl : c = '/' := by simpa using hhead
        exact p.head_text hp (by rw [hdrop]; rfl)

theorem startsComment_text {l : Line} (h : l.IsPlain) :
    startsComment l.text.toList = l.isComment := by
  cases l with
  | code pieces =>
    have hhead := head_pieces h
    unfold startsComment
    show ['/', '/'].isPrefixOf
      ((String.join (pieces.map Piece.text)).toList.dropWhile Text.isBlank) = false
    cases hdrop : (String.join (pieces.map Piece.text)).toList.dropWhile Text.isBlank with
    | nil => rfl
    | cons c cs =>
      have hc : '/' ≠ c := fun he => hhead (by rw [hdrop, he]; rfl)
      simp [List.isPrefixOf, hc]
  | comment indent text =>
    have hblank : ∀ c ∈ indent.toList, Text.isBlank c := by
      intro c hc
      rw [h c hc]
      decide
    have hslash : Text.isBlank '/' = false := by decide
    unfold startsComment
    simp [Line.text, List.dropWhile_append_of_pos hblank, hslash, List.isPrefixOf, isComment]

def bareText (lines : List Line) : String := String.join (lines.map fun l => l.bare ++ "\n")

theorem textOf_cons (l : Line) (ls : List Line) :
    textOf (l :: ls) = l.text ++ "\n" ++ textOf ls := by
  rw [textOf, List.map_cons, String.join_cons, textOf]

theorem bareText_cons (l : Line) (ls : List Line) :
    bareText (l :: ls) = l.bare ++ "\n" ++ bareText ls := by
  rw [bareText, List.map_cons, String.join_cons, bareText]

theorem codeText_textOf {lines : List Line} (h : ∀ l ∈ lines, l.IsPlain)
    (hfeeds : ∀ l ∈ lines, l.feeds = 0) : codeText (textOf lines) = bareText lines := by
  have hscan : Region.Scans .code (textOf lines).toList (bareText lines).toList .code := by
    induction lines with
    | nil => exact Region.scans_nil .code
    | cons l ls ih =>
      have hrest := ih (fun k hk => h k (List.mem_cons_of_mem l hk))
        fun k hk => hfeeds k (List.mem_cons_of_mem l hk)
      rw [textOf_cons, bareText_cons, String.toList_append (t := textOf ls),
        String.toList_append (t := bareText ls)]
      exact (scans (h l List.mem_cons_self) (hfeeds l List.mem_cons_self)).append hrest
  rw [codeText, hscan.code, String.ofList_toList]

/-- A text of lines has a line feed behind each of them, and those inside comments. -/
theorem feeds_textOf {lines : List Line} (h : ∀ l ∈ lines, l.IsPlain) :
    Layout.feeds (textOf lines) = lines.length + (lines.map feeds).sum := by
  induction lines with
  | nil => rfl
  | cons l ls ih =>
    have hrest := ih fun k hk => h k (List.mem_cons_of_mem l hk)
    have hend : Layout.feeds "\n" = 1 := by decide
    rw [textOf_cons, feeds_append, feeds_append, hend, hrest, feeds_text (h l List.mem_cons_self),
      List.length_cons, List.map_cons, List.sum_cons]
    omega

end Line

theorem splitAtChar_length (mark : Char) (cs : List Char) :
    (Text.splitAtChar mark cs).length = cs.count mark + 1 := by
  induction cs with
  | nil => rfl
  | cons c cs ih =>
    unfold Text.splitAtChar
    split
    · rename_i hc
      rw [hc, List.length_cons, ih, List.count_cons_self]
    · rename_i hc
      rw [List.count_cons_of_ne hc, ← ih]
      cases hpieces : Text.splitAtChar mark cs with
      | nil => simp [hpieces] at ih
      | cons piece pieces => rfl

namespace Line

theorem feed_not_mem_text {l : Line} (h : l.IsPlain) (hfeeds : l.feeds = 0) :
    '\n' ∉ l.text.toList :=
  List.count_eq_zero.mp ((feeds_text h).trans hfeeds)

/-- Lines without line feeds of their own are the lines of their text. -/
theorem splitAtChar_textOf {lines : List Line} (h : ∀ l ∈ lines, '\n' ∉ l.text.toList) :
    Text.splitAtChar '\n' (textOf lines).toList = lines.map (·.text.toList) ++ [[]] := by
  induction lines with
  | nil => rfl
  | cons l ls ih =>
    have hrest := ih fun k hk => h k (List.mem_cons_of_mem l hk)
    have htext : (textOf (l :: ls)).toList = l.text.toList ++ '\n' :: (textOf ls).toList := by
      simp [textOf_cons]
    rw [htext, Text.splitAtChar_mark, Text.splitAtChar_of_not_mem (h l List.mem_cons_self), hrest]
    rfl

theorem commentMarks_textOf {lines : List Line} (h : ∀ l ∈ lines, l.IsPlain)
    (hfeeds : ∀ l ∈ lines, l.feeds = 0) :
    commentMarks (textOf lines) = lines.map isComment ++ [false] := by
  have hmarks : lines.map (fun l => startsComment l.text.toList) = lines.map isComment :=
    List.map_congr_left fun l hl => startsComment_text (h l hl)
  rw [commentMarks, splitAtChar_textOf fun l hl => feed_not_mem_text (h l hl) (hfeeds l hl),
    List.map_append, List.map_map]
  exact congrArg (· ++ [false]) hmarks

end Line

theorem commentMarks_length (text : String) : (commentMarks text).length = feeds text + 1 := by
  rw [commentMarks, List.length_map, splitAtChar_length, feeds]

end CrdBindings.Layout
