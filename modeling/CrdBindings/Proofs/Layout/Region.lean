import CrdBindings.Layout.Line
import CrdBindings.Proofs.Literal
import CrdBindings.Text.Blank
import CrdBindings.Text.Lines

/-!
What a place in source text belongs to: code, a line comment or a string literal. A written line is
read back for what it is as long as its code is plain and no comment in it has a line feed.
-/

namespace CrdBindings.Layout
set_option autoImplicit false

/-- Behind a slash in code a comment may start, and behind a backslash in a literal any character
may follow. -/
inductive Region where
  | code
  | slash
  | comment
  | literal
  | escape
deriving DecidableEq

namespace Region

def next (r : Region) (c : Char) : Region :=
  match r with
  | code => if c = '/' then slash else if c = '"' then literal else code
  | slash => if c = '/' then comment else if c = '"' then literal else code
  | comment => if c = '\n' then code else comment
  | literal => if c = '"' then code else if c = '\\' then escape else literal
  | escape => literal

/-- Whether a character is code. The marks that open a comment or close a literal are. -/
def shows (r : Region) (c : Char) : Bool :=
  match r with
  | code | slash => true
  | comment => c == '\n'
  | literal => c == '"'
  | escape => false

def after (r : Region) (cs : List Char) : Region := cs.foldl next r

def codeOf (r : Region) : List Char → List Char
  | [] => []
  | c :: cs => if r.shows c then c :: codeOf (r.next c) cs else codeOf (r.next c) cs

/-- A text leads from a region to another, and so much of it is code. -/
structure Scans (r : Region) (text code : List Char) (r' : Region) : Prop where
  code : r.codeOf text = code
  after : r.after text = r'

theorem scans_nil (r : Region) : Scans r [] [] r := ⟨rfl, rfl⟩

theorem codeOf_append (r : Region) (cs ds : List Char) :
    r.codeOf (cs ++ ds) = r.codeOf cs ++ (r.after cs).codeOf ds := by
  induction cs generalizing r with
  | nil => rfl
  | cons c cs ih =>
    simp only [List.cons_append, codeOf, ih, after, List.foldl_cons]
    split <;> rfl

theorem Scans.append {r r₁ r₂ : Region} {cs ds code₁ code₂ : List Char} (h₁ : Scans r cs code₁ r₁)
    (h₂ : Scans r₁ ds code₂ r₂) : Scans r (cs ++ ds) (code₁ ++ code₂) r₂ where
  code := by rw [codeOf_append, h₁.code, h₁.after, h₂.code]
  after := by
    have h := h₂.after
    rw [← h₁.after] at h
    simpa only [Region.after, List.foldl_append] using h

theorem scans_cons {r r' : Region} {c : Char} {cs code : List Char}
    (h : Scans (r.next c) cs code r') :
    Scans r (c :: cs) (if r.shows c then c :: code else code) r' where
  code := by rw [codeOf, h.code]
  after := h.after

end Region

/-- Characters that open no comment and no literal, and end no line. -/
def isPlain (c : Char) : Bool := c != '/' && c != '"' && c != '\n'

theorem isPlain_iff {c : Char} : isPlain c ↔ c ≠ '/' ∧ c ≠ '"' ∧ c ≠ '\n' := by
  simp [isPlain, and_assoc]

theorem scans_plain {cs : List Char} (h : ∀ c ∈ cs, isPlain c) :
    Region.Scans .code cs cs .code := by
  induction cs with
  | nil => exact Region.scans_nil .code
  | cons c cs ih =>
    obtain ⟨hslash, hquote, -⟩ := isPlain_iff.mp (h c List.mem_cons_self)
    have hnext : Region.next .code c = .code := by
      simp only [Region.next, if_neg hslash, if_neg hquote]
    refine Region.scans_cons ?_
    rw [hnext]
    exact ih fun d hd => h d (List.mem_cons_of_mem c hd)

/-- Characters that stay in a region without being code. -/
theorem scans_hidden {r : Region} {cs : List Char}
    (h : ∀ c ∈ cs, r.next c = r ∧ r.shows c = false) : r.Scans cs [] r := by
  induction cs with
  | nil => exact r.scans_nil
  | cons c cs ih =>
    obtain ⟨hnext, hshows⟩ := h c List.mem_cons_self
    obtain ⟨hcode, hafter⟩ := ih fun d hd => h d (List.mem_cons_of_mem c hd)
    refine ⟨?_, ?_⟩
    · simp only [Region.codeOf, hshows, hnext, hcode, Bool.false_eq_true, if_false]
    · simpa only [Region.after, List.foldl_cons, hnext] using hafter

theorem scans_comment {cs : List Char} (h : '\n' ∉ cs) :
    Region.Scans .comment cs [] .comment := by
  apply scans_hidden
  intro c hc
  have hfeed : c ≠ '\n' := fun he => h (he ▸ hc)
  exact ⟨if_neg hfeed, beq_eq_false_iff_ne.mpr hfeed⟩

theorem scans_literal {cs : List Char} (h : ∀ c ∈ cs, c ≠ '"' ∧ c ≠ '\\') :
    Region.Scans .literal cs [] .literal := by
  apply scans_hidden
  intro c hc
  obtain ⟨hquote, hslash⟩ := h c hc
  exact ⟨(if_neg hquote).trans (if_neg hslash), beq_eq_false_iff_ne.mpr hquote⟩

theorem scans_escapeChar (c : Char) :
    Region.Scans .literal (Text.escapeChar '"' c) [] .literal := by
  rcases Text.escapeChar_cases c with ⟨d, h, -⟩ | ⟨h, hquote, hslash, -⟩ | h
  · rw [h]
    exact ⟨rfl, rfl⟩
  · rw [h]
    exact scans_literal (by simpa using ⟨hquote, hslash⟩)
  · rw [h]
    have hdigits : Region.Scans .literal ('\x7b' :: (Nat.toDigits 16 c.toNat ++ ['\x7d'])) []
        .literal := by
      apply scans_literal
      intro d hd
      simp only [List.mem_cons, List.mem_append, List.not_mem_nil, or_false] at hd
      rcases hd with rfl | hd | rfl
      · decide
      · obtain ⟨k, hk, rfl⟩ := Text.mem_toDigits hd
        exact ⟨(Text.digitChar_plain k hk).1, (Text.digitChar_plain k hk).2.1⟩
      · decide
    have hopen : Region.Scans .literal ['\\', 'u'] [] .literal := ⟨rfl, rfl⟩
    exact hopen.append hdigits

theorem scans_stringLiteral (s : String) :
    Region.Scans .code (Text.stringLiteral s).toList ['"', '"'] .code := by
  have hbody : ∀ cs : List Char,
      Region.Scans .literal (cs.flatMap (Text.escapeChar '"')) [] .literal := by
    intro cs
    induction cs with
    | nil => exact Region.scans_nil .literal
    | cons c cs ih => exact (scans_escapeChar c).append ih
  have hclose : Region.Scans .literal ['"'] ['"'] .code := ⟨rfl, rfl⟩
  rw [Text.stringLiteral, String.toList_ofList]
  have hopen : Region.Scans .code ['"'] ['"'] .literal := ⟨rfl, rfl⟩
  exact hopen.append ((hbody s.toList).append hclose)

end CrdBindings.Layout
