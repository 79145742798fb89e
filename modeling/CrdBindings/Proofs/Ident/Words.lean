import CrdBindings.Ident
import Mathlib

/-!
The reserved words of the output language, listed by the role they have in it, and the tables of the
keyword escape against them: no word is missing from a table and none is there that is not reserved.
-/

namespace CrdBindings.Ident
set_option autoImplicit false

/-- The words with a meaning of their own. -/
def strictWords : List String := [
  "as", "async", "await", "break", "const", "continue", "crate", "dyn", "else", "enum", "extern",
  "false", "fn", "for", "if", "impl", "in", "let", "loop", "match", "mod", "move", "mut", "pub",
  "ref", "return", "self", "Self", "static", "struct", "super", "trait", "true", "type", "unsafe",
  "use", "where", "while"]

/-- The words without a meaning that are kept for later. -/
def futureWords : List String := [
  "abstract", "become", "box", "do", "final", "macro", "override", "priv", "try", "typeof",
  "unsized", "virtual", "yield"]

/-- The words that stand for a place in a path or for the own type. They have no raw form. -/
def pathWords : List String := ["super", "self", "Self", "crate"]

/-- A word that is no identifier as it stands. -/
def IsReserved (word : String) : Prop := word ∈ strictWords ++ futureWords

/-- A reserved word that the mark of the raw form makes an identifier. -/
structure HasRawForm (word : String) : Prop where
  reserved : IsReserved word
  pathless : word ∉ pathWords

theorem mem_keywords_iff {word : String} : word ∈ keywords ↔ IsReserved word := by
  have hperm : keywords.Perm (strictWords ++ futureWords) := by decide +kernel
  exact hperm.mem_iff

theorem mem_pathKeywords_iff {word : String} :
    word ∈ pathKeywords ↔ IsReserved word ∧ ¬ HasRawForm word := by
  have hpath : word ∈ pathKeywords ↔ word ∈ pathWords := by
    simp only [pathKeywords, pathWords, List.mem_cons, List.not_mem_nil, or_false]
    tauto
  have hreserved : word ∈ pathWords → IsReserved word := by
    intro h
    have hsubset : pathWords ⊆ strictWords := by simp [pathWords, strictWords]
    exact List.mem_append_left _ (hsubset h)
  rw [hpath]
  constructor
  · exact fun h => ⟨hreserved h, fun hraw => hraw.pathless h⟩
  · rintro ⟨h, hraw⟩
    by_contra hpathless
    exact hraw ⟨h, hpathless⟩

/-- Of the reserved words one has a capital; the others consist of small letters. -/
theorem IsReserved.small {word : String} (h : IsReserved word) :
    word = "Self" ∨ (word.toList ≠ [] ∧ word.toList.all Char.isLower = true) := by
  have hwords : ∀ word ∈ strictWords ++ futureWords,
      word = "Self" ∨ (word.toList ≠ [] ∧ word.toList.all Char.isLower = true) := by
    decide +kernel
  exact hwords word h

/-- Only the first letter of a reserved word may be a capital. -/
theorem IsReserved.tail {word : String} (h : IsReserved word) :
    ∀ c ∈ word.toList.tail, c.isUpper = false := by
  intro c hc
  rw [Bool.eq_false_iff]
  rcases h.small with rfl | ⟨-, hsmall⟩
  · have htail : "Self".toList.tail.all Char.isLower = true := by decide
    exact Char.not_isUpper_of_isLower (List.all_eq_true.mp htail c hc)
  · exact Char.not_isUpper_of_isLower (List.all_eq_true.mp hsmall c (List.mem_of_mem_tail hc))

theorem IsReserved.letters {word : String} (h : IsReserved word) :
    ∀ c ∈ word.toList, c.isAlpha = true := by
  intro c hc
  rcases h.small with rfl | ⟨-, hsmall⟩
  · have hall : "Self".toList.all Char.isAlpha = true := by decide
    exact List.all_eq_true.mp hall c hc
  · rw [Char.isAlpha, List.all_eq_true.mp hsmall c hc, Bool.or_true]

/-- The reserved words with a raw form start with a small letter. -/
theorem HasRawForm.head {word : String} (h : HasRawForm word) :
    ∃ d, word.toList.head? = some d ∧ d.isLower = true := by
  rcases h.reserved.small with rfl | ⟨hne, hsmall⟩
  · exact absurd (by simp [pathWords]) h.pathless
  · obtain ⟨d, ds, hcons⟩ := List.exists_cons_of_ne_nil hne
    rw [hcons] at hsmall ⊢
    exact ⟨d, rfl, (Bool.and_eq_true_iff.mp hsmall).1⟩

/-- A text with a digit or any other mark in it is not reserved. -/
theorem not_isReserved {text : String} {c : Char} (hc : c ∈ text.toList)
    (halpha : c.isAlpha = false) : ¬ IsReserved text := by
  intro h
  rw [h.letters c hc] at halpha
  cases halpha

theorem escapeKeyword_of_hasRawForm {word : String} (h : HasRawForm word) :
    escapeKeyword word = "r#" ++ word := by
  have hpath : word ∉ pathKeywords := fun hmem => (mem_pathKeywords_iff.mp hmem).2 h
  simp [escapeKeyword, hpath, mem_keywords_iff.mpr h.reserved]

theorem escapeKeyword_of_free {ident : String} (h : ¬ IsReserved ident) :
    escapeKeyword ident = ident := by
  have hpath : ident ∉ pathKeywords := fun hmem => h (mem_pathKeywords_iff.mp hmem).1
  simp [escapeKeyword, hpath, mt mem_keywords_iff.mp h]

/-- What the escape does to an identifier: a reserved word gets a mark behind it where it has no raw
form, or else its raw form, and any other identifier stays. -/
theorem escapeKeyword_cases (ident : String) :
    (IsReserved ident ∧ ¬ HasRawForm ident ∧ escapeKeyword ident = ident ++ "_") ∨
    (HasRawForm ident ∧ escapeKeyword ident = "r#" ++ ident) ∨
    (¬ IsReserved ident ∧ escapeKeyword ident = ident) := by
  by_cases hreserved : IsReserved ident
  · by_cases hraw : HasRawForm ident
    · exact .inr (.inl ⟨hraw, escapeKeyword_of_hasRawForm hraw⟩)
    · have hpath : ident ∈ pathKeywords := mem_pathKeywords_iff.mpr ⟨hreserved, hraw⟩
      exact .inl ⟨hreserved, hraw, if_pos (List.contains_iff_mem.mpr hpath)⟩
  · exact .inr (.inr ⟨hreserved, escapeKeyword_of_free hreserved⟩)

end CrdBindings.Ident
