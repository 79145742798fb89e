import CrdBindings.Proofs.Numeral
import CrdBindings.Text.Lines
import Mathlib.Data.List.Forall2
import Mathlib.Data.List.Induction

/-!
Words of digits, and texts with marks between their pieces. Digits without a leading zero are the
numeral of the number that they spell, and a text has only one division at a mark.
-/

namespace CrdBindings.Text
set_option autoImplicit false

theorem isDigit_of_digitValue_lt {c : Char} (h : digitValue c < 10) : c.isDigit := by
  unfold digitValue at h
  split at h
  · assumption
  · split at h
    · omega
    · split at h <;> omega

theorem digitChar_digitValue {c : Char} (h : c.isDigit) : Nat.digitChar (digitValue c) = c := by
  have hcode : 48 ≤ c.toNat ∧ c.toNat ≤ 57 := Char.isDigit_iff_toNat.mp h
  have hdigit : ∀ d < 10, (Nat.digitChar d).toNat = d + 48 := by decide
  rw [digitValue, if_pos h]
  apply Char.toNat_inj.mp
  change (c.toNat - 48).digitChar.toNat = c.toNat
  rw [hdigit (c.toNat - 48) (by omega)]
  omega

theorem ofDigits_concat (base : Nat) (cs : List Char) (c : Char) :
    ofDigits base (cs ++ [c]) = ofDigits base cs * base + digitValue c := by
  rw [ofDigits, ofDigits, List.foldl_append, List.foldl_cons, List.foldl_nil]

/-- Digits without a leading zero are the digits of the number that they spell. -/
theorem numeral_ofDigits {cs : List Char} (hcs : cs ≠ []) (hdigits : ∀ c ∈ cs, c.isDigit)
    (hleading : cs.head? = some '0' → cs = ['0']) : Nat.toDigits 10 (ofDigits 10 cs) = cs := by
  induction cs using List.reverseRecOn with
  | nil => exact absurd rfl hcs
  | append_singleton ds c ih =>
    simp only [List.forall_mem_append, List.forall_mem_singleton] at hdigits
    obtain ⟨hds, hc⟩ := hdigits
    have hlt := digitValue_lt_of_isDigit hc
    have hlast : Nat.toDigits 10 (digitValue c) = [c] := by
      rw [Nat.toDigits_of_lt_base hlt, digitChar_digitValue hc]
    rw [ofDigits_concat]
    by_cases hnil : ds = []
    · subst hnil
      rw [ofDigits, List.foldl_nil, Nat.zero_mul, Nat.zero_add, hlast, List.nil_append]
    · have hhead : ds.head? ≠ some '0' := by
        intro hzero
        have hlength := congrArg List.length (hleading (by rw [List.head?_append, hzero]; rfl))
        rw [List.length_append] at hlength
        have := List.length_pos_iff.mpr hnil
        simp only [List.length_singleton] at hlength
        omega
      have hdigitsOf := ih hnil hds fun hzero => absurd hzero hhead
      have hpos : 0 < ofDigits 10 ds := by
        by_contra hzero
        rw [Nat.eq_zero_of_not_pos hzero, Nat.toDigits_zero] at hdigitsOf
        exact hhead (hdigitsOf ▸ rfl)
      rw [Nat.mul_comm, ← Nat.toDigits_append_toDigits (by decide) hpos hlt, hdigitsOf, hlast]

/-- Digits that spell a number of 64 bits, where leading zeros do not count. -/
structure IsWord (cs : List Char) (n : Nat) : Prop where
  nonempty : cs ≠ []
  digits : ∀ c ∈ cs, c.isDigit
  value : ofDigits 10 cs = n
  fits : n ≤ maxWord

theorem isWord_numeral {n : Nat} (h : n ≤ maxWord) : IsWord (Nat.toDigits 10 n) n :=
  ⟨Nat.toDigits_ne_nil, fun _ => isDigit_of_mem_numeral, ofDigits_numeral n, h⟩

theorem word?_eq_some_iff {cs : List Char} {n : Nat} : word? cs = some n ↔ IsWord cs n := by
  simp only [word?, isNumeral, Bool.and_eq_true, Bool.not_eq_true', List.isEmpty_eq_false_iff,
    List.all_eq_true, decide_eq_true_eq, Option.ite_none_right_eq_some, Option.some.injEq]
  constructor
  · rintro ⟨⟨⟨hcs, hdigits⟩, hfits⟩, rfl⟩
    exact ⟨hcs, fun c hc => isDigit_of_digitValue_lt (hdigits c hc), rfl, hfits⟩
  · rintro ⟨hcs, hdigits, rfl, hfits⟩
    exact ⟨⟨⟨hcs, fun c hc => digitValue_lt_of_isDigit (hdigits c hc)⟩, hfits⟩, rfl⟩

theorem mapM_word?_eq_some_iff {pieces : List (List Char)} {numbers : List Nat} :
    pieces.mapM word? = some numbers ↔ List.Forall₂ IsWord pieces numbers := by
  induction pieces generalizing numbers with
  | nil => simp [eq_comm]
  | cons piece pieces ih =>
    simp only [List.mapM_cons, Option.bind_eq_bind, Option.bind_eq_some_iff, Option.pure_def,
      Option.some.injEq, word?_eq_some_iff, List.forall₂_cons_left_iff, ih]
    constructor
    · rintro ⟨n, hn, rest, hrest, rfl⟩
      exact ⟨n, rest, hn, hrest, rfl⟩
    · rintro ⟨n, rest, hn, hrest, rfl⟩
      exact ⟨n, hn, rest, hrest, rfl⟩

theorem splitAtChar_eq_splitOn (mark : Char) (cs : List Char) :
    splitAtChar mark cs = cs.splitOn mark := by
  induction cs with
  | nil => rfl
  | cons c cs ih =>
    rw [splitAtChar, List.splitOn_cons_eq_if_modifyHead, ih]
    simp only [beq_iff_eq]
    split
    · rfl
    · cases hpieces : cs.splitOn mark with
      | nil => exact absurd hpieces (List.splitOn_ne_nil _ _)
      | cons piece pieces => rfl

theorem not_mem_of_mem_splitAtChar {mark : Char} {cs piece : List Char}
    (h : piece ∈ splitAtChar mark cs) : mark ∉ piece := by
  induction cs generalizing piece with
  | nil =>
    obtain rfl := List.mem_singleton.mp h
    exact List.not_mem_nil
  | cons c cs ih =>
    rw [splitAtChar] at h
    split at h
    · rcases List.mem_cons.mp h with rfl | h
      · exact List.not_mem_nil
      · exact ih h
    · rename_i hc
      split at h
      · rename_i first pieces hpieces
        rcases List.mem_cons.mp h with rfl | h
        · rw [List.mem_cons, not_or]
          exact ⟨Ne.symm hc, ih (hpieces ▸ List.mem_cons_self)⟩
        · exact ih (hpieces ▸ List.mem_cons_of_mem first h)
      · rename_i hnil
        exact absurd hnil (splitAtChar_ne_nil mark cs)

theorem forall_mem_intercalate {p : Char → Prop} {mark : Char} {pieces : List (List Char)}
    (hmark : p mark) : (∀ c ∈ [mark].intercalate pieces, p c) ↔
      ∀ piece ∈ pieces, ∀ c ∈ piece, p c := by
  induction pieces with
  | nil => simp
  | cons piece pieces ih =>
    cases pieces with
    | nil => simp
    | cons next pieces =>
      rw [List.intercalate_cons_cons, List.forall_mem_append, ih, List.forall_mem_append,
        List.forall_mem_singleton, and_iff_left hmark, List.forall_mem_cons (a := piece)]

end CrdBindings.Text
