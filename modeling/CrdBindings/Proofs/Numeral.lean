import CrdBindings.Text.Blank
import CrdBindings.Text.Digits

/-!
Runs of characters, and decimal numerals. A run is taken off a text up to where it stops. The digits of
a number spell it, without a leading zero.
-/

namespace CrdBindings.Text
set_option autoImplicit false

/-- A text that does not go on with a character of the kind. -/
def Stops (kind : Char → Bool) (rest : List Char) : Prop := ∀ c ∈ rest.head?, kind c = false

section Stops

variable {kind : Char → Bool} {cs rest : List Char}

theorem Stops.nil : Stops kind [] := nofun

theorem Stops.cons {c : Char} (h : kind c = false) (rest : List Char) : Stops kind (c :: rest) := by
  intro d hd
  cases hd
  exact h

theorem Stops.takeWhile_eq (h : Stops kind rest) : rest.takeWhile kind = [] := by
  cases rest with
  | nil => rfl
  | cons c rest => simp [h c rfl]

theorem Stops.dropWhile_eq (h : Stops kind rest) : rest.dropWhile kind = rest := by
  cases rest with
  | nil => rfl
  | cons c rest => simp [h c rfl]

theorem takeWhile_run (hcs : ∀ c ∈ cs, kind c) (h : Stops kind rest) :
    (cs ++ rest).takeWhile kind = cs := by
  rw [List.takeWhile_append_of_pos hcs, h.takeWhile_eq, List.append_nil]

theorem dropWhile_run (hcs : ∀ c ∈ cs, kind c) (h : Stops kind rest) :
    (cs ++ rest).dropWhile kind = rest := by
  rw [List.dropWhile_append_of_pos hcs, h.dropWhile_eq]

theorem run_inj {ds other : List Char} (hcs : ∀ c ∈ cs, kind c) (hds : ∀ d ∈ ds, kind d)
    (hrest : Stops kind rest) (hother : Stops kind other) (h : cs ++ rest = ds ++ other) :
    cs = ds ∧ rest = other := by
  have htake := congrArg (List.takeWhile kind) h
  have hdrop := congrArg (List.dropWhile kind) h
  rw [takeWhile_run hcs hrest, takeWhile_run hds hother] at htake
  rw [dropWhile_run hcs hrest, dropWhile_run hds hother] at hdrop
  exact ⟨htake, hdrop⟩

end Stops

theorem isDigit_of_mem_numeral {n : Nat} {c : Char} (h : c ∈ Nat.toDigits 10 n) : c.isDigit :=
  Nat.isDigit_of_mem_toDigits (by decide) (by decide) h

theorem isPrinted_of_mem_numeral {n : Nat} {c : Char} (h : c ∈ Nat.toDigits 10 n) : isPrinted c := by
  apply isPrinted_of_isAlphanum
  rw [isDigit_of_mem_numeral h, Bool.or_true]

theorem ofDigits_eq_ofDigitChars {cs : List Char} (h : ∀ c ∈ cs, c.isDigit) :
    ofDigits 10 cs = Nat.ofDigitChars 10 cs 0 := by
  rw [ofDigits, Nat.ofDigitChars_eq_foldl]
  generalize 0 = start
  induction cs generalizing start with
  | nil => rfl
  | cons c cs ih =>
    obtain ⟨hc, hcs⟩ := List.forall_mem_cons.mp h
    rw [List.foldl_cons, List.foldl_cons, ih hcs, digitValue, if_pos hc, Nat.mul_comm]

theorem ofDigits_numeral (n : Nat) : ofDigits 10 (Nat.toDigits 10 n) = n := by
  rw [ofDigits_eq_ofDigitChars fun c => isDigit_of_mem_numeral, Nat.ofDigitChars_ten_toDigits]

theorem head?_numeral {n : Nat} (h : (Nat.toDigits 10 n).head? = some '0') : n = 0 := by
  induction n using Nat.strongRecOn with
  | ind n ih =>
    by_cases hn : n < 10
    · rw [Nat.toDigits_of_lt_base hn] at h
      exact Nat.digitChar_eq_zero.mp (Option.some.inj h)
    · rw [Nat.toDigits_of_base_le (by decide) (by omega), List.head?_append] at h
      have hzero : n / 10 = 0 := by
        apply ih (n / 10) (by omega)
        cases hhead : (Nat.toDigits 10 (n / 10)).head? with
        | none => exact absurd (List.head?_eq_none_iff.mp hhead) Nat.toDigits_ne_nil
        | some d =>
          rw [hhead] at h
          exact h
      omega

/-- Only zero is spelled with a leading zero, and by nothing else. -/
theorem numeral_leading (n : Nat) :
    ¬ ((Nat.toDigits 10 n).length > 1 ∧ (Nat.toDigits 10 n).head? = some '0') := by
  rintro ⟨hlength, hhead⟩
  obtain rfl := head?_numeral hhead
  exact absurd hlength (by decide)

theorem digitValue_lt_of_isDigit {c : Char} (h : c.isDigit) : digitValue c < 10 := by
  have hle : c.toNat ≤ 57 := (Char.isDigit_iff_toNat.mp h).2
  rw [digitValue, if_pos h]
  change c.toNat - 48 < 10
  omega

/-- What a list is turned into, item by item, comes from its items. -/
theorem exists_of_mem_mapM {α β : Type} {f : α → Option β} {as : List α} {bs : List β}
    (h : as.mapM f = some bs) {b : β} (hb : b ∈ bs) : ∃ a ∈ as, f a = some b := by
  induction as generalizing bs with
  | nil =>
    cases h
    cases hb
  | cons a as ih =>
    rw [List.mapM_cons] at h
    obtain ⟨first, hfirst, h⟩ := Option.bind_eq_some_iff.mp h
    obtain ⟨rest, hrest, h⟩ := Option.bind_eq_some_iff.mp h
    cases h
    rcases List.mem_cons.mp hb with rfl | hb
    · exact ⟨a, List.mem_cons_self, hfirst⟩
    · obtain ⟨a', ha', hfa'⟩ := ih hrest hb
      exact ⟨a', List.mem_cons_of_mem a ha', hfa'⟩

end CrdBindings.Text
