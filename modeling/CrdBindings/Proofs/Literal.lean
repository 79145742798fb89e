import CrdBindings.Text.Digits
import CrdBindings.Text.Quoted

/-!
Reading a literal back. A reader follows the escapes of a text between double quotes; what it reads
from the literal of a string is that string, and no literal has a line feed of its own.
-/

namespace CrdBindings.Text
set_option autoImplicit false

theorem mem_toDigits {n : Nat} {d : Char} (h : d ∈ Nat.toDigits 16 n) :
    ∃ k < 16, d = Nat.digitChar k := by
  induction n using Nat.strongRecOn with
  | ind n ih =>
    by_cases hn : n < 16
    · rw [Nat.toDigits_of_lt_base hn] at h
      exact ⟨n, hn, List.mem_singleton.mp h⟩
    · rw [Nat.toDigits_of_base_le (by decide) (by omega)] at h
      rcases List.mem_append.mp h with h | h
      · exact ih (n / 16) (by omega) h
      · exact ⟨n % 16, by omega, List.mem_singleton.mp h⟩

theorem digitValue_digitChar : ∀ k < 16, digitValue (Nat.digitChar k) = k := by
  decide

theorem digitChar_plain : ∀ k < 16, Nat.digitChar k ≠ '"' ∧ Nat.digitChar k ≠ '\\' ∧
    Nat.digitChar k ≠ '\n' ∧ Nat.digitChar k ≠ '\x7d' := by
  decide

def shortEscape? (c : Char) : Option Char :=
  if c = '0' then some '\x00'
  else if c = 't' then some '\t'
  else if c = 'n' then some '\n'
  else if c = 'r' then some '\r'
  else if c = '\\' || c = '"' || c = '\'' then some c
  else none

/-- Where a reader stands in a literal: between characters, behind a backslash, before the brace of
a code, or behind some digits of it. -/
inductive Reader where
  | plain
  | escape
  | brace
  | digits (code : Nat)

/-- Reads a literal up to its closing quotation mark: the text, and what stands behind the mark. -/
def Reader.read : Reader → List Char → Option (List Char × List Char)
  | _, [] => none
  | plain, c :: cs =>
    if c = '"' then some ([], cs)
    else if c = '\\' then escape.read cs
    else (plain.read cs).map fun (text, rest) => (c :: text, rest)
  | escape, c :: cs =>
    if c = 'u' then brace.read cs
    else
      match shortEscape? c with
      | some d => (plain.read cs).map fun (text, rest) => (d :: text, rest)
      | none => none
  | brace, c :: cs => if c = '\x7b' then (digits 0).read cs else none
  | digits code, c :: cs =>
    if c = '\x7d' then (plain.read cs).map fun (text, rest) => (Char.ofNat code :: text, rest)
    else
      match hexValue? c with
      | some d => (digits (code * 16 + d)).read cs
      | none => none

theorem shortEscape?_plain {c d : Char} (h : shortEscape? d = some c) : d ≠ 'u' ∧ d ≠ '\n' := by
  constructor
  · rintro rfl
    cases h
  · rintro rfl
    cases h

/-- An escape is short, or the character itself, or its code. -/
theorem escapeChar_cases (c : Char) :
    (∃ d, escapeChar '"' c = ['\\', d] ∧ shortEscape? d = some c) ∨
    (escapeChar '"' c = [c] ∧ c ≠ '"' ∧ c ≠ '\\' ∧ c ≠ '\n') ∨
    escapeChar '"' c = '\\' :: 'u' :: '\x7b' :: (Nat.toDigits 16 c.toNat ++ ['\x7d']) := by
  unfold escapeChar
  split
  · rename_i h
    exact .inl ⟨'0', rfl, by rw [h]; rfl⟩
  split
  · rename_i h
    exact .inl ⟨'t', rfl, by rw [h]; rfl⟩
  split
  · rename_i h
    exact .inl ⟨'n', rfl, by rw [h]; rfl⟩
  split
  · rename_i h
    exact .inl ⟨'r', rfl, by rw [h]; rfl⟩
  split
  · rename_i h
    refine .inl ⟨c, rfl, ?_⟩
    simp only [Bool.or_eq_true, decide_eq_true_eq] at h
    rcases h with rfl | rfl <;> rfl
  split
  · rename_i hfeed _ hmarks _
    simp only [Bool.or_eq_true, decide_eq_true_eq, not_or] at hmarks
    exact .inr (.inl ⟨rfl, hmarks.2, hmarks.1, hfeed⟩)
  · exact .inr (.inr rfl)

theorem read_toDigits (n : Nat) (rest : List Char) :
    (Reader.digits 0).read (Nat.toDigits 16 n ++ rest) = (Reader.digits n).read rest := by
  induction n using Nat.strongRecOn generalizing rest with
  | ind n ih =>
    have hstep : ∀ code k, k < 16 → (Reader.digits code).read (Nat.digitChar k :: rest) =
        (Reader.digits (code * 16 + k)).read rest := by
      intro code k hk
      rw [Reader.read, if_neg (digitChar_plain k hk).2.2.2]
      simp only [hexValue?, digitValue_digitChar k hk, if_pos hk]
    by_cases hn : n < 16
    · rw [Nat.toDigits_of_lt_base hn, List.singleton_append, hstep 0 n hn]
      simp only [Nat.zero_mul, Nat.zero_add]
    · rw [Nat.toDigits_of_base_le (by decide) (by omega), List.append_assoc,
        ih (n / 16) (by omega), List.singleton_append, hstep (n / 16) (n % 16) (by omega),
        Nat.div_add_mod']

theorem read_escapeChar (c : Char) (rest : List Char) :
    Reader.plain.read (escapeChar '"' c ++ rest) =
      (Reader.plain.read rest).map fun (text, rest) => (c :: text, rest) := by
  rcases escapeChar_cases c with ⟨d, h, hd⟩ | ⟨h, hquote, hslash, -⟩ | h
  · rw [h]
    simp [Reader.read, (shortEscape?_plain hd).1, hd]
  · rw [h]
    simp [Reader.read, hquote, hslash]
  · rw [h]
    simp only [List.cons_append, List.append_assoc, List.nil_append]
    have hcode : (Reader.digits c.toNat).read ('\x7d' :: rest) =
        (Reader.plain.read rest).map fun (text, rest) => (c :: text, rest) := by
      simp [Reader.read]
    rw [← hcode, ← read_toDigits c.toNat]
    rfl

theorem read_flatMap_escapeChar (text rest : List Char) :
    Reader.plain.read (text.flatMap (escapeChar '"') ++ '"' :: rest) = some (text, rest) := by
  induction text with
  | nil => rfl
  | cons c cs ih => rw [List.flatMap_cons, List.append_assoc, read_escapeChar, ih]; rfl

theorem feed_not_mem_escapeChar (c : Char) : '\n' ∉ escapeChar '"' c := by
  rcases escapeChar_cases c with ⟨d, h, hd⟩ | ⟨h, -, -, hfeed⟩ | h
  · simp [h, (shortEscape?_plain hd).2.symm]
  · simp [h, hfeed.symm]
  · intro hmem
    simp only [h, List.mem_cons, List.mem_append, List.not_mem_nil, or_false] at hmem
    rcases hmem with hmem | hmem | hmem | hmem | hmem
    · exact absurd hmem (by decide)
    · exact absurd hmem (by decide)
    · exact absurd hmem (by decide)
    · obtain ⟨k, hk, hd⟩ := mem_toDigits hmem
      exact (digitChar_plain k hk).2.2.1 hd.symm
    · exact absurd hmem (by decide)

theorem feed_not_mem_stringLiteral (s : String) : '\n' ∉ (stringLiteral s).toList := by
  intro hmem
  simp only [stringLiteral, String.toList_ofList, List.mem_cons, List.mem_append,
    List.mem_flatMap, List.not_mem_nil, or_false, List.cons_append] at hmem
  rcases hmem with hmem | ⟨c, -, hmem⟩ | hmem
  · exact absurd hmem (by decide)
  · exact feed_not_mem_escapeChar c hmem
  · exact absurd hmem (by decide)

end CrdBindings.Text
