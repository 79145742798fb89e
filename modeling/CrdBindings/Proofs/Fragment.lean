import CrdBindings.Proofs.Grammar.Version

/-!
Texts of fragments. A fragment that was read, with or without a mark and leading zeros, has a text that
is read as the same fragment.
-/

namespace CrdBindings
set_option autoImplicit false

theorem Version.readable_of_ofTag? {tag : String} {v : Version} (h : ofTag? tag = some v) :
    v.Readable := by
  unfold ofTag? at h
  cases hread : read (dropMark (Text.trim tag.toList)) with
  | error fault =>
    rw [hread] at h
    cases h
  | ok w =>
    rw [hread] at h
    obtain rfl := Option.some.inj h
    exact readable_of_read hread

namespace Fragment

open Text (isPrinted)

def Readable : Fragment → Prop
  | major m => m ≤ Text.maxWord
  | line m n => m ≤ Text.maxWord ∧ n ≤ Text.maxWord
  | exact v => v.Readable

theorem Spells.readable {cs : List Char} {fragment : Fragment} (h : Spells cs fragment) :
    fragment.Readable := by
  cases h with
  | version _ hcs => exact (Version.spells_iff.mp hcs).1
  | major hm => exact hm.fits
  | line hm hn => exact ⟨hm.fits, hn.fits⟩
  | patch hm hn hp => exact Version.ofNumbers_readable hm.fits hn.fits hp.fits

theorem text_toList_major (m : Nat) : (major m).text.toList = Nat.toDigits 10 m := by
  simp [text, toString, Nat.toList_repr]

theorem text_toList_line (m n : Nat) :
    (line m n).text.toList = Nat.toDigits 10 m ++ '.' :: Nat.toDigits 10 n := by
  simp [text, toString, Nat.toList_repr]

theorem Readable.isPrinted_text {fragment : Fragment} (h : fragment.Readable) :
    ∀ c ∈ fragment.text.toList, isPrinted c := by
  have hnumeral : ∀ n, ∀ c ∈ Nat.toDigits 10 n, isPrinted c :=
    fun n c hc => Text.isPrinted_of_mem_numeral hc
  cases fragment with
  | major m =>
    rw [text_toList_major]
    exact hnumeral m
  | line m n =>
    rw [text_toList_line]
    simp only [List.forall_mem_append, List.forall_mem_cons]
    exact ⟨hnumeral m, rfl, hnumeral n⟩
  | exact v => exact Version.Readable.isPrinted_text h

theorem text_head (fragment : Fragment) :
    ∃ c cs, fragment.text.toList = c :: cs ∧ c.isDigit := by
  have hnumeral : ∀ (m : Nat) (rest : List Char), ∃ c cs,
      Nat.toDigits 10 m ++ rest = c :: cs ∧ c.isDigit := by
    intro m rest
    obtain ⟨c, cs, hcs⟩ := List.exists_cons_of_ne_nil (Nat.toDigits_ne_nil (n := m) (b := 10))
    refine ⟨c, cs ++ rest, by rw [hcs, List.cons_append], Text.isDigit_of_mem_numeral (n := m) ?_⟩
    rw [hcs]
    exact List.mem_cons_self
  cases fragment with
  | major m =>
    rw [text_toList_major, ← List.append_nil (Nat.toDigits 10 m)]
    exact hnumeral m []
  | line m n =>
    rw [text_toList_line]
    exact hnumeral m _
  | exact v =>
    rw [text, Version.text_toList]
    exact hnumeral v.major _

theorem mem_version_text {v : Version} (h : v.pre ≠ "" ∨ v.build ≠ "") :
    '-' ∈ v.text.toList ∨ '+' ∈ v.text.toList := by
  rw [Version.text_toList]
  rcases h with h | h
  · exact .inl (by simp [Version.behind_of_ne h])
  · exact .inr (by simp [Version.behind_of_ne h])

theorem Readable.spells {fragment : Fragment} (h : fragment.Readable) :
    Spells fragment.text.toList fragment := by
  cases fragment with
  | major m =>
    rw [text_toList_major]
    exact .major (Text.isWord_numeral h)
  | line m n =>
    rw [text_toList_line]
    exact .line (Text.isWord_numeral h.1) (Text.isWord_numeral h.2)
  | exact v =>
    have hv : v.Readable := h
    -- Without identifiers there is no mark in the text, and it spells three numbers.
    by_cases hparts : v.pre ≠ "" ∨ v.build ≠ ""
    · exact .version (mem_version_text hparts) (Version.spells_iff.mpr ⟨hv, rfl⟩)
    · obtain ⟨major, minor, patch, pre, build⟩ := v
      obtain ⟨rfl, rfl⟩ : pre = "" ∧ build = "" := by simpa using hparts
      rw [text, Version.text_toList, Version.behind_empty, Version.behind_empty, List.append_nil,
        List.append_nil]
      exact .patch (Text.isWord_numeral hv.major_le) (Text.isWord_numeral hv.minor_le)
        (Text.isWord_numeral hv.patch_le)

/-- The text of a fragment that can be read is read as the fragment. -/
theorem Readable.read_text {fragment : Fragment} (h : fragment.Readable) :
    read fragment.text.toList = .ok fragment := by
  have htrim := (Text.IsTrimmed.of_isPrinted h.isPrinted_text).trim_eq
  have hmark : Version.dropMark fragment.text.toList = fragment.text.toList := by
    obtain ⟨c, cs, hcs, hc⟩ := fragment.text_head
    rw [hcs]
    exact Version.dropMark_of_isDigit hc cs
  rw [read, htrim, hmark, readBare_eq_ok_iff.mpr h.spells]

theorem readable_of_read {cs : List Char} {fragment : Fragment} (h : read cs = .ok fragment) :
    fragment.Readable :=
  (readBare_eq_ok_iff.mp h).readable

theorem readable_of_parse {input : String} {fragment : Fragment} (h : parse input = .ok fragment) :
    fragment.Readable := by
  unfold parse at h
  split at h
  · cases h
    exact readable_of_read ‹_›
  · cases h

theorem Readable.parse_text {fragment : Fragment} (h : fragment.Readable) :
    parse fragment.text = .ok fragment := by
  rw [parse, h.read_text]

end Fragment
end CrdBindings
