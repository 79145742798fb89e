import CrdBindings.Failure
import CrdBindings.Proofs.Numeral
import CrdBindings.Version
import Mathlib.Data.List.TakeWhile

/-!
Texts of versions. Every version that was read from a text has a text that is read as the same version,
so versions that were read differ in their texts.
-/

namespace CrdBindings.Version
set_option autoImplicit false

open Text (Stops)

theorem readNumber_numeral (part : Part) {n : Nat} (hn : n ≤ Text.maxWord) {rest : List Char}
    (hrest : Stops Char.isDigit rest) :
    readNumber part (Nat.toDigits 10 n ++ rest) = .ok (n, rest) := by
  have hdigits : ∀ c ∈ Nat.toDigits 10 n, c.isDigit := fun c => Text.isDigit_of_mem_numeral
  have hnonempty : (Nat.toDigits 10 n).isEmpty = false :=
    List.isEmpty_eq_false_iff.mpr Nat.toDigits_ne_nil
  have hfits : ¬ n > Text.maxWord := by omega
  simp only [readNumber, Text.takeWhile_run hdigits hrest, Text.dropWhile_run hdigits hrest,
    hnonempty, Text.numeral_leading, Text.ofDigits_numeral, hfits, Bool.false_eq_true, if_false]

theorem readNumber_le {part : Part} {cs rest : List Char} {n : Nat}
    (h : readNumber part cs = .ok (n, rest)) : n ≤ Text.maxWord := by
  unfold readNumber at h
  dsimp only at h
  split at h
  · split at h <;> cases h
  · split at h
    · cases h
    · split at h
      · cases h
      · cases h
        omega

/-- The characters of identifiers with the points between them. -/
def isIdentifierChar (c : Char) : Bool := isIdentChar c || c == '.'

/-- Identifiers with points between them, none of which is faulty. -/
structure IsIdentifier (part : Part) (cs : List Char) : Prop where
  chars : ∀ c ∈ cs, isIdentifierChar c
  segments : (Text.splitAtChar '.' cs).findSome? (segmentFault? part) = none

theorem readIdentifier_run {part : Part} {cs rest : List Char} (h : IsIdentifier part cs)
    (hrest : Stops isIdentifierChar rest) :
    readIdentifier part (cs ++ rest) = .ok (String.ofList cs, rest) := by
  have htake : (cs ++ rest).takeWhile (fun c => isIdentChar c || c == '.') = cs :=
    Text.takeWhile_run h.chars hrest
  have hdrop : (cs ++ rest).dropWhile (fun c => isIdentChar c || c == '.') = rest :=
    Text.dropWhile_run h.chars hrest
  simp only [readIdentifier, htake, hdrop, h.segments]

theorem isIdentifier_of_readIdentifier {part : Part} {cs rest : List Char} {s : String}
    (h : readIdentifier part cs = .ok (s, rest)) : IsIdentifier part s.toList := by
  unfold readIdentifier at h
  dsimp only at h
  split at h
  · cases h
  · rename_i hsegments
    cases h
    rw [String.toList_ofList]
    exact ⟨fun c hc => List.mem_takeWhile_imp hc, hsegments⟩

/-- A part that may be left out: its mark and its text, or nothing. -/
def behind (mark : Char) (s : String) : List Char := if s.isEmpty then [] else mark :: s.toList

theorem behind_empty (mark : Char) : behind mark "" = [] := rfl

theorem behind_of_ne {mark : Char} {s : String} (h : s ≠ "") : behind mark s = mark :: s.toList := by
  rw [behind, if_neg (mt String.isEmpty_iff.mp h)]

theorem behind_stops {kind : Char → Bool} {mark : Char} (h : kind mark = false) (s : String) :
    Stops kind (behind mark s) := by
  unfold behind
  split
  · exact .nil
  · exact .cons h _

theorem text_toList (v : Version) :
    v.text.toList = Nat.toDigits 10 v.major ++ '.' :: (Nat.toDigits 10 v.minor ++ '.' ::
      (Nat.toDigits 10 v.patch ++ (behind '-' v.pre ++ behind '+' v.build))) := by
  have hpart : ∀ (mark s : String) (c : Char), mark.toList = [c] →
      (if s.isEmpty then "" else mark ++ s).toList = behind c s := by
    intro mark s c hmark
    unfold behind
    split
    · rfl
    · rw [String.toList_append, hmark]
      rfl
  simp only [text, String.toList_append, hpart "-" v.pre '-' rfl, hpart "+" v.build '+' rfl]
  simp [toString, Nat.toList_repr]

theorem IsIdentifier.ne_empty {part : Part} {s : String} (h : IsIdentifier part s.toList) :
    s ≠ "" := by
  rintro rfl
  cases h.segments

theorem readMarked_behind {mark : Char} {part : Part} {s : String} {rest : List Char}
    (h : s = "" ∨ IsIdentifier part s.toList) (hrest : Stops isIdentifierChar rest)
    (hmark : Stops (· == mark) rest) :
    readMarked mark part (behind mark s ++ rest) = .ok (s, rest) := by
  rcases h with rfl | h
  · change readMarked mark part rest = .ok ("", rest)
    cases rest with
    | nil => rfl
    | cons c rest => rw [readMarked, if_neg (ne_of_beq_false (hmark c rfl))]
  · rw [behind_of_ne h.ne_empty, List.cons_append, readMarked, if_pos rfl,
      readIdentifier_run h hrest, String.ofList_toList]

theorem readMarked_part {mark : Char} {part : Part} {cs rest : List Char} {s : String}
    (h : readMarked mark part cs = .ok (s, rest)) : s = "" ∨ IsIdentifier part s.toList := by
  unfold readMarked at h
  split at h
  · split at h
    · exact .inr (isIdentifier_of_readIdentifier h)
    · cases h
      exact .inl rfl
  · cases h
    exact .inl rfl

/-- A version that can be read: its numbers fit, and its identifiers are none or not faulty. -/
structure Readable (v : Version) : Prop where
  major_le : v.major ≤ Text.maxWord
  minor_le : v.minor ≤ Text.maxWord
  patch_le : v.patch ≤ Text.maxWord
  pre : v.pre = "" ∨ IsIdentifier .pre v.pre.toList
  build : v.build = "" ∨ IsIdentifier .build v.build.toList

theorem ofNumbers_readable {major minor patch : Nat} (hmajor : major ≤ Text.maxWord)
    (hminor : minor ≤ Text.maxWord) (hpatch : patch ≤ Text.maxWord) :
    (ofNumbers major minor patch).Readable :=
  ⟨hmajor, hminor, hpatch, .inl rfl, .inl rfl⟩

theorem read_steps {cs : List Char} {v : Version} (h : read cs = .ok v) :
    ∃ cs₁ cs₂ cs₃ cs₄ cs₅ cs₆, readNumber .major cs = .ok (v.major, cs₁) ∧
      readPoint .major cs₁ = .ok cs₂ ∧ readNumber .minor cs₂ = .ok (v.minor, cs₃) ∧
      readPoint .minor cs₃ = .ok cs₄ ∧ readNumber .patch cs₄ = .ok (v.patch, cs₅) ∧
      readMarked '-' .pre cs₅ = .ok (v.pre, cs₆) ∧ readMarked '+' .build cs₆ = .ok (v.build, []) := by
  unfold read at h
  dsimp only at h
  split at h
  · cases h
  · obtain ⟨⟨major, cs₁⟩, hmajor, h⟩ := bind_eq_ok h
    obtain ⟨cs₂, hpoint, h⟩ := bind_eq_ok h
    obtain ⟨⟨minor, cs₃⟩, hminor, h⟩ := bind_eq_ok h
    obtain ⟨cs₄, hpoint', h⟩ := bind_eq_ok h
    obtain ⟨⟨patch, cs₅⟩, hpatch, h⟩ := bind_eq_ok h
    obtain ⟨⟨pre, cs₆⟩, hpre, h⟩ := bind_eq_ok h
    obtain ⟨⟨build, cs₇⟩, hbuild, h⟩ := bind_eq_ok h
    cases cs₇ with
    | cons c cs₇ => cases h
    | nil =>
      cases h
      exact ⟨cs₁, cs₂, cs₃, cs₄, cs₅, cs₆, hmajor, hpoint, hminor, hpoint', hpatch, hpre, hbuild⟩

theorem readable_of_read {cs : List Char} {v : Version} (h : read cs = .ok v) : v.Readable := by
  obtain ⟨_, _, _, _, _, _, hmajor, -, hminor, -, hpatch, hpre, hbuild⟩ := read_steps h
  exact ⟨readNumber_le hmajor, readNumber_le hminor, readNumber_le hpatch, readMarked_part hpre,
    readMarked_part hbuild⟩

/-- A patch number ends at a mark or at the end of the text. -/
theorem identifiers_stop (v : Version) :
    Stops Char.isDigit (behind '-' v.pre ++ behind '+' v.build) := by
  by_cases hpre : v.pre = ""
  · rw [hpre, behind_empty]
    exact behind_stops (by decide) _
  · rw [behind_of_ne hpre, List.cons_append]
    exact .cons (by decide) _

/-- The text of a version that can be read is read as the version. -/
theorem Readable.read_text {v : Version} (h : v.Readable) : read v.text.toList = .ok v := by
  have hpoint : ∀ cs, Stops Char.isDigit ('.' :: cs) := Stops.cons (by decide)
  have hbuild : readMarked '+' .build (behind '+' v.build ++ []) = .ok (v.build, []) :=
    readMarked_behind h.build .nil .nil
  have hpre : readMarked '-' .pre (behind '-' v.pre ++ behind '+' v.build) =
      .ok (v.pre, behind '+' v.build) :=
    readMarked_behind h.pre (behind_stops (by decide) _) (behind_stops (by decide) _)
  have hnonempty : v.text.toList.isEmpty = false := by
    simp [text_toList]
  rw [List.append_nil] at hbuild
  rw [read, hnonempty, text_toList]
  simp only [Bool.false_eq_true, if_false, readNumber_numeral _ h.major_le (hpoint _),
    readNumber_numeral _ h.minor_le (hpoint _), readNumber_numeral _ h.patch_le v.identifiers_stop,
    hpre, hbuild, readPoint, bind, Except.bind, pure, Except.pure]

theorem dropMark_of_isDigit {c : Char} (h : c.isDigit) (cs : List Char) :
    dropMark (c :: cs) = c :: cs := by
  unfold dropMark
  split
  · obtain ⟨rfl, -⟩ := List.cons.inj ‹_›
    exact absurd h (by decide)
  · obtain ⟨rfl, -⟩ := List.cons.inj ‹_›
    exact absurd h (by decide)
  · rfl

theorem isPrinted_of_isIdentifierChar {c : Char} (h : isIdentifierChar c) :
    Text.isPrinted c := by
  simp only [isIdentifierChar, isIdentChar, Bool.or_eq_true, beq_iff_eq] at h
  rcases h with (h | rfl) | rfl
  · exact Text.isPrinted_of_isAlphanum (Bool.or_eq_true _ _ ▸ h)
  · rfl
  · rfl

theorem isPrinted_of_mem_behind {mark : Char} (hmark : Text.isPrinted mark) {part : Part}
    {s : String} (h : s = "" ∨ IsIdentifier part s.toList) :
    ∀ c ∈ behind mark s, Text.isPrinted c := by
  rcases h with rfl | h
  · exact fun c hc => nomatch hc
  · rw [behind_of_ne h.ne_empty]
    intro c hc
    rcases List.mem_cons.mp hc with rfl | hc
    · exact hmark
    · exact isPrinted_of_isIdentifierChar (h.chars c hc)

theorem Readable.isPrinted_text {v : Version} (h : v.Readable) :
    ∀ c ∈ v.text.toList, Text.isPrinted c := by
  have hnumeral : ∀ n, ∀ c ∈ Nat.toDigits 10 n, Text.isPrinted c :=
    fun n c hc => Text.isPrinted_of_mem_numeral hc
  rw [text_toList]
  simp only [List.forall_mem_append, List.forall_mem_cons]
  exact ⟨hnumeral _, rfl, hnumeral _, rfl, hnumeral _, isPrinted_of_mem_behind rfl h.pre,
    isPrinted_of_mem_behind rfl h.build⟩

theorem text_injective {v w : Version} (hv : v.Readable) (hw : w.Readable) (h : v.text = w.text) :
    v = w := by
  have hread := hv.read_text
  rw [h, hw.read_text] at hread
  exact (Except.ok.inj hread).symm

end CrdBindings.Version
