import CrdBindings.Proofs.Fragment

/-!
Release tags and exact fragments. Both leave out the blanks around a text and one mark in front of it.
What spells a version in a tag spells it in a fragment. A fragment may besides give three numbers some
of which have leading zeros, and these are no tag.
-/

namespace CrdBindings
set_option autoImplicit false

namespace Version

/-- What is left of a text without the blanks around it and one mark in front. -/
def bareText (s : String) : List Char := dropMark (Text.trim s.toList)

/-- Digits behind a leading zero. -/
def IsPadded (cs : List Char) : Prop := cs.head? = some '0' ∧ cs ≠ ['0']

/-- Three numbers of a version without identifiers, of which some have leading zeros. -/
inductive SpellsPadded : List Char → Version → Prop where
  | intro {major minor patch : List Char} {m n p : Nat} (hm : Text.IsWord major m)
      (hn : Text.IsWord minor n) (hp : Text.IsWord patch p)
      (padded : IsPadded major ∨ IsPadded minor ∨ IsPadded patch) :
      SpellsPadded (major ++ '.' :: (minor ++ '.' :: patch)) (.ofNumbers m n p)

theorem isNumber_iff_not_padded {cs : List Char} {n : Nat} :
    IsNumber cs n ↔ Text.IsWord cs n ∧ ¬ IsPadded cs := by
  constructor
  · rintro ⟨hword, hleading⟩
    exact ⟨hword, fun ⟨hzero, hother⟩ => hother (hleading hzero)⟩
  · rintro ⟨hword, hpadded⟩
    exact ⟨hword, fun hzero => Decidable.not_not.mp fun hother => hpadded ⟨hzero, hother⟩⟩

theorem not_isPadded_numeral (n : Nat) : ¬ IsPadded (Nat.toDigits 10 n) := by
  rintro ⟨hzero, hother⟩
  rw [Text.head?_numeral hzero] at hother
  exact hother rfl

theorem ofTag?_eq_some_iff {tag : String} {v : Version} :
    ofTag? tag = some v ↔ Spells (bareText tag) v := by
  rw [← read_eq_ok_iff, ofTag?, bareText]
  cases read (dropMark (Text.trim tag.toList)) <;> simp [Except.toOption]

theorem spells_ofNumbers {major minor patch : List Char} {m n p : Nat} (hm : IsNumber major m)
    (hn : IsNumber minor n) (hp : IsNumber patch p) :
    Spells (major ++ '.' :: (minor ++ '.' :: patch)) (ofNumbers m n p) := by
  have hspells : Spells (major ++ '.' :: (minor ++ '.' :: (patch ++ ([] ++ [])))) (ofNumbers m n p) :=
    .intro hm hn hp (.inl ⟨rfl, rfl⟩) (.inl ⟨rfl, rfl⟩)
  rwa [List.append_nil, List.append_nil] at hspells

/-- Each number ends at the next point, so a version that is spelled as well has the same digits, and
its numbers have no leading zeros. -/
theorem SpellsPadded.not_spells {cs : List Char} {v w : Version} (h : SpellsPadded cs v) :
    ¬ Spells cs w := by
  intro hspells
  obtain ⟨-, hcs⟩ := spells_iff.mp hspells
  rw [text_toList] at hcs
  have hdigits : ∀ n, ∀ c ∈ Nat.toDigits 10 n, c.isDigit := fun n c => Text.isDigit_of_mem_numeral
  have hpoint : ∀ rest, Text.Stops Char.isDigit ('.' :: rest) := .cons (by decide)
  obtain @⟨major, minor, patch, m, n, p, hm, hn, hp, padded⟩ := h
  obtain ⟨hmajor, hcs⟩ := Text.run_inj hm.digits (hdigits _) (hpoint _) (hpoint _) hcs
  obtain ⟨hminor, hcs⟩ := Text.run_inj hn.digits (hdigits _) (hpoint _) (hpoint _)
    (List.cons.inj hcs).2
  have hend : patch ++ [] = Nat.toDigits 10 w.patch ++ (behind '-' w.pre ++ behind '+' w.build) := by
    rw [List.append_nil]
    exact (List.cons.inj hcs).2
  obtain ⟨hpatch, -⟩ := Text.run_inj hp.digits (hdigits _) .nil w.identifiers_stop hend
  rw [hmajor, hminor, hpatch] at padded
  rcases padded with padded | padded | padded
  · exact not_isPadded_numeral _ padded
  · exact not_isPadded_numeral _ padded
  · exact not_isPadded_numeral _ padded

end Version

namespace Fragment

open Version (SpellsPadded IsPadded bareText)

theorem parse_eq_ok_iff {input : String} {fragment : Fragment} :
    parse input = .ok fragment ↔ Spells (bareText input) fragment := by
  rw [← readBare_eq_ok_iff, parse, read, bareText]
  cases readBare (Version.dropMark (Text.trim input.toList)) <;> simp

theorem spells_of_version {cs : List Char} {v : Version} (h : Version.Spells cs v) :
    Spells cs (exact v) := by
  obtain ⟨hreadable, rfl⟩ := Version.spells_iff.mp h
  have hexact : (exact v).Readable := hreadable
  exact hexact.spells

/-- A fragment spells a version like a tag, or with leading zeros. -/
theorem spells_exact_iff {cs : List Char} {v : Version} :
    Spells cs (exact v) ↔ Version.Spells cs v ∨ SpellsPadded cs v := by
  constructor
  · intro h
    cases h with
    | version _ hcs => exact .inl hcs
    | @patch major minor patch m n p hm hn hp =>
      by_cases padded : IsPadded major ∨ IsPadded minor ∨ IsPadded patch
      · exact .inr (.intro hm hn hp padded)
      · simp only [not_or] at padded
        obtain ⟨hmajor, hminor, hpatch⟩ := padded
        exact .inl (Version.spells_ofNumbers (Version.isNumber_iff_not_padded.mpr ⟨hm, hmajor⟩)
          (Version.isNumber_iff_not_padded.mpr ⟨hn, hminor⟩)
          (Version.isNumber_iff_not_padded.mpr ⟨hp, hpatch⟩))
  · rintro (h | ⟨hm, hn, hp, -⟩)
    · exact spells_of_version h
    · exact .patch hm hn hp

theorem ofTag?_eq_none {s : String} {v : Version} (h : SpellsPadded (bareText s) v) :
    Version.ofTag? s = none := by
  apply Option.eq_none_iff_forall_ne_some.mpr
  intro w hw
  exact h.not_spells (Version.ofTag?_eq_some_iff.mp hw)

theorem parse_eq_exact_iff {s : String} {v : Version} :
    parse s = .ok (exact v) ↔ Version.ofTag? s = some v ∨ SpellsPadded (bareText s) v := by
  rw [parse_eq_ok_iff, spells_exact_iff, Version.ofTag?_eq_some_iff]

/-- A text is read as an exact fragment and as the tag of the same version, or as neither, unless it
spells the version with leading zeros: then it is a fragment and no tag at all. So a tag is an exact
fragment that is given by the text of its version. -/
theorem parse_exact_iff_ofTag? (s : String) (v : Version) :
    ((parse s = .ok (exact v) ↔ Version.ofTag? s = some v) ↔ ¬ SpellsPadded (bareText s) v) ∧
    (SpellsPadded (bareText s) v ↔ parse s = .ok (exact v) ∧ Version.ofTag? s = none) ∧
    (Version.ofTag? s = some v ↔ parse s = .ok (exact v) ∧ bareText s = v.text.toList) := by
  have hexact := parse_eq_exact_iff (s := s) (v := v)
  refine ⟨⟨?_, ?_⟩, ⟨?_, ?_⟩, ⟨?_, ?_⟩⟩
  · intro hsame hpadded
    have hno := ofTag?_eq_none hpadded
    rw [hsame.mp (hexact.mpr (.inr hpadded))] at hno
    cases hno
  · intro hpadded
    rw [hexact]
    exact or_iff_left hpadded
  · intro hpadded
    exact ⟨hexact.mpr (.inr hpadded), ofTag?_eq_none hpadded⟩
  · rintro ⟨hparse, hno⟩
    apply (hexact.mp hparse).resolve_left
    rw [hno]
    exact nofun
  · intro htag
    exact ⟨hexact.mpr (.inl htag), (Version.spells_iff.mp (Version.ofTag?_eq_some_iff.mp htag)).2⟩
  · rintro ⟨hparse, htext⟩
    have hreadable : v.Readable := readable_of_parse hparse
    exact Version.ofTag?_eq_some_iff.mpr (Version.spells_iff.mpr ⟨hreadable, htext⟩)

/-- A leading zero is taken in a fragment of three numbers, and refused in a tag as in a fragment with a
build. -/
theorem parse_takes_padded :
    parse "01.2.3" = .ok (exact (.ofNumbers 1 2 3)) ∧ Version.ofTag? "01.2.3" = none ∧
    parse "01.2.3+b" =
      .error (.malformedReference "01.2.3+b" "invalid leading zero in major version number") := by
  decide +kernel

end Fragment
end CrdBindings
