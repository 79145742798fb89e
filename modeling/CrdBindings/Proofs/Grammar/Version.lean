import CrdBindings.Proofs.Grammar.Word
import CrdBindings.Proofs.Version
import CrdBindings.Version.Fragment

/-!
The grammar of versions and fragments. A text is read as a version or a fragment exactly if it spells
one, and as the one that it spells.
-/

namespace CrdBindings
set_option autoImplicit false

namespace Version

structure IsNumber (cs : List Char) (n : Nat) : Prop extends Text.IsWord cs n where
  leading : cs.head? = some '0' → cs = ['0']

theorem isNumber_iff {cs : List Char} {n : Nat} :
    IsNumber cs n ↔ n ≤ Text.maxWord ∧ cs = Nat.toDigits 10 n := by
  constructor
  · rintro ⟨⟨hcs, hdigits, rfl, hfits⟩, hleading⟩
    exact ⟨hfits, (Text.numeral_ofDigits hcs hdigits hleading).symm⟩
  · rintro ⟨hfits, rfl⟩
    refine ⟨Text.isWord_numeral hfits, fun hzero => ?_⟩
    rw [Text.head?_numeral hzero]
    rfl

/-- One identifier: letters, digits and hyphens. In a pre-release a number has no leading zero. -/
structure IsSegment (part : Part) (segment : List Char) : Prop where
  nonempty : segment ≠ []
  chars : ∀ c ∈ segment, isIdentChar c
  leading : part = .pre → (∀ c ∈ segment, c.isDigit) → segment.head? = some '0' → segment = ['0']

/-- Identifiers with points between them. -/
def IsDotted (part : Part) (cs : List Char) : Prop :=
  ∃ segments, segments ≠ [] ∧ (∀ segment ∈ segments, IsSegment part segment) ∧
    cs = ['.'].intercalate segments

theorem eq_zero_of_head? {cs : List Char} (hsound : ¬ (cs.length > 1 ∧ cs.head? = some '0'))
    (hzero : cs.head? = some '0') : cs = ['0'] := by
  obtain ⟨rest, rfl⟩ := List.head?_eq_some_iff.mp hzero
  cases rest with
  | nil => rfl
  | cons c rest => exact absurd ⟨by simp, hzero⟩ hsound

theorem segmentFault?_eq_none_iff {part : Part} {segment : List Char} :
    segmentFault? part segment = none ↔ segment ≠ [] ∧ (part = .pre →
      (∀ c ∈ segment, c.isDigit) → segment.head? = some '0' → segment = ['0']) := by
  simp only [segmentFault?, List.isEmpty_iff, List.all_eq_true]
  split
  · rename_i hnil
    exact iff_of_false nofun fun h => h.1 hnil
  · rename_i hnonempty
    split
    · rename_i hfaulty
      obtain ⟨hpart, hdigits, hlength, hzero⟩ := hfaulty
      refine iff_of_false nofun fun h => ?_
      rw [h.2 hpart hdigits hzero] at hlength
      exact absurd hlength (by decide)
    · rename_i hsound
      exact iff_of_true rfl ⟨hnonempty, fun hpart hdigits =>
        eq_zero_of_head? fun hlong => hsound ⟨hpart, hdigits, hlong⟩⟩

theorem isIdentifierChar_point : isIdentifierChar '.' := rfl

theorem isIdentifier_iff {part : Part} {cs : List Char} :
    IsIdentifier part cs ↔ IsDotted part cs := by
  constructor
  · rintro ⟨hchars, hsound⟩
    have hpieces := Text.splitAtChar_eq_splitOn '.' cs
    have hcs : cs = ['.'].intercalate (Text.splitAtChar '.' cs) := by
      rw [hpieces, List.intercalate_splitOn]
    refine ⟨_, Text.splitAtChar_ne_nil '.' cs, fun segment hsegment => ?_, hcs⟩
    obtain ⟨hnonempty, hleading⟩ :=
      segmentFault?_eq_none_iff.mp (List.findSome?_eq_none_iff.mp hsound segment hsegment)
    refine ⟨hnonempty, fun c hc => ?_, hleading⟩
    rw [hcs, Text.forall_mem_intercalate isIdentifierChar_point] at hchars
    have hne : c ≠ '.' := fun h => Text.not_mem_of_mem_splitAtChar hsegment (h ▸ hc)
    simpa [isIdentifierChar, hne] using hchars segment hsegment c hc
  · rintro ⟨segments, hnonempty, hsegments, rfl⟩
    have hpoint : ∀ segment ∈ segments, '.' ∉ segment := fun segment hsegment hmem =>
      absurd ((hsegments segment hsegment).chars '.' hmem) (by decide)
    constructor
    · rw [Text.forall_mem_intercalate isIdentifierChar_point]
      intro segment hsegment c hc
      rw [isIdentifierChar, (hsegments segment hsegment).chars c hc]
      rfl
    · rw [Text.splitAtChar_eq_splitOn, List.splitOn_intercalate '.' hpoint hnonempty,
        List.findSome?_eq_none_iff]
      intro segment hsegment
      obtain ⟨hsegment_ne, -, hleading⟩ := hsegments segment hsegment
      exact segmentFault?_eq_none_iff.mpr ⟨hsegment_ne, hleading⟩

/-- A part that is left out or stands behind its mark. -/
def IsMarked (mark : Char) (part : Part) (s : String) (cs : List Char) : Prop :=
  s = "" ∧ cs = [] ∨ IsDotted part s.toList ∧ cs = mark :: s.toList

theorem isMarked_iff {mark : Char} {part : Part} {s : String} {cs : List Char} :
    IsMarked mark part s cs ↔ (s = "" ∨ IsIdentifier part s.toList) ∧ cs = behind mark s := by
  rw [IsMarked, ← isIdentifier_iff]
  constructor
  · rintro (⟨rfl, rfl⟩ | ⟨hs, rfl⟩)
    · exact ⟨.inl rfl, rfl⟩
    · exact ⟨.inr hs, (behind_of_ne hs.ne_empty).symm⟩
  · rintro ⟨rfl | hs, rfl⟩
    · exact .inl ⟨rfl, rfl⟩
    · exact .inr ⟨hs, behind_of_ne hs.ne_empty⟩

/-- The texts `major.minor.patch[-pre][+build]` of versions. -/
inductive Spells : List Char → Version → Prop where
  | intro {major minor patch pre build : List Char} {v : Version} (hmajor : IsNumber major v.major)
      (hminor : IsNumber minor v.minor) (hpatch : IsNumber patch v.patch)
      (hpre : IsMarked '-' .pre v.pre pre) (hbuild : IsMarked '+' .build v.build build) :
      Spells (major ++ '.' :: (minor ++ '.' :: (patch ++ (pre ++ build)))) v

theorem spells_iff {cs : List Char} {v : Version} :
    Spells cs v ↔ v.Readable ∧ cs = v.text.toList := by
  rw [text_toList]
  constructor
  · rintro ⟨hmajor, hminor, hpatch, hpre, hbuild⟩
    obtain ⟨hmajor_le, rfl⟩ := isNumber_iff.mp hmajor
    obtain ⟨hminor_le, rfl⟩ := isNumber_iff.mp hminor
    obtain ⟨hpatch_le, rfl⟩ := isNumber_iff.mp hpatch
    obtain ⟨hpre_part, rfl⟩ := isMarked_iff.mp hpre
    obtain ⟨hbuild_part, rfl⟩ := isMarked_iff.mp hbuild
    exact ⟨⟨hmajor_le, hminor_le, hpatch_le, hpre_part, hbuild_part⟩, rfl⟩
  · rintro ⟨h, rfl⟩
    exact .intro (isNumber_iff.mpr ⟨h.major_le, rfl⟩) (isNumber_iff.mpr ⟨h.minor_le, rfl⟩)
      (isNumber_iff.mpr ⟨h.patch_le, rfl⟩) (isMarked_iff.mpr ⟨h.pre, rfl⟩)
      (isMarked_iff.mpr ⟨h.build, rfl⟩)

theorem readNumber_eq_ok {part : Part} {cs rest : List Char} {n : Nat}
    (h : readNumber part cs = .ok (n, rest)) : cs = Nat.toDigits 10 n ++ rest := by
  unfold readNumber at h
  dsimp only at h
  split at h
  · split at h <;> cases h
  · rename_i hnonempty
    split at h
    · cases h
    · rename_i hsound
      split at h
      · cases h
      · cases h
        have hdigits : ∀ c ∈ cs.takeWhile Char.isDigit, c.isDigit :=
          fun c hc => List.mem_takeWhile_imp hc
        rw [Text.numeral_ofDigits (mt List.isEmpty_iff.mpr hnonempty) hdigits (eq_zero_of_head? hsound),
          List.takeWhile_append_dropWhile]

theorem readPoint_eq_ok {part : Part} {cs rest : List Char} (h : readPoint part cs = .ok rest) :
    cs = '.' :: rest := by
  unfold readPoint at h
  split at h
  · cases h
    rfl
  · cases h
  · cases h

theorem readIdentifier_eq_ok {part : Part} {cs rest : List Char} {s : String}
    (h : readIdentifier part cs = .ok (s, rest)) : cs = s.toList ++ rest := by
  unfold readIdentifier at h
  dsimp only at h
  split at h
  · cases h
  · cases h
    rw [String.toList_ofList, List.takeWhile_append_dropWhile]

theorem readMarked_eq_ok {mark : Char} {part : Part} {cs rest : List Char} {s : String}
    (h : readMarked mark part cs = .ok (s, rest)) : cs = behind mark s ++ rest := by
  unfold readMarked at h
  split at h
  · split at h
    · rename_i hmark
      rw [behind_of_ne (isIdentifier_of_readIdentifier h).ne_empty, hmark, readIdentifier_eq_ok h,
        List.cons_append]
    · cases h
      rfl
  · cases h
    rfl

theorem text_of_read {cs : List Char} {v : Version} (h : read cs = .ok v) :
    cs = v.text.toList := by
  obtain ⟨_, _, _, _, _, _, hmajor, hpoint, hminor, hpoint', hpatch, hpre, hbuild⟩ := read_steps h
  rw [text_toList, readNumber_eq_ok hmajor, readPoint_eq_ok hpoint, readNumber_eq_ok hminor,
    readPoint_eq_ok hpoint', readNumber_eq_ok hpatch, readMarked_eq_ok hpre,
    readMarked_eq_ok hbuild, List.append_nil]

/-- A text is read as the version that it spells, and no other text is read. -/
theorem read_eq_ok_iff {cs : List Char} {v : Version} : read cs = .ok v ↔ Spells cs v := by
  rw [spells_iff]
  constructor
  · exact fun h => ⟨readable_of_read h, text_of_read h⟩
  · rintro ⟨hreadable, rfl⟩
    exact hreadable.read_text

end Version

namespace Fragment

/-- The texts of fragments behind a mark `v`: a whole version with identifiers, or one, two or three
numbers with points between them. -/
inductive Spells : List Char → Fragment → Prop where
  | version {cs : List Char} {v : Version} (hmark : '-' ∈ cs ∨ '+' ∈ cs) (hcs : Version.Spells cs v) :
      Spells cs (.exact v)
  | major {cs : List Char} {m : Nat} (hm : Text.IsWord cs m) : Spells cs (.major m)
  | line {cs ds : List Char} {m n : Nat} (hm : Text.IsWord cs m) (hn : Text.IsWord ds n) :
      Spells (cs ++ '.' :: ds) (.line m n)
  | patch {cs ds es : List Char} {m n p : Nat} (hm : Text.IsWord cs m) (hn : Text.IsWord ds n)
      (hp : Text.IsWord es p) : Spells (cs ++ '.' :: (ds ++ '.' :: es)) (.exact (.ofNumbers m n p))

/-- A hyphen or a plus sign makes a text that of a whole version. -/
def isVersionMark (c : Char) : Bool := c == '-' || c == '+'

theorem any_isVersionMark_iff {cs : List Char} :
    cs.any isVersionMark ↔ '-' ∈ cs ∨ '+' ∈ cs := by
  simp only [List.any_eq_true, isVersionMark, Bool.or_eq_true, beq_iff_eq]
  constructor
  · rintro ⟨c, hc, rfl | rfl⟩
    · exact .inl hc
    · exact .inr hc
  · rintro (h | h)
    · exact ⟨_, h, .inl rfl⟩
    · exact ⟨_, h, .inr rfl⟩

theorem isVersionMark_of_isDigit {c : Char} (h : c.isDigit) : isVersionMark c = false := by
  rw [← Bool.not_eq_true]
  intro hmark
  simp only [isVersionMark, Bool.or_eq_true, beq_iff_eq] at hmark
  rcases hmark with rfl | rfl
  · exact absurd h (by decide)
  · exact absurd h (by decide)

theorem readBare_words {pieces : List (List Char)} {numbers : List Nat} (hpieces : pieces ≠ [])
    (hwords : List.Forall₂ Text.IsWord pieces numbers) :
    readBare (['.'].intercalate pieces) = ofNumbers numbers := by
  obtain ⟨hdigits, -⟩ := (List.forall₂_and_left _ _).mp (hwords.imp fun _ _ h => ⟨h.digits, h⟩)
  obtain ⟨hnonempty, -⟩ := (List.forall₂_and_left _ _).mp (hwords.imp fun _ _ h => ⟨h.nonempty, h⟩)
  have hsplit : Text.splitAtChar '.' (['.'].intercalate pieces) = pieces := by
    have hpoint : ∀ piece ∈ pieces, '.' ∉ piece := fun piece hpiece hmem =>
      absurd (hdigits piece hpiece '.' hmem) (by decide)
    rw [Text.splitAtChar_eq_splitOn, List.splitOn_intercalate '.' hpoint hpieces]
  have hcs : ['.'].intercalate pieces ≠ [] := by
    intro hnil
    rw [hnil] at hsplit
    exact hnonempty [] (hsplit ▸ List.mem_singleton_self []) rfl
  have hmark : (['.'].intercalate pieces).any isVersionMark = false := by
    rw [List.any_eq_false, Text.forall_mem_intercalate (by decide)]
    intro piece hpiece c hc
    exact Bool.eq_false_iff.mp (isVersionMark_of_isDigit (hdigits piece hpiece c hc))
  change (if _ then _ else if (['.'].intercalate pieces).any isVersionMark then _ else _) = _
  rw [List.isEmpty_eq_false_iff.mpr hcs, hmark, hsplit, Text.mapM_word?_eq_some_iff.mpr hwords]
  rfl

theorem readBare_version {cs : List Char} {v : Version} (hmark : cs.any isVersionMark)
    (hread : Version.read cs = .ok v) : readBare cs = .ok (exact v) := by
  have hcs : cs ≠ [] := by
    rintro rfl
    cases hmark
  change (if _ then _ else if cs.any isVersionMark then _ else _) = _
  rw [List.isEmpty_eq_false_iff.mpr hcs, hmark, hread]
  rfl

theorem spells_of_ofNumbers {pieces : List (List Char)} {numbers : List Nat} {fragment : Fragment}
    (hwords : List.Forall₂ Text.IsWord pieces numbers) (h : ofNumbers numbers = .ok fragment) :
    Spells (['.'].intercalate pieces) fragment := by
  unfold ofNumbers at h
  split at h
  · cases h
    obtain _ | ⟨hm, _ | _⟩ := hwords
    simpa using Spells.major hm
  · cases h
    obtain _ | ⟨hm, _ | ⟨hn, _ | _⟩⟩ := hwords
    simpa [List.intercalate_cons_cons] using Spells.line hm hn
  · cases h
    obtain _ | ⟨hm, _ | ⟨hn, _ | ⟨hp, _ | _⟩⟩⟩ := hwords
    simpa [List.intercalate_cons_cons] using Spells.patch hm hn hp
  · cases h

/-- Behind the mark a text is read as the fragment that it spells, and no other text is read. -/
theorem readBare_eq_ok_iff {cs : List Char} {fragment : Fragment} :
    readBare cs = .ok fragment ↔ Spells cs fragment := by
  constructor
  · intro h
    unfold readBare at h
    split at h
    · cases h
    · split at h
      · rename_i hmark
        split at h
        · cases h
          exact .version (any_isVersionMark_iff.mp hmark) (Version.read_eq_ok_iff.mp ‹_›)
        · cases h
      · split at h
        · rename_i numbers hnumbers
          have hspells := spells_of_ofNumbers (Text.mapM_word?_eq_some_iff.mp hnumbers) h
          rwa [Text.splitAtChar_eq_splitOn, List.intercalate_splitOn] at hspells
        · cases h
  · intro h
    cases h with
    | version hmark hcs =>
      exact readBare_version (any_isVersionMark_iff.mpr hmark) (Version.read_eq_ok_iff.mpr hcs)
    | major hm =>
      have hread := readBare_words (by simp) (.cons hm .nil)
      simpa [ofNumbers] using hread
    | line hm hn =>
      have hread := readBare_words (by simp) (.cons hm (.cons hn .nil))
      simpa [List.intercalate_cons_cons, ofNumbers] using hread
    | patch hm hn hp =>
      have hread := readBare_words (by simp) (.cons hm (.cons hn (.cons hp .nil)))
      simpa [List.intercalate_cons_cons, ofNumbers] using hread

end Fragment
end CrdBindings
