import CrdBindings.Proofs.Ident
import CrdBindings.Proofs.Ident.Runs

/-!
The lower case of a capital as part of an identifier. A capital in a circle or a square has the letter
case of a letter and is none: neither it nor its lower case belongs to an identifier. Any other capital
has a lower case that an identifier may start with.
-/

namespace CrdBindings
set_option autoImplicit false

namespace Text

/-- All codes of a run belong to another, which has no gaps or the same ones. -/
def CodeRun.within (r s : CodeRun) : Bool :=
  r.last ≤ s.last && s.first ≤ r.first && (s.step == 1 || s.first == r.first && s.step == r.step)

def CodeRun.apart (r s : CodeRun) : Bool := r.last < s.first || s.last < r.first

/-- Whether the runs of a table, one after another, take all runs within them from the front of a list
until it is empty. When both lists ascend, this one pass finds every run that is within another. -/
def covers : List CodeRun → List CodeRun → Bool
  | [], runs => runs.isEmpty
  | s :: table, runs =>
    match runs.dropWhile (·.within s) with
    | [] => true
    | r :: rest => covers table (r :: rest)

def CodeRun.shifted (r : CodeRun) (distance : Int) : CodeRun :=
  ⟨(r.first + distance).toNat, (r.last + distance).toNat, r.step⟩

theorem CodeRun.holds_iff (r : CodeRun) (code : Nat) :
    r.holds code = true ↔ r.first ≤ code ∧ code ≤ r.last ∧ (code - r.first) % r.step = 0 := by
  simp only [CodeRun.holds, Bool.and_eq_true, decide_eq_true_eq, beq_iff_eq, and_assoc]

theorem CodeRun.holds_of_within {r s : CodeRun} (h : r.within s = true) {code : Nat}
    (hcode : r.holds code = true) : s.holds code = true := by
  simp only [CodeRun.within, Bool.and_eq_true, Bool.or_eq_true, decide_eq_true_eq, beq_iff_eq] at h
  obtain ⟨⟨hlast, hfirst⟩, hgaps⟩ := h
  rw [CodeRun.holds_iff] at hcode ⊢
  refine ⟨by omega, by omega, ?_⟩
  rcases hgaps with hstep | ⟨hsame, hstep⟩
  · rw [hstep, Nat.mod_one]
  · rw [hsame, hstep]
    exact hcode.2.2

theorem CodeRun.not_holds_of_apart {r s : CodeRun} (h : r.apart s = true) {code : Nat}
    (hcode : r.holds code = true) : s.holds code = false := by
  simp only [CodeRun.apart, Bool.or_eq_true, decide_eq_true_eq] at h
  rw [Bool.eq_false_iff]
  intro hother
  rw [CodeRun.holds_iff] at hcode hother
  rcases h with h | h <;> omega

theorem within_of_covers {table runs : List CodeRun} (h : covers table runs = true) :
    ∀ r ∈ runs, ∃ s ∈ table, r.within s = true := by
  induction table generalizing runs with
  | nil =>
    intro r hr
    rw [List.isEmpty_iff.mp h] at hr
    cases hr
  | cons s table ih =>
    intro r hr
    rw [← List.takeWhile_append_dropWhile (p := (·.within s)) (l := runs)] at hr
    rcases List.mem_append.mp hr with htaken | hleft
    · refine ⟨s, List.mem_cons_self, ?_⟩
      exact List.mem_takeWhile_imp (p := fun r : CodeRun => r.within s) htaken
    · have hrest : covers table (runs.dropWhile (·.within s)) = true := by
        unfold covers at h
        split at h
        · rename_i hnil
          rw [hnil] at hleft
          cases hleft
        · rename_i hcons
          rwa [hcons]
      obtain ⟨s', hs', hwithin⟩ := ih hrest r hleft
      exact ⟨s', List.mem_cons_of_mem s hs', hwithin⟩

theorem CodeRun.holds_shifted {r : CodeRun} {distance : Int} (h : 0 ≤ r.first + distance)
    {code : Nat} (hcode : r.holds code = true) :
    (r.shifted distance).holds (code + distance).toNat = true := by
  rw [CodeRun.holds_iff] at hcode ⊢
  obtain ⟨hfirst, hlast, hgaps⟩ := hcode
  have hdistance : (code + distance).toNat - (r.first + distance).toNat = code - r.first := by omega
  refine ⟨?_, ?_, ?_⟩
  · show (r.first + distance).toNat ≤ _
    omega
  · show _ ≤ (r.last + distance).toNat
    omega
  · show (_ - (r.first + distance).toNat) % r.step = 0
    rw [hdistance]
    exact hgaps

theorem not_inRuns {runs : List CodeRun} {r : CodeRun} {c : Char} (h : ∀ s ∈ runs, r.apart s = true)
    (hc : r.holds c.toNat = true) : inRuns runs c = false := by
  rw [Bool.eq_false_iff]
  intro hin
  obtain ⟨s, hs, hholds⟩ := (inRuns_iff runs c).mp hin
  exact absurd hholds (Bool.eq_false_iff.mp (CodeRun.not_holds_of_apart (h s hs) hc))

theorem inRuns_of_within {runs : List CodeRun} {r : CodeRun} {c : Char}
    (h : ∃ s ∈ runs, r.within s = true) (hc : r.holds c.toNat = true) : inRuns runs c = true := by
  obtain ⟨s, hs, hwithin⟩ := h
  exact (inRuns_iff runs c).mpr ⟨s, hs, CodeRun.holds_of_within hwithin hc⟩

/-- The lower case of a character: two characters for the capital I with a dot, one by the table of
distances, or the character itself. -/
theorem lowerChar_cases (c : Char) :
    (c = 'İ' ∧ lowerChar c = ['i', '\u0307']) ∨
    (∃ entry ∈ LetterCase.loweringRuns, entry.1.holds c.toNat = true ∧
      ∃ d, lowerChar c = [d] ∧ (entry.1.shifted entry.2).holds d.toNat = true) ∨
    lowerChar c = [c] := by
  unfold lowerChar
  split
  · rename_i hdotted
    exact .inl ⟨hdotted, rfl⟩
  · split
    · rename_i run distance hfind
      have hentry := List.mem_of_find?_eq_some hfind
      have hholds : run.holds c.toNat = true := by simpa using List.find?_some hfind
      have hcodes : Ident.PartCodes (run.first + distance) (run.last + distance) :=
        Ident.loweringRuns_partCodes _ hentry
      have hvalid : (c.toNat + distance).toNat.isValidChar := by
        have hbounds := (CodeRun.holds_iff run c.toNat).mp hholds
        unfold Nat.isValidChar
        rcases hcodes with h | h | h <;> omega
      have hshifted : (run.shifted distance).holds (c.toNat + distance).toNat = true := by
        apply CodeRun.holds_shifted _ hholds
        rcases hcodes with h | h | h <;> omega
      refine .inr (.inl ⟨_, hentry, hholds, _, rfl, ?_⟩)
      rwa [Char.toNat_ofNat, if_pos hvalid]
    · exact .inr (.inr rfl)

end Text

namespace Ident

/-- Whether an identifier may start with a character that is no underscore. -/
def isStart (c : Char) : Bool := Text.inRuns startRuns c

/-- Whether an identifier may have a character behind its first one. -/
def isContinue (c : Char) : Bool := Text.inRuns (startRuns ++ laterRuns) c

/-- The capitals in circles, then those in squares, in black circles and in black squares. -/
def enclosedRuns : List Text.CodeRun := [
  ⟨0x24b6, 0x24cf, 1⟩, ⟨0x1f130, 0x1f149, 1⟩, ⟨0x1f150, 0x1f169, 1⟩, ⟨0x1f170, 0x1f189, 1⟩]

def isEnclosed (c : Char) : Bool := Text.inRuns enclosedRuns c

theorem isContinue_of_isStart {c : Char} (h : isStart c = true) : isContinue c = true := by
  rw [isContinue, Text.inRuns, List.any_append]
  exact Bool.or_eq_true_iff.mpr (.inl h)

theorem isStart_of_mem {run : Text.CodeRun} (h : run ∈ startRuns) {c : Char}
    (hc : run.holds c.toNat = true) : isStart c = true :=
  (Text.inRuns_iff _ c).mpr ⟨run, h, hc⟩

theorem isContinue_of_mem {run : Text.CodeRun} (h : run ∈ laterRuns) {c : Char}
    (hc : run.holds c.toNat = true) : isContinue c = true :=
  (Text.inRuns_iff _ c).mpr ⟨run, List.mem_append_right _ h, hc⟩

theorem isStart_of_isAlpha {c : Char} (h : c.isAlpha = true) : isStart c = true := by
  have hcapitals : ⟨0x41, 0x5a, 1⟩ ∈ startRuns := List.mem_of_getElem? (i := 0) rfl
  have hsmall : ⟨0x61, 0x7a, 1⟩ ∈ startRuns := List.mem_of_getElem? (i := 1) rfl
  simp only [Char.isAlpha, Char.isUpper, Char.isLower, ge_iff_le, UInt32.le_iff_toNat_le,
    Bool.or_eq_true, Bool.and_eq_true, decide_eq_true_eq] at h
  rcases h with ⟨hfirst, hlast⟩ | ⟨hfirst, hlast⟩
  · exact isStart_of_mem hcapitals ((Text.CodeRun.holds_iff _ _).mpr ⟨hfirst, hlast, Nat.mod_one _⟩)
  · exact isStart_of_mem hsmall ((Text.CodeRun.holds_iff _ _).mpr ⟨hfirst, hlast, Nat.mod_one _⟩)

theorem isContinue_of_isDigit {c : Char} (h : c.isDigit = true) : isContinue c = true := by
  have hdigits : ⟨0x30, 0x39, 1⟩ ∈ laterRuns := List.mem_of_getElem? (i := 0) rfl
  obtain ⟨hfirst, hlast⟩ := Char.isDigit_iff_toNat.mp h
  exact isContinue_of_mem hdigits ((Text.CodeRun.holds_iff _ _).mpr ⟨hfirst, hlast, Nat.mod_one _⟩)

theorem isContinue_underscore : isContinue '_' = true := by
  have hmark : ⟨0x5f, 0x5f, 1⟩ ∈ laterRuns := List.mem_of_getElem? (i := 1) rfl
  exact isContinue_of_mem hmark (by decide)

/-- The dot that the lower case of the capital I with a dot has above it. -/
theorem isContinue_dotAbove : isContinue '\u0307' = true := by
  have haccents : ⟨0x300, 0x36f, 1⟩ ∈ laterRuns := List.mem_of_getElem? (i := 3) rfl
  exact isContinue_of_mem haccents (by decide)

theorem isStart_underscore : isStart '_' = false := by decide +kernel

/-- The mark of the raw form has a character that no identifier has. -/
theorem isContinue_hash : isContinue '#' = false := by decide +kernel

theorem isStart_or_isDigit {c : Char} (h : Text.isAsciiAlnum c) :
    isStart c = true ∨ c.isDigit = true :=
  (Bool.or_eq_true_iff.mp h).imp_left isStart_of_isAlpha

theorem isContinue_of_isAsciiAlnum {c : Char} (h : Text.isAsciiAlnum c) : isContinue c = true :=
  (isStart_or_isDigit h).elim isContinue_of_isStart isContinue_of_isDigit

theorem not_isEnclosed_of_lt {c : Char} (h : c.toNat < 0x24b6) : isEnclosed c = false := by
  have hfirst : ∀ run ∈ enclosedRuns, 0x24b6 ≤ run.first := by decide
  rw [Bool.eq_false_iff]
  intro henclosed
  obtain ⟨run, hrun, hholds⟩ := (Text.inRuns_iff _ _).mp henclosed
  have hcode := (Text.CodeRun.holds_iff run c.toNat).mp hholds
  have hbound := hfirst run hrun
  omega

/-- The enclosed capitals are capitals, and no identifier has them. -/
theorem enclosedRuns_cases : ∀ run ∈ enclosedRuns, run ∈ Text.LetterCase.upperRuns ∧
    ∀ s ∈ startRuns ++ laterRuns, run.apart s = true := by
  decide +kernel

/-- A run of capitals is one of enclosed capitals, or identifiers start with its capitals. -/
theorem upperRuns_within : ∀ run ∈ Text.LetterCase.upperRuns,
    run ∈ enclosedRuns ∨ ∃ s ∈ startRuns, run.within s = true := by
  have hcovers : Text.covers startRuns
      (Text.LetterCase.upperRuns.filter (· ∉ enclosedRuns)) = true := by decide +kernel
  intro run hrun
  by_cases henclosed : run ∈ enclosedRuns
  · exact .inl henclosed
  · exact .inr (Text.within_of_covers hcovers run
      (List.mem_filter.mpr ⟨hrun, decide_eq_true henclosed⟩))

/-- A run of the mapping to lower case leads to no enclosed capitals. It is one of them and leads to
characters that no identifier has, or it has none of them and leads to letters with which identifiers
start. -/
theorem loweringRuns_cases : ∀ entry ∈ Text.LetterCase.loweringRuns,
    (∀ s ∈ enclosedRuns, (entry.1.shifted entry.2).apart s = true) ∧
    ((entry.1 ∈ enclosedRuns ∧ ∀ s ∈ startRuns ++ laterRuns,
      (entry.1.shifted entry.2).apart s = true) ∨
    ((∀ s ∈ enclosedRuns, entry.1.apart s = true) ∧
      ∃ s ∈ startRuns, (entry.1.shifted entry.2).within s = true)) := by
  have hcases : ∀ entry ∈ Text.LetterCase.loweringRuns,
      (∀ s ∈ enclosedRuns, (entry.1.shifted entry.2).apart s = true) ∧
      ((entry.1 ∈ enclosedRuns ∧ ∀ s ∈ startRuns ++ laterRuns,
        (entry.1.shifted entry.2).apart s = true) ∨
      (entry.1 ∉ enclosedRuns ∧ ∀ s ∈ enclosedRuns, entry.1.apart s = true)) := by
    decide +kernel
  have hcovers : Text.covers startRuns
      (((Text.LetterCase.loweringRuns.filter (·.1 ∉ enclosedRuns)).map fun entry =>
        entry.1.shifted entry.2).insertionSort (·.first ≤ ·.first)) = true := by
    decide +kernel
  intro entry hentry
  obtain ⟨htarget, hsource⟩ := hcases entry hentry
  refine ⟨htarget, ?_⟩
  rcases hsource with henclosed | ⟨hother, hapart⟩
  · exact .inl henclosed
  · refine .inr ⟨hapart, Text.within_of_covers hcovers _ ?_⟩
    rw [List.mem_insertionSort]
    exact List.mem_map_of_mem (List.mem_filter.mpr ⟨hentry, decide_eq_true hother⟩)

theorem isUpper_of_isEnclosed {c : Char} (h : isEnclosed c = true) : Text.isUpper c = true := by
  obtain ⟨run, hrun, hholds⟩ := (Text.inRuns_iff _ _).mp h
  exact (Text.inRuns_iff _ _).mpr ⟨run, (enclosedRuns_cases run hrun).1, hholds⟩

theorem isEnclosed_not_continue {c : Char} (h : isEnclosed c = true) : isContinue c = false := by
  obtain ⟨run, hrun, hholds⟩ := (Text.inRuns_iff _ _).mp h
  exact Text.not_inRuns (enclosedRuns_cases run hrun).2 hholds

theorem isStart_of_isUpper {c : Char} (hupper : Text.isUpper c = true)
    (h : isEnclosed c = false) : isStart c = true := by
  obtain ⟨run, hrun, hholds⟩ := (Text.inRuns_iff _ _).mp hupper
  rcases upperRuns_within run hrun with hin | hwithin
  · have henclosed : isEnclosed c = true := (Text.inRuns_iff _ _).mpr ⟨run, hin, hholds⟩
    rw [henclosed] at h
    cases h
  · exact Text.inRuns_of_within hwithin hholds

/-- The enclosed capitals are the capitals that no identifier has. -/
theorem isEnclosed_iff (c : Char) :
    isEnclosed c = true ↔ Text.isUpper c = true ∧ isContinue c = false := by
  refine ⟨fun h => ⟨isUpper_of_isEnclosed h, isEnclosed_not_continue h⟩, ?_⟩
  rintro ⟨hupper, hcontinue⟩
  by_contra h
  have hstart := isStart_of_isUpper hupper (Bool.eq_false_iff.mpr h)
  rw [isContinue_of_isStart hstart] at hcontinue
  cases hcontinue

/-- The lower case of a capital that is not enclosed is one letter with which identifiers start, with
a dot above it behind the capital I that has one. -/
theorem lowerChar_start {c : Char} (hupper : Text.isUpper c = true) (h : isEnclosed c = false) :
    ∃ d ds, Text.lowerChar c = d :: ds ∧ isStart d = true ∧ ∀ e ∈ ds, e = '\u0307' := by
  rcases Text.lowerChar_cases c with ⟨-, hlower⟩ | ⟨entry, hentry, hholds, d, hlower, hd⟩ | hlower
  · have hstart : isStart 'i' = true := (isStart_or_isDigit (by decide)).resolve_right (by decide)
    exact ⟨'i', ['\u0307'], hlower, hstart, fun e he => List.mem_singleton.mp he⟩
  · refine ⟨d, [], hlower, ?_, fun e he => absurd he List.not_mem_nil⟩
    rcases (loweringRuns_cases entry hentry).2 with ⟨hin, -⟩ | ⟨-, hwithin⟩
    · have henclosed : isEnclosed c = true := (Text.inRuns_iff _ _).mpr ⟨_, hin, hholds⟩
      rw [henclosed] at h
      cases h
    · exact Text.inRuns_of_within hwithin hd
  · exact ⟨c, [], hlower, isStart_of_isUpper hupper h, fun e he => absurd he List.not_mem_nil⟩

/-- The lower case of an enclosed capital is one character, which no identifier has. -/
theorem lowerChar_enclosed {c : Char} (h : isEnclosed c = true) :
    ∃ d, Text.lowerChar c = [d] ∧ isContinue d = false := by
  rcases Text.lowerChar_cases c with ⟨rfl, -⟩ | ⟨entry, hentry, hholds, d, hlower, hd⟩ | hlower
  · rw [not_isEnclosed_of_lt (by decide)] at h
    cases h
  · refine ⟨d, hlower, ?_⟩
    rcases (loweringRuns_cases entry hentry).2 with ⟨-, hapart⟩ | ⟨hapart, -⟩
    · exact Text.not_inRuns hapart hd
    · have hnot : isEnclosed c = false := Text.not_inRuns hapart hholds
      rw [h] at hnot
      cases hnot
  · exact ⟨c, hlower, isEnclosed_not_continue h⟩

/-- An enclosed capital is the lower case of no other character, and of itself if it has no lower
case of its own. -/
theorem mem_lowerChar_enclosed {c d : Char} (h : isEnclosed d = true) :
    d ∈ Text.lowerChar c ↔ c = d ∧ Text.lowerChar d = [d] := by
  constructor
  · intro hd
    rcases Text.lowerChar_cases c with ⟨-, hlower⟩ | ⟨entry, hentry, -, e, hlower, he⟩ | hlower
    · rw [hlower] at hd
      rcases List.mem_pair.mp hd with rfl | rfl
      · rw [not_isEnclosed_of_lt (by decide)] at h
        cases h
      · rw [not_isEnclosed_of_lt (by decide)] at h
        cases h
    · rw [hlower] at hd
      obtain rfl := List.mem_singleton.mp hd
      have hnot : isEnclosed d = false :=
        Text.not_inRuns (loweringRuns_cases entry hentry).1 he
      rw [h] at hnot
      cases hnot
    · rw [hlower] at hd
      obtain rfl := List.mem_singleton.mp hd
      exact ⟨rfl, hlower⟩
  · rintro ⟨rfl, hlower⟩
    rw [hlower]
    exact List.mem_singleton_self c

end Ident
end CrdBindings
