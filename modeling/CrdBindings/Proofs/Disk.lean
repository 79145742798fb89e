import CrdBindings.Disk
import Mathlib.Data.List.Basic

/-!
Where the files of a directory are, and what making directories and writing files leave alone. A file is
found again as long as directories stay directories.
-/

namespace CrdBindings
set_option autoImplicit false

namespace Path

/-- A name that a file can have in a directory. -/
structure IsFileName (name : String) : Prop where
  nonempty : name ≠ ""
  no_slash : '/' ∉ name.toList
  ne_here : name ≠ "."
  ne_above : name ≠ ".."

theorem join_cases (directory file : String) :
    (directory = "" ∧ join directory file = file) ∨
    (∃ front, directory.toList = front ++ ['/'] ∧
      (join directory file).toList = front ++ '/' :: file.toList) ∨
    (directory ≠ "" ∧ (join directory file).toList = directory.toList ++ '/' :: file.toList) := by
  unfold join
  by_cases hempty : directory = ""
  · subst hempty
    exact .inl ⟨rfl, by simp⟩
  · by_cases hslash : directory.toList.getLast? = some '/'
    · refine .inr (.inl ?_)
      obtain ⟨front, hfront⟩ := List.getLast?_eq_some_iff.mp hslash
      refine ⟨front, hfront, ?_⟩
      simp [hfront]
    · refine .inr (.inr ⟨hempty, ?_⟩)
      simp [hempty, hslash]

/-- The names on the way to a file are those on the way to its directory, and its own. -/
theorem ofText_join {file : String} (h : IsFileName file) (directory : String) :
    ofText (join directory file) =
      ⟨(ofText directory).absolute, (ofText directory).names ++ [file], false⟩ := by
  have hsplit : Text.splitAtChar '/' file.toList = [file.toList] :=
    Text.splitAtChar_of_not_mem h.no_slash
  have hne : file.toList ≠ [] := fun hnil => h.nonempty (String.toList_eq_nil_iff.mp hnil)
  have hempty : file.isEmpty = false := by
    rw [← Bool.not_eq_true, String.isEmpty_iff]
    exact h.nonempty
  have hlast : ∀ front : List Char, ((front ++ file.toList).getLast? == some '/') = false := by
    intro front
    rw [List.getLast?_append_of_ne_nil _ hne, beq_eq_false_iff_ne]
    exact fun hslash => h.no_slash (List.mem_of_getLast? hslash)
  have hlast' : ∀ front : List Char, ((front ++ '/' :: file.toList).getLast? == some '/') = false := by
    intro front
    have hfront := hlast (front ++ ['/'])
    rwa [List.append_assoc, List.singleton_append] at hfront
  rcases join_cases directory file with ⟨rfl, hjoin⟩ | ⟨front, hdirectory, hjoin⟩ | ⟨hdirectory, hjoin⟩
  · rw [hjoin]
    have hhead : (file.toList.head? == some '/') = false := by
      rw [beq_eq_false_iff_ne]
      exact fun hslash => h.no_slash (List.mem_of_head? hslash)
    have hfile := hlast []
    rw [List.nil_append] at hfile
    simp [ofText, hsplit, hhead, hfile, hempty, Text.splitAtChar]
  · simp only [ofText, hjoin, hdirectory, Text.splitAtChar_mark, hsplit, hlast', List.map_append,
      List.filter_append]
    refine Path.mk.injEq .. ▸ ⟨?_, ?_, rfl⟩
    · cases front <;> rfl
    · simp [hempty, Text.splitAtChar]
  · have hhead : (directory.toList ++ '/' :: file.toList).head? = directory.toList.head? := by
      cases hchars : directory.toList with
      | nil => exact absurd (String.toList_eq_nil_iff.mp hchars) hdirectory
      | cons c cs => rfl
    simp only [ofText, hjoin, hhead, Text.splitAtChar_mark, hsplit, hlast', List.map_append,
      List.filter_append]
    simp [hempty]

end Path

namespace Disk

theorem entry_set_self {place : Place} (h : place ≠ []) (d : Disk) (e : Entry) :
    entry? (d.set place e) place = some e := by
  have hplace : place.isEmpty = false := by simpa using h
  simp only [ entry?, set, hplace, Keyed.find?_put_self]
  rfl

theorem entry_set_of_ne {place other : Place} (h : other ≠ place) (d : Disk) (e : Entry) :
    entry? (d.set place e) other = d.entry? other := by
  simp only [ entry?, set, Keyed.find?_put_of_ne h]

/-- What stands at a place stays there, or a directory is made where nothing stood. -/
def KeptAt (before after : Disk) (place : Place) : Prop :=
  after.entry? place = before.entry? place ∨
    before.entry? place = none ∧ after.entry? place = some .directory

theorem KeptAt.refl (d : Disk) (place : Place) : KeptAt d d place := .inl rfl

theorem KeptAt.trans {a b c : Disk} {place : Place} (hab : KeptAt a b place)
    (hbc : KeptAt b c place) : KeptAt a c place := by
  rcases hab with hab | ⟨hnone, hmade⟩
  · unfold KeptAt
    rwa [← hab]
  · refine .inr ⟨hnone, ?_⟩
    rcases hbc with hbc | ⟨hb, -⟩
    · rw [hbc, hmade]
    · rw [hmade] at hb
      cases hb

/-- The later disk has all directories of the earlier one. -/
structure Extends (before after : Disk) : Prop where
  workingDirectory_eq : after.workingDirectory = before.workingDirectory
  directories : ∀ place, before.entry? place = some .directory → after.entry? place = some .directory

theorem Extends.refl (d : Disk) : Extends d d := ⟨rfl, fun _ h => h⟩

theorem Extends.trans {a b c : Disk} (hab : Extends a b) (hbc : Extends b c) : Extends a c :=
  ⟨hbc.workingDirectory_eq.trans hab.workingDirectory_eq,
    fun place h => hbc.directories place (hab.directories place h)⟩

theorem Extends.walk {before after : Disk} (h : Extends before after) {place target : Place}
    {names : List String} (hwalk : before.walk place names = .ok target) :
    after.walk place names = .ok target := by
  induction names generalizing place with
  | nil => exact hwalk
  | cons name names ih =>
    rw [Disk.walk] at hwalk ⊢
    split at hwalk
    · cases hwalk
    · rename_i hentry
      rw [h.directories place hentry]
      split at hwalk
      · cases hwalk
      · rename_i hshort
        simp only [if_neg hshort]
        exact ih hwalk
    · cases hwalk

theorem Extends.start {before after : Disk} (h : Extends before after) (p : Path) :
    after.start p = before.start p := by
  rw [Disk.start, Disk.start, h.workingDirectory_eq]

theorem locate_eq_ok {d : Disk} {path : String} {place : Place} (h : d.locate path = .ok place) :
    d.walk (d.start (.ofText path)) (Path.ofText path).names = .ok place := by
  unfold locate at h
  split at h
  · cases h
  · split at h
    · cases h
    · split at h
      · cases h
      · exact h

theorem Extends.locate {before after : Disk} (h : Extends before after) {path : String}
    {place : Place} (hlocate : before.locate path = .ok place) : after.locate path = .ok place := by
  have hwalk := h.walk (locate_eq_ok hlocate)
  unfold Disk.locate at hlocate ⊢
  split at hlocate
  · cases hlocate
  · split at hlocate
    · cases hlocate
    · split at hlocate
      · cases hlocate
      · rw [h.start, if_neg ‹_›, if_neg ‹_›, if_neg ‹_›]
        exact hwalk

/-- The place of a directory that is given by its path. -/
def LeadsTo (d : Disk) (directory : String) (folder : Place) : Prop :=
  d.walk (d.start (.ofText directory)) (Path.ofText directory).names = .ok folder

theorem Extends.leadsTo {before after : Disk} (h : Extends before after) {directory : String}
    {folder : Place} (hfolder : before.LeadsTo directory folder) : after.LeadsTo directory folder := by
  unfold LeadsTo
  rw [h.start]
  exact h.walk hfolder

theorem walk_concat {d : Disk} {place target : Place} {names : List String} {name : String}
    (h : d.walk place (names ++ [name]) = .ok target) :
    ∃ folder, d.walk place names = .ok folder ∧ target = step folder name := by
  induction names generalizing place with
  | nil =>
    refine ⟨place, rfl, ?_⟩
    rw [List.nil_append, Disk.walk] at h
    split at h
    · cases h
    · split at h
      · cases h
      · exact (Except.ok.inj h).symm
    · cases h
  | cons first names ih =>
    rw [List.cons_append, Disk.walk] at h
    rw [Disk.walk]
    split at h
    · cases h
    · split at h
      · cases h
      · rename_i hshort
        simp only [if_neg hshort]
        exact ih h
    · cases h

/-- A file of a directory stands in it under its own name. -/
theorem locate_join {d : Disk} {directory file : String} {place : Place}
    (hfile : Path.IsFileName file) (h : d.locate (Path.join directory file) = .ok place) :
    ∃ folder, d.LeadsTo directory folder ∧ place = folder ++ [file] := by
  have hwalk := locate_eq_ok h
  simp only [Path.ofText_join hfile] at hwalk
  obtain ⟨folder, hfolder, rfl⟩ := walk_concat hwalk
  refine ⟨folder, hfolder, ?_⟩
  rw [step, if_neg hfile.ne_above, if_neg hfile.ne_here]

theorem write_eq_ok {d written : Disk} {path content : String}
    (h : d.write path content = .ok written) :
    ∃ place, d.locate path = .ok place ∧ d.entry? place ≠ some .directory ∧
      written = d.set place (.text content) := by
  unfold write at h
  split at h
  · cases h
  · rename_i place hlocate
    split at h
    · cases h
    · rename_i hentry
      exact ⟨place, hlocate, hentry, (Except.ok.inj h).symm⟩

theorem set_extends {d : Disk} {place : Place} (h : d.entry? place ≠ some .directory) (e : Entry) :
    Extends d (d.set place e) := by
  refine ⟨rfl, ?_⟩
  intro other hother
  have hne : other ≠ place := by
    rintro rfl
    exact h hother
  rw [entry_set_of_ne hne, hother]

theorem read_eq_ok {d : Disk} {path content : String} {place : Place}
    (hlocate : d.locate path = .ok place) (hentry : d.entry? place = some (.text content))
    (hslashed : (Path.ofText path).slashed = false) : d.read path = .ok content := by
  rw [read, hlocate]
  simp only [hentry, hslashed]

end Disk
end CrdBindings
