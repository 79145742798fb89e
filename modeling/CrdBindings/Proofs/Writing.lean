import CrdBindings.Proofs.Disk
import CrdBindings.Proofs.Ident.Reserved
import CrdBindings.Proofs.Layout.Plain
import CrdBindings.Proofs.Layout.Reading
import CrdBindings.SourceFile.Writing

/-!
What writing the files of modules does to a disk. No file is written over another one, and the file that
declares the modules comes last, so that it declares none that was not written.
-/

namespace CrdBindings
set_option autoImplicit false

namespace SourceFile

/-- Files whose names lead to different places of a directory. -/
structure Apart (files : List SourceFile) : Prop where
  proper : ∀ f ∈ files, Path.IsFileName f.fileName
  nodup : (files.map fileName).Nodup

theorem Apart.tail {f : SourceFile} {files : List SourceFile} (h : Apart (f :: files)) :
    Apart files :=
  ⟨fun g hg => h.proper g (List.mem_cons_of_mem f hg), (List.nodup_cons.mp h.nodup).2⟩

theorem Apart.head_ne {f g : SourceFile} {files : List SourceFile} (h : Apart (f :: files))
    (hg : g ∈ files) : g.fileName ≠ f.fileName :=
  fun heq => (List.nodup_cons.mp h.nodup).1 (heq ▸ List.mem_map_of_mem hg)

def units (modules : List TypedModule) : List SourceFile :=
  ofModules modules ++ [index (ofModules modules)]

/-- Files stand in a directory with their contents. All else is as it was before, but for directories
that were missing. -/
structure WrittenInto (directory : String) (before after : Disk) (files : List SourceFile) :
    Prop where
  holds : ∀ f ∈ files, after.read (Path.join directory f.fileName) = .ok f.content
  inside : ∀ f ∈ files, ∃ folder, after.LeadsTo directory folder ∧
    after.locate (Path.join directory f.fileName) = .ok (folder ++ [f.fileName])
  kept : ∀ place, (∀ f ∈ files, after.locate (Path.join directory f.fileName) ≠ .ok place) →
    before.KeptAt after place

/-- A file that is not among those written is as it was. -/
theorem WrittenInto.kept_other {directory : String} {before after : Disk} {files : List SourceFile}
    (h : WrittenInto directory before after files) {name : String} (hname : Path.IsFileName name)
    (hfresh : name ∉ files.map fileName) {place : Place}
    (hplace : after.locate (Path.join directory name) = .ok place) : before.KeptAt after place := by
  apply h.kept
  intro f hf hlocate
  obtain ⟨folder, -, rfl⟩ := Disk.locate_join hname hplace
  obtain ⟨folder', -, hinside⟩ := h.inside f hf
  have hlast := Except.ok.inj (hinside.symm.trans hlocate)
  have hnames : f.fileName = name := by
    simpa using congrArg List.getLast? hlast
  exact hfresh (hnames ▸ List.mem_map_of_mem hf)

/-- The file that is written first is there in the end, as no later one leads to its place. -/
theorem WrittenInto.cons {directory : String} {d written after : Disk} {f : SourceFile}
    {files : List SourceFile} (hfiles : Apart (f :: files))
    (hwrite : d.write (Path.join directory f.fileName) f.content = .ok written)
    (hextends : written.Extends after) {done : List SourceFile} (hdone : done ⊆ files)
    (h : WrittenInto directory written after done) :
    WrittenInto directory d after (f :: done) := by
  obtain ⟨place, hlocate, hentry, rfl⟩ := Disk.write_eq_ok hwrite
  have hproper := hfiles.proper f List.mem_cons_self
  obtain ⟨folder, hfolder, rfl⟩ := Disk.locate_join hproper hlocate
  have hall := (Disk.set_extends hentry (.text f.content)).trans hextends
  have hafter := hall.locate hlocate
  have hset : Disk.entry? (d.set (folder ++ [f.fileName]) (.text f.content))
      (folder ++ [f.fileName]) = some (.text f.content) := Disk.entry_set_self (by simp) d _
  have hfresh : f.fileName ∉ done.map fileName := by
    intro hmem
    obtain ⟨g, hg, hname⟩ := List.mem_map.mp hmem
    exact hfiles.head_ne (hdone hg) hname
  have htext : after.entry? (folder ++ [f.fileName]) = some (.text f.content) := by
    rcases h.kept_other hproper hfresh hafter with hkept | ⟨hnone, -⟩
    · rw [hkept, hset]
    · rw [hset] at hnone
      cases hnone
  have hslashed : (Path.ofText (Path.join directory f.fileName)).slashed = false := by
    rw [Path.ofText_join hproper]
  constructor
  case holds =>
    refine List.forall_mem_cons.mpr ⟨?_, h.holds⟩
    exact Disk.read_eq_ok hafter htext hslashed
  case inside =>
    refine List.forall_mem_cons.mpr ⟨?_, h.inside⟩
    exact ⟨folder, hall.leadsTo hfolder, hafter⟩
  case kept =>
    intro place hplace
    obtain ⟨hne, hrest⟩ := List.forall_mem_cons.mp hplace
    have hother : place ≠ folder ++ [f.fileName] := by
      rintro rfl
      exact hne hafter
    rcases h.kept place hrest with hkept | hmade
    · exact .inl (hkept.trans (Disk.entry_set_of_ne hother d _))
    · rw [Disk.entry_set_of_ne hother] at hmade
      exact .inr hmade

end SourceFile
end CrdBindings
