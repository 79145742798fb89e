import CrdBindings.Invocation.Running
import CrdBindings.Proofs.Collecting
import CrdBindings.Proofs.Overlap

/-!
Runs that write the modules of several sources. A source that cannot be imported is skipped: it decides
how the run ends, but has no part in what is written.
-/

namespace CrdBindings
set_option autoImplicit false

def Importer.imported? (i : Importer) (input : String) : Option Import :=
  match (i.importInput input).result with
  | .ok found => found
  | .error _ => none

theorem Importer.imported?_eq_some {i : Importer} {input : String} {found : Import} :
    i.imported? input = some found ↔ (i.importInput input).result = .ok (some found) := by
  unfold imported?
  cases (i.importInput input).result with
  | error failure => simp
  | ok found' => simp

/-- The modules that are kept of the inputs that can be imported. -/
def Importer.modulesOf (i : Importer) (inputs : List String) : List TypedModule :=
  (Import.merge (inputs.filterMap i.imported?)).kept

theorem Importer.modulesOf_filter (i : Importer) (inputs : List String) :
    i.modulesOf (inputs.filter fun input => (i.imported? input).isSome) = i.modulesOf inputs := by
  have himports : (inputs.filter fun input => (i.imported? input).isSome).filterMap i.imported? =
      inputs.filterMap i.imported? := by
    rw [List.filterMap_filter]
    apply List.filterMap_congr
    intro input _
    cases i.imported? input <;> rfl
  rw [modulesOf, himports, modulesOf]

namespace Outcomes

theorem zip_importAll (i : Importer) (sources : List String) :
    sources.zip (i.importAll sources).result =
      sources.map fun source => (source, (i.importInput source).result) := by
  rw [(Importer.importAll_outcome i sources).1]
  exact List.map_prod_left_eq_zip.symm

theorem imports_map (i : Importer) (sources : List String) :
    imports (sources.map fun source => (source, (i.importInput source).result)) =
      sources.filterMap i.imported? := by
  rw [imports, List.filterMap_map]
  apply List.filterMap_congr
  intro source _
  cases hresult : (i.importInput source).result with
  | error failure => simp [Importer.imported?, hresult]
  | ok found => simp [Importer.imported?, hresult]

/-- There is a warning for each source that cannot be imported. -/
theorem warnings_map (i : Importer) (sources : List String) :
    (warnings (sources.map fun source => (source, (i.importInput source).result))).length = 0 ↔
      ∀ source ∈ sources, ∃ found, (i.importInput source).result = .ok (some found) := by
  rw [List.length_eq_zero_iff, warnings, List.filterMap_map, List.filterMap_eq_nil_iff]
  apply forall₂_congr
  intro source _
  rw [Function.comp_apply]
  cases (i.importInput source).result with
  | error failure => simp
  | ok found =>
    cases found with
    | none => simp
    | some found => simp

end Outcomes

theorem concludeSkipped_disk (skipped total : Nat) (r : Report) :
    (concludeSkipped skipped total r).disk = r.disk := by
  unfold concludeSkipped
  split <;> rfl

theorem concludeSkipped_trouble (skipped total : Nat) (r : Report) :
    (concludeSkipped skipped total r).trouble = none ↔ skipped = 0 ∧ r.trouble = none := by
  unfold concludeSkipped
  cases htrouble : r.trouble with
  | some trouble => simp [htrouble]
  | none =>
    by_cases hskipped : skipped = 0
    · simp [hskipped, htrouble]
    · simp [hskipped]

theorem generate_nil (d : Disk) (directory : String) : (generate d directory []).disk = d := rfl

theorem generate_trouble (d : Disk) (directory : String) (modules : List TypedModule) :
    (generate d directory modules).trouble = none ↔
      modules = [] ∨ ∃ paths, (SourceFile.writeModules directory d modules).result = .ok paths := by
  cases modules with
  | nil => simp [generate]
  | cons m ms =>
    simp only [generate, List.isEmpty_cons, Bool.false_eq_true, if_false]
    cases (SourceFile.writeModules directory d (m :: ms)).result with
    | ok paths => simp
    | error failure => simp

theorem exitCode_eq_zero {r : Report} : r.exitCode = 0 ↔ r.trouble = none := by
  unfold Report.exitCode
  cases r.trouble <;> simp

theorem runGenerate_disk (d : Disk) (i : Importer) (verbose : Bool) (sources : List String)
    (directory : String) :
    (runGenerate d i verbose sources directory).disk =
      (generate d directory (i.modulesOf sources)).disk := by
  simp only [runGenerate, concludeSkipped_disk, Outcomes.zip_importAll, Outcomes.imports_map]
  rfl

theorem runGenerate_trouble (d : Disk) (i : Importer) (verbose : Bool) (sources : List String)
    (directory : String) :
    (runGenerate d i verbose sources directory).trouble = none ↔
      (∀ source ∈ sources, ∃ found, (i.importInput source).result = .ok (some found)) ∧
        (generate d directory (i.modulesOf sources)).trouble = none := by
  simp only [runGenerate, concludeSkipped_trouble, Outcomes.zip_importAll, Outcomes.imports_map,
    Outcomes.warnings_map]
  rfl

/-- Modules are kept of imports that have some. -/
theorem Importer.modulesOf_eq_nil {i : Importer} {inputs : List String}
    (h : ∀ input ∈ inputs, ∀ found, (i.importInput input).result = .ok (some found) →
      found.modules = []) : i.modulesOf inputs = [] := by
  have hsourced : Import.sourced (inputs.filterMap i.imported?) = [] := by
    rw [Import.sourced, List.flatMap_eq_nil_iff]
    intro found hfound
    obtain ⟨input, hinput, himported⟩ := List.mem_filterMap.mp hfound
    rw [h input hinput found (Importer.imported?_eq_some.mp himported), List.map_nil]
  rw [modulesOf, Import.merge, hsourced]
  rfl

namespace Invocation

/-- A run that writes modules ends well if every source is imported and the modules, if there are any,
are written. Its disk is that of a run on the sources that can be imported, wherever the others stand,
and as before if those have no modules. -/
theorem run_skips_failures {d : Disk} {releases : Option String} {catalog : Catalog}
    (hcatalog : releasesOf d releases = .ok catalog) (verbose : Bool) (fetching : Fetching)
    (sources : List String) (directory : String) :
    let importer := fetching.importer catalog d
    let run : List String → Report := fun sources =>
      Invocation.run ⟨verbose, releases, .generate sources directory fetching⟩ d
    ((run sources).exitCode = 0 ↔
      (∀ source ∈ sources, ∃ found, (importer.importInput source).result = .ok (some found)) ∧
        (importer.modulesOf sources = [] ∨ ∃ paths,
          (SourceFile.writeModules directory d (importer.modulesOf sources)).result = .ok paths)) ∧
    (run sources).disk =
      (run (sources.filter fun source => (importer.imported? source).isSome)).disk ∧
    ((∀ source ∈ sources, ∀ found, (importer.importInput source).result = .ok (some found) →
      found.modules = []) → (run sources).disk = d) := by
  intro importer run
  have hrun : ∀ sources, (run sources).disk = (runGenerate d importer verbose sources directory).disk ∧
      (run sources).trouble = (runGenerate d importer verbose sources directory).trouble := by
    intro sources
    simp only [run, Invocation.run, hcatalog]
    exact ⟨rfl, rfl⟩
  refine ⟨?_, ?_, ?_⟩
  · rw [exitCode_eq_zero, (hrun sources).2, runGenerate_trouble, generate_trouble]
  · rw [(hrun _).1, (hrun _).1, runGenerate_disk, runGenerate_disk, Importer.modulesOf_filter]
  · intro hnone
    rw [(hrun sources).1, runGenerate_disk, Importer.modulesOf_eq_nil hnone, generate_nil]

def gadgetImport (reply : Reply) : Except Failure Import :=
  ((Reply.text "gadget.yaml" 30000 reply).bind Bundle.ofText).bind
    (Importer.compile (.file "gadget.yaml") "gadget.yaml")

theorem gadgetText_imported : (gadgetImport (.document Bundle.gadgetText)).toOption.isSome := by
  simp only [gadgetImport, Reply.text, Except.bind, Bundle.ofText_gadgetText]
  rfl

def gadgetDisk : Disk := ⟨[(["gadget.yaml"], .text Bundle.gadgetText)], []⟩

theorem gadgetDisk_origin :
    gadgetDisk.origin "gadget.yaml" = .document Bundle.gadgetText ∧
      gadgetDisk.origin "missing.yaml" = .refused "file not found" := by
  have hzero : "gadget.yaml".contains '\x00' = false ∧ "missing.yaml".contains '\x00' = false := by
    constructor <;> cbv
  have hread : gadgetDisk.read "gadget.yaml" = .ok Bundle.gadgetText ∧
      gadgetDisk.read "missing.yaml" = .error .notFound := by
    simp only [Disk.read, Disk.locate, hzero]
    exact ⟨rfl, rfl⟩
  have hlocal : localPath? "gadget.yaml" = some (some "gadget.yaml") ∧
      localPath? "missing.yaml" = some (some "missing.yaml") := ⟨rfl, rfl⟩
  constructor
  · change gadgetDisk.reply "gadget.yaml" = _
    simp only [Disk.reply, hlocal, hread]
  · change gadgetDisk.reply "missing.yaml" = _
    simp only [Disk.reply, hlocal, hread]

/-- A run on a file that is missing and on one that defines a kind. -/
theorem run_skips_missing :
    let importer := Fetching.importer ⟨30, false⟩ .empty gadgetDisk
    let run : List String → Report := fun sources =>
      Invocation.run ⟨false, none, .generate sources "out" ⟨30, false⟩⟩ gadgetDisk
    releasesOf gadgetDisk none = .ok .empty ∧
    (importer.imported? "gadget.yaml").isSome ∧
    (run ["missing.yaml", "gadget.yaml"]).exitCode ≠ 0 ∧
    (run ["missing.yaml", "gadget.yaml"]).disk = (run ["gadget.yaml"]).disk ∧
    (run ["missing.yaml"]).disk = gadgetDisk := by
  intro importer run
  obtain ⟨horigin, hnone⟩ := gadgetDisk_origin
  have hmissing : (importer.importInput "missing.yaml").result =
      .error (.fetch "missing.yaml" "file not found") := by
    change (((Reply.text _ _ (gadgetDisk.origin "missing.yaml")).bind _).bind _).map _ = _
    rw [hnone]
    rfl
  have himported : importer.imported? "gadget.yaml" =
      (gadgetImport (.document Bundle.gadgetText)).toOption := by
    have hgadget : (importer.importInput "gadget.yaml").result =
        (gadgetImport (gadgetDisk.origin "gadget.yaml")).map some := rfl
    rw [Importer.imported?, hgadget, horigin]
    cases gadgetImport (.document Bundle.gadgetText) <;> rfl
  have hskipped : importer.imported? "missing.yaml" = none := by
    rw [Importer.imported?, hmissing]
  have hfound : (importer.imported? "gadget.yaml").isSome := by
    rw [himported]
    exact gadgetText_imported
  have hcatalog : releasesOf gadgetDisk none = .ok .empty := rfl
  obtain ⟨hexit, hdisk, -⟩ := run_skips_failures hcatalog false ⟨30, false⟩
    ["missing.yaml", "gadget.yaml"] "out"
  obtain ⟨-, -, hnothing⟩ := run_skips_failures hcatalog false ⟨30, false⟩ ["missing.yaml"] "out"
  have hfilter : (["missing.yaml", "gadget.yaml"].filter fun source =>
      (importer.imported? source).isSome) = ["gadget.yaml"] := by
    simp [hskipped, hfound]
  refine ⟨hcatalog, hfound, ?_, hdisk.trans (by rw [hfilter]), hnothing ?_⟩
  · intro hzero
    obtain ⟨found, hok⟩ := (hexit.mp hzero).1 "missing.yaml" List.mem_cons_self
    exact nomatch hmissing.symm.trans hok
  · intro source hsource found hok
    rw [List.mem_singleton.mp hsource] at hok
    exact nomatch hmissing.symm.trans hok

end Invocation
end CrdBindings
