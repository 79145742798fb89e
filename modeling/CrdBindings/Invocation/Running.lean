import CrdBindings.Catalog.OfDisk
import CrdBindings.Fetch.OfDisk
import CrdBindings.Importer.Merging
import CrdBindings.Invocation
import CrdBindings.Node.Outline
import CrdBindings.Report
import CrdBindings.SourceFile.Writing

/-!
Running an invocation on a disk. A source that cannot be imported is skipped with a warning, and the
run ends in trouble after the others are written.
-/

namespace CrdBindings
set_option autoImplicit false

/-- The catalog of a run; without a file it is empty. -/
def releasesOf (d : Disk) (file : Option String) : Except Trouble Catalog :=
  match file with
  | none => .ok .empty
  | some path =>
    match Catalog.ofDisk d path with
    | .ok catalog => .ok catalog
    | .error failure => .error ⟨s!"Failed to load release catalog {path}", some failure⟩

def Fetching.importer (f : Fetching) (catalog : Catalog) (d : Disk) : Importer :=
  ⟨catalog, d.origin, if f.keeps then some .empty else none, f.timeout * 1000⟩

def unhandled (input : String) : Trouble := ⟨s!"No provider strategy handles '{input}'", none⟩

def runResolve (d : Disk) (catalog : Catalog) (reference : String) : Report :=
  match Reference.resolveText reference catalog with
  | .ok (some url) => ⟨[url], [], none, d⟩
  | .ok none => ⟨[], [], some (unhandled reference), d⟩
  | .error failure => ⟨[], [], some ⟨s!"Failed to resolve '{reference}'", some failure⟩, d⟩

/-- The lines of a named type, with its outline if all is to be shown. -/
def NamedType.lines (verbose : Bool) (t : NamedType) : List String :=
  s!"    {t.name}: {t.node.label}" :: (if verbose then t.node.outline 3 else [])

def Resource.lines (verbose : Bool) (r : Resource) : List String :=
  s!"  • {r.kind} ({r.plural}, {r.scope.text})" :: r.types.flatMap (NamedType.lines verbose)

def TypedModule.lines (verbose : Bool) (m : TypedModule) : List String :=
  ["", m.apiVersion] ++ m.resources.flatMap (Resource.lines verbose)

def Import.lines (verbose : Bool) (i : Import) : List String :=
  [s!"→ Fetched {i.url}", "", "✓ Import successful!", s!"  CRDs: {i.definitions.length}",
    s!"  Modules: {i.modules.length}"] ++ i.modules.flatMap (TypedModule.lines verbose)

def runInspect (d : Disk) (importer : Importer) (verbose : Bool) (source : String) : Report :=
  let start := s!"→ Importing {source}"
  match (importer.importInput source).result with
  | .ok (some i) => ⟨start :: i.lines verbose, [], none, d⟩
  | .ok none => ⟨[start], [], some (unhandled source), d⟩
  | .error failure => ⟨[start], [], some ⟨s!"Failed to import '{source}'", some failure⟩, d⟩

/-- What is to blame for a failure, in short. -/
def Failure.label (f : Failure) : String :=
  if f.blamesReference then "invalid reference"
  else if f.blamesFetch then "fetch failed"
  else "import failed"

/-- A source and what became of it. -/
abbrev Outcomes := List (String × Except Failure (Option Import))

namespace Outcomes

def imports (os : Outcomes) : List Import :=
  os.filterMap fun (_, result) =>
    match result with
    | .ok i => i
    | .error _ => none

def successLines (verbose : Bool) (os : Outcomes) : List String :=
  os.flatMap fun (source, result) =>
    match result with
    | .ok (some i) =>
      s!"✓ Imported {i.definitions.length} CRDs from {source}" ::
        (if verbose then [s!"  URL: {i.url}"] else [])
    | _ => []

def warnings (os : Outcomes) : List String :=
  os.filterMap fun (source, result) =>
    match result with
    | .ok (some _) => none
    | .ok none => some s!"⚠ Skipping {source}: no provider strategy handles it"
    | .error failure => some s!"⚠ Skipping {source} ({failure.label}): {failure.message}"

end Outcomes

def Merged.warnings (m : Merged) : List String :=
  m.dropped.map fun (dropped, source) =>
    s!"⚠ {dropped.apiVersion} already imported, ignoring the copy from {source.text}"

/-- Writes modules, if there are any: the lines printed, the trouble, and the disk behind. -/
def generate (d : Disk) (directory : String) (modules : List TypedModule) : Report :=
  if modules.isEmpty then ⟨[], [], none, d⟩
  else
    let start := ["", "→ Generating module files..."]
    let written := SourceFile.writeModules directory d modules
    match written.result with
    | .ok paths =>
      ⟨start ++ ["", "✓ Generation complete!", "", "Generated files:"] ++ paths.map ("  📄 " ++ ·),
        [], none, written.disk⟩
    | .error failure => ⟨start, [], some ⟨"Failed to write modules", some failure⟩, written.disk⟩

/-- The end of a run that skipped sources, unless it is in trouble already. -/
def concludeSkipped (skipped total : Nat) (r : Report) : Report :=
  if r.trouble.isSome || skipped = 0 then r
  else
    { r with
      printed := r.printed ++ ["", s!"⚠ Skipped {skipped} source(s) due to errors"]
      trouble := some ⟨s!"{skipped} of {total} source(s) failed to import", none⟩ }

def runGenerate (d : Disk) (importer : Importer) (verbose : Bool) (sources : List String)
    (directory : String) : Report :=
  let outcomes : Outcomes := sources.zip (importer.importAll sources).result
  let merged := Import.merge outcomes.imports
  let skipped := outcomes.warnings
  let r := concludeSkipped skipped.length sources.length (generate d directory merged.kept)
  { r with
    printed := s!"→ Importing {sources.length} source(s)" :: outcomes.successLines verbose ++ r.printed
    warnings := skipped ++ merged.warnings }

def Task.run (t : Task) (d : Disk) (catalog : Catalog) (verbose : Bool) : Report :=
  match t with
  | .resolve reference => runResolve d catalog reference
  | .inspect source fetching => runInspect d (fetching.importer catalog d) verbose source
  | .generate sources directory fetching =>
    runGenerate d (fetching.importer catalog d) verbose sources directory

def Invocation.run (i : Invocation) (d : Disk) : Report :=
  let start := if i.verbose then ["→ Verbose mode enabled"] else []
  match releasesOf d i.releases with
  | .error trouble => ⟨start, [], some trouble, d⟩
  | .ok catalog =>
    let r := i.task.run d catalog i.verbose
    { r with printed := start ++ r.printed }

end CrdBindings
