import CrdBindings.Disk
import CrdBindings.Failure
import CrdBindings.SourceFile

/-!
Writing generated files into a directory: one file for each module, and behind them the one that
declares them. Two modules of one name refuse all of them before any file is written.
-/

namespace CrdBindings
set_option autoImplicit false

/-- The paths that were written, or why not all were, and the disk behind that. -/
structure Written where
  result : Except Failure (List String)
  disk : Disk

namespace SourceFile

/-- The first module name that stands for two files, where `names` are those in front. -/
def clash? (names : List String) : List SourceFile → Option String
  | [] => none
  | f :: files =>
    if names.contains f.moduleName then some f.moduleName else clash? (f.moduleName :: names) files

/-- Writes files in order up to the first that is refused. -/
def writeFiles (directory : String) (d : Disk) : List SourceFile → Written
  | [] => ⟨.ok [], d⟩
  | f :: files =>
    let path := Path.join directory f.fileName
    match d.write path f.content with
    | .error fault => ⟨.error (.generation s!"Failed to write {f.fileName}: {fault.message}"), d⟩
    | .ok d =>
      let others := writeFiles directory d files
      ⟨others.result.map (path :: ·), others.disk⟩

def ofModules (modules : List TypedModule) : List SourceFile := modules.map ofModule

/-- Writes the files of modules into a directory, which is made if it is missing. -/
def writeModules (directory : String) (d : Disk) (modules : List TypedModule) : Written :=
  match d.makeDirectories directory with
  | (some fault, d) =>
    ⟨.error (.generation s!"Failed to create output directory: {fault.message}"), d⟩
  | (none, d) =>
    let files := ofModules modules
    match clash? [] files with
    | some name =>
      ⟨.error (.generation s!"Two API group/versions map to module '{name}'"), d⟩
    | none => writeFiles directory d (files ++ [index files])

end SourceFile
end CrdBindings
