import CrdBindings.Invocation.OfArguments
import CrdBindings.Invocation.Running

/-!
The program: it takes the files that an invocation may look at into a disk, runs the invocation on it,
and carries out what that changed.
-/

namespace CrdBindings
set_option autoImplicit false

/-- The paths of the files and directories that an invocation may look at. -/
def Invocation.paths (i : Invocation) : List String :=
  let local? (input : String) : Option String :=
    match Source.detect input with
    | .ok (.url u) => (localPath? u.text).join
    | .ok (.file path) => some path
    | _ => none
  i.releases.toList ++
    match i.task with
    | .resolve _ => []
    | .inspect source _ => (local? source).toList
    | .generate sources directory _ => sources.filterMap local? ++ [directory]

def placeText (place : Place) : String := String.join (place.map ("/" ++ ·))

def entryAt (place : Place) : IO (Option Entry) := do
  let path := (← IO.currentDir) / placeText place
  if ← path.isDir then
    return some .directory
  else if ← path.pathExists then
    let octets ← IO.FS.readBinFile path
    return some (((String.fromUTF8? octets).map Entry.text).getD .binary)
  else
    return none

def takePlace (d : Disk) (place : Place) : IO Disk := do
  if (d.entry? place).isSome then return d
  match ← entryAt place with
  | some e => return d.set place e
  | none => return d

/-- Takes what stands along names from a place into a disk, and what a directory at the end holds. -/
def takeNames (d : Disk) (place : Place) : List String → IO Disk
  | [] => do
    if d.entry? place != some .directory then return d
    let path := (← IO.currentDir) / (if place.isEmpty then "/" else placeText place)
    (← path.readDir).foldlM (fun d e => takePlace d (place ++ [e.fileName])) d
  | name :: names => do
    let next := Disk.step place name
    takeNames (← takePlace d next) next names

def takeDisk (i : Invocation) : IO Disk := do
  let here := (Path.ofText (← IO.currentDir).toString).names
  let above := (List.range here.length).map fun n => here.take (n + 1)
  let d ← above.foldlM takePlace ⟨[], here⟩
  i.paths.foldlM (fun d path => takeNames d (d.start (.ofText path)) (Path.ofText path).names) d

def carryOut (before : Disk) (place : Place) (e : Entry) : IO Unit := do
  if before.entry? place == some e then return
  match e with
  | .directory => IO.FS.createDir (placeText place)
  | .text content => IO.FS.writeFile (placeText place) content
  | .binary => return

def runOnSystem (i : Invocation) : IO UInt32 := do
  let before ← takeDisk i
  let report := i.run before
  IO.print report.output
  report.disk.entries.forM fun (place, e) => carryOut before place e
  IO.eprint report.errors
  return UInt32.ofNat report.exitCode

end CrdBindings

open CrdBindings in
def main (arguments : List String) : IO UInt32 := do
  match Usage.ofArguments arguments with
  | .run i => runOnSystem i
  | .version =>
    IO.print Usage.versionText
    return 0
  | .help =>
    IO.print Usage.text
    return 0
  | .wrong =>
    IO.eprint Usage.text
    return 2
