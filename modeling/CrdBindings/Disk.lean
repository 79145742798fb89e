import CrdBindings.Keyed
import CrdBindings.Text.Lines

/-!
Files and directories. A place is a list of names from the root; a path is text that leads to a place
from the root or from the working directory. A path leads somewhere only if everything in front of
its last name is a directory.
-/

namespace CrdBindings
set_option autoImplicit false

/-- What stands at a place. -/
inductive Entry where
  | directory
  | text (content : String)
  /-- A file whose content is no text. -/
  | binary
deriving DecidableEq, Repr

/-- The names from the root to a file or directory. -/
abbrev Place := List String

structure Disk where
  entries : List (Place × Entry)
  workingDirectory : Place
deriving Repr

inductive DiskFault where
  | notFound
  | alreadyThere
  | notDirectory
  | isDirectory
  | nameTooLong
  | notText
  | zeroInName
deriving DecidableEq, Repr

def DiskFault.message : DiskFault → String
  | notFound => "No such file or directory (os error 2)"
  | alreadyThere => "File exists (os error 17)"
  | notDirectory => "Not a directory (os error 20)"
  | isDirectory => "Is a directory (os error 21)"
  | nameTooLong => "File name too long (os error 36)"
  | notText => "stream did not contain valid UTF-8"
  | zeroInName => "file name contained an unexpected NUL byte"

/-- A path: whether it starts at the root, its names, and whether a slash ends it. -/
structure Path where
  absolute : Bool
  names : List String
  slashed : Bool
deriving DecidableEq, Repr

namespace Path

def ofText (text : String) : Path :=
  let cs := text.toList
  let pieces := (Text.splitAtChar '/' cs).map String.ofList
  ⟨cs.head? == some '/', pieces.filter (!·.isEmpty), cs.getLast? == some '/'⟩

/-- The names without those that stay in place; one at the start of a relative path counts. -/
def properNames (p : Path) : List String :=
  match p.names with
  | "." :: names => if p.absolute then names.filter (· != ".") else "." :: names.filter (· != ".")
  | names => names.filter (· != ".")

/-- The path of a file in a directory that is given by its path. -/
def join (directory file : String) : String :=
  if directory.isEmpty || directory.toList.getLast? == some '/' then directory ++ file
  else directory ++ "/" ++ file

end Path

namespace Disk

/-- What stands at a place. The root is a directory. -/
def entry? (d : Disk) (place : Place) : Option Entry :=
  if place.isEmpty then some .directory else Keyed.find? place d.entries

def set (d : Disk) (place : Place) (e : Entry) : Disk :=
  { d with entries := Keyed.put place e d.entries }

/-- The place that a name leads to from a directory. -/
def step (place : Place) (name : String) : Place :=
  if name = ".." then place.dropLast else if name = "." then place else place ++ [name]

/-- Walks along names; every place that is left must be a directory. -/
def walk (d : Disk) (place : Place) : List String → Except DiskFault Place
  | [] => .ok place
  | name :: names =>
    match d.entry? place with
    | none => .error .notFound
    | some .directory =>
      if 255 < name.utf8ByteSize then .error .nameTooLong else walk d (step place name) names
    | some _ => .error .notDirectory

def start (d : Disk) (p : Path) : Place := if p.absolute then [] else d.workingDirectory

/-- The longest text of a path, in bytes. -/
def maxPath : Nat := 4095

def locate (d : Disk) (path : String) : Except DiskFault Place :=
  if path.contains '\x00' then .error .zeroInName
  else if path.isEmpty then .error .notFound
  else if maxPath < path.utf8ByteSize then .error .nameTooLong
  else d.walk (d.start (.ofText path)) (Path.ofText path).names

def read (d : Disk) (path : String) : Except DiskFault String :=
  match d.locate path with
  | .error fault => .error fault
  | .ok place =>
    match d.entry? place, (Path.ofText path).slashed with
    | none, _ => .error .notFound
    | some .directory, _ => .error .isDirectory
    | some _, true => .error .notDirectory
    | some (.text content), false => .ok content
    | some .binary, false => .error .notText

def write (d : Disk) (path content : String) : Except DiskFault Disk :=
  match d.locate path with
  | .error fault => .error fault
  | .ok place =>
    match d.entry? place with
    | some .directory => .error .isDirectory
    | _ => .ok (d.set place (.text content))

def makeDirectory (d : Disk) (start : Place) (names : List String) : Except DiskFault Disk :=
  match d.walk start names with
  | .error fault => .error fault
  | .ok place =>
    match d.entry? place with
    | some _ => .error .alreadyThere
    | none => .ok (d.set place .directory)

def isDirectory (d : Disk) (start : Place) (names : List String) : Bool :=
  match d.walk start names with
  | .ok place => d.entry? place == some .directory
  | .error _ => false

/-- Makes a directory, which may be there already. -/
def ensureDirectory (d : Disk) (start : Place) (names : List String) : Except DiskFault Disk :=
  match d.makeDirectory start names with
  | .ok d => .ok d
  | .error fault => if d.isDirectory start names then .ok d else .error fault

/-- Makes a directory and those above it that are missing; `above` holds the names above it, the
nearest first. The disk is given back also on a refusal. -/
def ensureTree (d : Disk) (start : Place) (names : List String) :
    List String → Option DiskFault × Disk
  | [] =>
    match d.ensureDirectory start names with
    | .ok d => (none, d)
    | .error fault => (some fault, d)
  | name :: above =>
    match d.ensureDirectory start names with
    | .ok d => (none, d)
    | .error .notFound =>
      match ensureTree d start (name :: above).reverse above with
      | (none, d) =>
        match d.ensureDirectory start names with
        | .ok d => (none, d)
        | .error fault => (some fault, d)
      | refused => refused
    | .error fault => (some fault, d)

/-- Makes the directory of a path and those above it. The empty path stands for the working
directory. -/
def makeDirectories (d : Disk) (path : String) : Option DiskFault × Disk :=
  let p := Path.ofText path
  if path.contains '\x00' then (some .zeroInName, d)
  else if maxPath < path.utf8ByteSize then (some .nameTooLong, d)
  else if p.properNames.isEmpty then (none, d)
  else d.ensureTree (d.start p) p.names (p.properNames.reverse.drop 1)

end Disk
end CrdBindings
