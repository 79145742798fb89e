import CrdBindings.Keyed
import CrdBindings.Version.Fragment

/-!
Catalogs of releases: the versions known for each repository, in the order of registration. A
repository that was registered without tags is known to have no release, which differs from one that
was never registered.
-/

namespace CrdBindings
set_option autoImplicit false

/-- The releases of each registered repository. -/
structure Catalog where
  entries : List (String × List Version)
deriving Repr

namespace Catalog

def empty : Catalog := ⟨[]⟩

/-- The releases of a repository, if it was registered. -/
def releases? (catalog : Catalog) (repository : String) : Option (List Version) :=
  Keyed.find? repository catalog.entries

/-- Adds releases behind those that the repository already has. -/
def add (catalog : Catalog) (repository : String) (versions : List Version) : Catalog :=
  ⟨Keyed.put repository ((catalog.releases? repository).getD [] ++ versions) catalog.entries⟩

/-- The versions of release tags, or the first tag that is none. -/
def readTags : List String → Except String (List Version)
  | [] => .ok []
  | tag :: tags =>
    match Version.ofTag? tag with
    | none => .error tag
    | some v => (readTags tags).map (v :: ·)

/-- Registers release tags for a repository; a tag that is no version refuses all of them. -/
def insert (catalog : Catalog) (repository : String) (tags : List String) :
    Except Failure Catalog :=
  match readTags tags with
  | .ok versions => .ok (catalog.add repository versions)
  | .error tag => .error (.parse s!"Invalid release tag '{tag}' for {repository}")

def insertAll (catalog : Catalog) (repositories : List (String × List String)) :
    Except Failure Catalog :=
  repositories.foldlM (fun c r => c.insert r.1 r.2) catalog

end Catalog
end CrdBindings
