import CrdBindings.Catalog
import CrdBindings.Yaml.Value

/-!
Catalogs as text: one YAML document whose member `releases` lists the tags of each repository. Where
a collection is wanted an absent node stands for the empty one, and a scalar stands for its text. The
text of a failure leaves out the reason that a YAML library puts behind it, after a colon.
-/

namespace CrdBindings.Catalog
set_option autoImplicit false

open Yaml (Tree Targets Bounded follow scalarText readRoot readDocuments)

def sequenceItems (targets : Targets) (t : Tree) : Bounded (List Tree) := do
  match ← follow targets t with
  | .sequence _ _ items => return items
  | .scalar _ _ true "" => return []
  | _ => failure

def mappingPairs (targets : Targets) (t : Tree) : Bounded (List (Tree × Tree)) := do
  match ← follow targets t with
  | .mapping _ _ pairs => return pairs
  | .scalar _ _ true "" => return []
  | _ => failure

def tagsOf (targets : Targets) (t : Tree) : Bounded (List String) := do
  (← sequenceItems targets t).mapM (scalarText targets)

/-- The tags of each repository: of equal repositories the first place and the last tags count. -/
def repositoriesOf (targets : Targets) (t : Tree) : Bounded (List (String × List String)) := do
  let read (entries : List (String × List String)) (pair : Tree × Tree) :
      Bounded (List (String × List String)) := do
    return Keyed.put (← scalarText targets pair.1) (← tagsOf targets pair.2) entries
  (← mappingPairs targets t).foldlM read []

/-- The member `releases` of a mapping, which may stand once; other members do not count. -/
def releasesMember (targets : Targets) (found : Option (List (String × List String)))
    (pair : Tree × Tree) : Bounded (Option (List (String × List String))) := do
  if (← scalarText targets pair.1) = "releases" then
    if found.isSome then failure else return some (← repositoriesOf targets pair.2)
  else return found

def rootTags (targets : Targets) (root : Tree) : Bounded (List (String × List String)) := do
  return (← (← mappingPairs targets root).foldlM (releasesMember targets) none).getD []

/-- The tags of each repository that a text lists. -/
def listed? (text : String) : Option (List (String × List String)) :=
  let documents := readDocuments text
  match documents.roots, documents.broken with
  | [root], false => readRoot rootTags root
  | _, _ => none

def ofText (text : String) : Except Failure Catalog :=
  match listed? text with
  | some repositories => empty.insertAll repositories
  | none => .error (.parse "Failed to parse release catalog")

end CrdBindings.Catalog
