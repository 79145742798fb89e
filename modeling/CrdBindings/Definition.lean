import CrdBindings.Json

/-!
Custom resource definitions: an API group, the names of one kind, its scope, and its versions in
declared order, each with the schema as it was declared.
-/

namespace CrdBindings
set_option autoImplicit false

inductive Scope where
  | namespaced
  | cluster
deriving DecidableEq, Repr

namespace Scope

def text : Scope → String
  | namespaced => "Namespaced"
  | cluster => "Cluster"

/-- The scope of a name; any name but `Cluster` is namespaced. -/
def ofText (name : String) : Scope := if name = "Cluster" then cluster else namespaced

end Scope

structure KindNames where
  kind : String
  plural : String
  singular : Option String
  listKind : Option String
deriving Repr

structure ServedVersion where
  name : String
  served : Bool
  storage : Bool
  deprecated : Bool
  schema : Option Json
deriving Repr

structure Definition where
  name : Option String
  group : String
  names : KindNames
  scope : Scope
  versions : List ServedVersion
deriving Repr

namespace Definition

/-- The version declared first. -/
def primary? (d : Definition) : Option ServedVersion := d.versions.head?

def apiVersion (d : Definition) (version : String) : String := s!"{d.group}/{version}"

end Definition
end CrdBindings
