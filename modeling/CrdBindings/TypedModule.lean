import CrdBindings.Definition
import CrdBindings.Node

/-!
Typed modules: the resources of one version of an API group, each with the named types of its
specification and status.
-/

namespace CrdBindings
set_option autoImplicit false

/-- A type with a name of its own, taken from a property of a resource. -/
structure NamedType where
  name : String
  property : String
  required : Bool
  description : Option String
  node : Node

structure Resource where
  kind : String
  plural : String
  scope : Scope
  description : Option String
  types : List NamedType

structure TypedModule where
  group : String
  version : String
  resources : List Resource

namespace TypedModule

def apiVersion (m : TypedModule) : String := s!"{m.group}/{m.version}"

def types (m : TypedModule) : List NamedType := m.resources.flatMap (·.types)

def hasKind (m : TypedModule) (kind : String) : Bool := m.resources.any (·.kind == kind)

end TypedModule
end CrdBindings
