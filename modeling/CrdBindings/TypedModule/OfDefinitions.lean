import CrdBindings.Node.OfSchema
import CrdBindings.TypedModule

/-!
The modules of a list of definitions: one for each group and version, in the order in which groups
and then versions first appear. Of several definitions of one kind in a module the first counts, and
the others are not looked at.
-/

namespace CrdBindings
set_option autoImplicit false

namespace Resource

/-- The properties of a resource that become named types, with the ending of the type's name. -/
def typedProperty? (property : String) : Option String :=
  if property = "spec" then some "Spec"
  else if property = "status" then some "Status"
  else none

/-- The named types of a resource among the properties of its schema, in declared order. -/
def namedTypes (context kind : String) (required : List String) :
    List (String × Json) → Except Failure (List NamedType)
  | [] => .ok []
  | (property, schema) :: properties =>
    match typedProperty? property with
    | none => namedTypes context kind required properties
    | some ending => do
      let node ← Node.ofSchema context 1 schema
      let types ← namedTypes context kind required properties
      return ⟨kind ++ ending, property, required.contains property, Schema.description? schema, node⟩
        :: types

def ofVersion (d : Definition) (v : ServedVersion) : Except Failure Resource := do
  let bare : Resource := ⟨d.names.kind, d.names.plural, d.scope, none, []⟩
  match v.schema with
  | none => return bare
  | some root =>
    let described := { bare with description := Schema.description? root }
    match Schema.object? "properties" root with
    | none => return described
    | some properties =>
      let context := s!"{d.group}/{v.name} {d.names.kind}"
      let types ← namedTypes context d.names.kind (Schema.required root) properties
      return { described with types }

end Resource

namespace TypedModule

/-- Adds a version to the modules of its group: to its own module, which is made when it is missing,
unless that has the kind already. -/
def addVersion (d : Definition) (v : ServedVersion) :
    List TypedModule → Except Failure (List TypedModule)
  | [] => do
    let resource ← Resource.ofVersion d v
    return [⟨d.group, v.name, [resource]⟩]
  | m :: ms =>
    if m.version = v.name then
      if m.hasKind d.names.kind then .ok (m :: ms)
      else do
        let resource ← Resource.ofVersion d v
        return { m with resources := m.resources ++ [resource] } :: ms
    else (addVersion d v ms).map (m :: ·)

/-- Adds the versions of a definition, in order, to the modules of its group. -/
def addVersions (d : Definition) (modules : List TypedModule) : Except Failure (List TypedModule) :=
  d.versions.foldlM (fun ms v => addVersion d v ms) modules

/-- The modules of each group, in the order in which the groups first appear. -/
abbrev Groups := List (String × List TypedModule)

/-- Adds a definition to its group, which is made when it is missing. -/
def addDefinition (d : Definition) : Groups → Except Failure Groups
  | [] => do
    let modules ← addVersions d []
    return [(d.group, modules)]
  | (group, modules) :: groups =>
    if group = d.group then do
      let more ← addVersions d modules
      return (group, more) :: groups
    else (addDefinition d groups).map ((group, modules) :: ·)

def ofDefinitions (definitions : List Definition) : Except Failure (List TypedModule) := do
  let groups ← definitions.foldlM (fun groups d => addDefinition d groups) []
  return groups.flatMap (·.2)

end TypedModule
end CrdBindings
