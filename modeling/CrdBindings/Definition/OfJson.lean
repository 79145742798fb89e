import CrdBindings.Definition
import CrdBindings.Text.LetterCase

/-!
Reading definitions from values. The shape of a document is fixed and every field is optional; a
record may also be given as an array of its fields in order. One field of the wrong type anywhere
refuses the whole document, unknown fields do not matter.
-/

namespace CrdBindings
set_option autoImplicit false

namespace Shape

/-- The values of a record's fields in order, null for an absent one: by name from an object, by
position from an array that is not too long. -/
def slots? (names : List String) : Json → Option (List Json)
  | .obj members => some (names.map fun name => (Keyed.find? name members).getD .null)
  | .arr items =>
    if items.length ≤ names.length then
      some (items ++ List.replicate (names.length - items.length) .null)
    else none
  | _ => none

def optional {α : Type} (read : Json → Option α) : Json → Option (Option α)
  | .null => some none
  | v => (read v).map some

def bool? : Json → Option Bool
  | .bool b => some b
  | _ => none

def list? {α : Type} (read : Json → Option α) : Json → Option (List α)
  | .arr items => items.mapM read
  | _ => none

def metadata? (v : Json) : Option (Option String) := do
  match ← slots? ["name"] v with
  | [name] => optional Json.asString? name
  | _ => none

def schemaHolder? (v : Json) : Option (Option Json) := do
  match ← slots? ["openAPIV3Schema"] v with
  | [schema] => optional some schema
  | _ => none

structure Names where
  kind : Option String
  plural : Option String
  singular : Option String
  listKind : Option String

def names? (v : Json) : Option Names := do
  match ← slots? ["kind", "plural", "singular", "listKind"] v with
  | [kind, plural, singular, listKind] =>
    return ⟨← optional Json.asString? kind, ← optional Json.asString? plural,
      ← optional Json.asString? singular, ← optional Json.asString? listKind⟩
  | _ => none

structure Entry where
  name : Option String
  served : Option Bool
  storage : Option Bool
  deprecated : Option Bool
  schema : Option Json

def entry? (v : Json) : Option Entry := do
  match ← slots? ["name", "served", "storage", "deprecated", "schema"] v with
  | [name, served, storage, deprecated, schema] =>
    return ⟨← optional Json.asString? name, ← optional bool? served, ← optional bool? storage,
      ← optional bool? deprecated, (← optional schemaHolder? schema).join⟩
  | _ => none

structure Spec where
  group : Option String
  names : Option Names
  scope : Option String
  versions : Option (List Entry)
  sharedSchema : Option Json

def spec? (v : Json) : Option Spec := do
  match ← slots? ["group", "names", "scope", "versions", "validation"] v with
  | [group, names, scope, versions, validation] =>
    return ⟨← optional Json.asString? group, ← optional names? names,
      ← optional Json.asString? scope, ← optional (list? entry?) versions,
      (← optional schemaHolder? validation).join⟩
  | _ => none

structure Document where
  name : Option String
  spec : Option Spec

def document? (v : Json) : Option Document := do
  match ← slots? ["metadata", "spec"] v with
  | [metadata, spec] => return ⟨(← optional metadata? metadata).join, ← optional spec? spec⟩
  | _ => none

end Shape

namespace Definition

/-- A text that is present and not empty. -/
def filled? (text : Option String) : Option String := text.filter (!·.isEmpty)

/-- The version of an entry, unless it has no name. A version without a schema has the shared one. -/
def version? (shared : Option Json) (e : Shape.Entry) : Option ServedVersion :=
  (filled? e.name).map fun name =>
    { name, served := e.served.getD true, storage := e.storage.getD false,
      deprecated := e.deprecated.getD false, schema := e.schema.or shared }

/-- The definition that a specification makes: it needs a group, a kind and a named version. -/
def ofSpec? (name : Option String) (spec : Shape.Spec) : Option Definition := do
  let group ← filled? spec.group
  let names ← spec.names
  let kind ← filled? names.kind
  let versions := (spec.versions.getD []).filterMap (version? spec.sharedSchema)
  if versions.isEmpty then none
  let plural := (filled? names.plural).getD (Text.lower kind ++ "s")
  let scope := Scope.ofText (spec.scope.getD "")
  return ⟨name, group, ⟨kind, plural, names.singular, names.listKind⟩, scope, versions⟩

def kindOf? (v : Json) : Option String := (v.get? "kind").bind Json.asString?

def definitionKind : String := "CustomResourceDefinition"

/-- The definition that a value holds, if it is a usable one. -/
def ofJson? (v : Json) : Option Definition := do
  if kindOf? v ≠ some definitionKind then none
  let document ← Shape.document? v
  ofSpec? document.name (← document.spec)

end Definition
end CrdBindings
