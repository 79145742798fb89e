import CrdBindings.Failure
import CrdBindings.Schema

/-!
The type of a schema. Listed values come first, then the flag for integers or strings, then the
declared type; whatever cannot be told is unknown. Only nesting beyond 64 levels is refused.
-/

namespace CrdBindings.Node
set_option autoImplicit false

/-- The deepest level of a schema that is followed. -/
def maxLevel : Nat := 64

def tooDeep (context : String) : Failure :=
  .parse s!"Schema of {context} nests deeper than {maxLevel} levels"

def fieldsOf (convert : Json → Except Failure Node) (required : List String) :
    List (String × Json) → Except Failure (List Field)
  | [] => .ok []
  | (name, property) :: properties => do
    let node ← convert property
    let fields ← fieldsOf convert required properties
    return .mk name node (required.contains name) (Schema.description? property) :: fields

/-- The node of a schema of type `object`: declared properties make an object, other properties a
map; an object that keeps unknown fields has no known type. -/
def ofObjectSchema (convert : Json → Except Failure Node) (schema : Json) : Except Failure Node :=
  match Schema.object? "properties" schema with
  | some properties => (fieldsOf convert (Schema.required schema) properties).map .object
  | none =>
    match schema.get? "additionalProperties" with
    | some (.obj (m :: ms)) => (convert (.obj (m :: ms))).map .map
    | some (.bool false) => .ok (.object [])
    | some _ => .ok (.map .unknown)
    | none => .ok (if Schema.preservesUnknown schema then .unknown else .map .unknown)

def ofArraySchema (convert : Json → Except Failure Node) (schema : Json) : Except Failure Node :=
  match schema.get? "items" with
  | some (.obj members) => (convert (.obj members)).map .array
  | _ => .ok (.array .unknown)

def ofDeclaredType (convert : Json → Except Failure Node) (schema : Json) :
    Except Failure Node :=
  match Schema.declaredType? schema with
  | some "object" => ofObjectSchema convert schema
  | some "array" => ofArraySchema convert schema
  | some name => .ok ((Schema.primitive? name).getD .unknown)
  | none => .ok .unknown

/-- The node of a schema for which `levels` levels are left. -/
def ofSchemaWithin (context : String) : Nat → Json → Except Failure Node
  | 0, _ => .error (tooDeep context)
  | levels + 1, schema =>
    match Schema.enumValues? schema with
    | some values => .ok (.enumeration values)
    | none =>
      if Schema.isIntOrString schema then .ok .intOrString
      else ofDeclaredType (ofSchemaWithin context levels) schema

/-- The node of a schema that stands at a level, the root of a named type being at level 1. -/
def ofSchema (context : String) (level : Nat) (schema : Json) : Except Failure Node :=
  ofSchemaWithin context (maxLevel + 1 - level) schema

end CrdBindings.Node
