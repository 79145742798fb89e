import CrdBindings.Json

/-!
Type trees. A node is an object with declared fields, an array, an open map from strings, a closed
set of values, or a leaf; a leaf `unknown` stands for any value.
-/

namespace CrdBindings
set_option autoImplicit false

mutual

inductive Node where
  | object (fields : List Field)
  | array (items : Node)
  | map (values : Node)
  | enumeration (values : List Json)
  | string
  | integer
  | number
  | boolean
  | intOrString
  | unknown

/-- A field of an object, under the name that the schema declares. -/
inductive Field where
  | mk (name : String) (node : Node) (required : Bool) (description : Option String)

end

namespace Field

def name : Field → String
  | mk name .. => name

def node : Field → Node
  | mk _ node .. => node

def required : Field → Bool
  | mk _ _ required _ => required

def description : Field → Option String
  | mk _ _ _ description => description

end Field

namespace Node

instance : Inhabited Node := ⟨.unknown⟩

def fields : Node → List Field
  | .object fields => fields
  | _ => []

def field? (node : Node) (name : String) : Option Field :=
  node.fields.find? (·.name == name)

def label : Node → String
  | .object fields => s!"object({fields.length} fields)"
  | .array items => s!"array<{label items}>"
  | .map values => s!"map<string, {label values}>"
  | .enumeration values => s!"enum({values.length} values)"
  | .string => "string"
  | .integer => "integer"
  | .number => "number"
  | .boolean => "boolean"
  | .intOrString => "int-or-string"
  | .unknown => "unknown"

mutual

/-- The number of levels of the tree; a leaf has one. -/
def depth : Node → Nat
  | .object fields => 1 + fieldsDepth fields
  | .array items => 1 + depth items
  | .map values => 1 + depth values
  | _ => 1

/-- The number of levels below an object. -/
def fieldsDepth : List Field → Nat
  | [] => 0
  | .mk _ node _ _ :: fields => max (depth node) (fieldsDepth fields)

end

end Node
end CrdBindings
