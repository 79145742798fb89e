import CrdBindings.Node

/-!
Outlines of type trees: a line for each field, indented below the field that holds it.
-/

namespace CrdBindings.Node
set_option autoImplicit false

/-- The line of a field: its name, a star if it is required, and its type. -/
def fieldLine (indent : Nat) (name : String) (required : Bool) (node : Node) : String :=
  String.join (List.replicate indent "  ") ++ name ++ (if required then "*" else "") ++ ": " ++ node.label

mutual

/-- The lines of the fields of an object, or of the objects right inside of an array or map. -/
def outline (indent : Nat) : Node → List String
  | .object fields => fieldsOutline indent fields
  | .array (.object fields) => fieldsOutline indent fields
  | .map (.object fields) => fieldsOutline indent fields
  | _ => []

/-- The lines of fields, each with those below it. -/
def fieldsOutline (indent : Nat) : List Field → List String
  | [] => []
  | .mk name node required _ :: fields =>
    fieldLine indent name required node :: (outline (indent + 1) node ++ fieldsOutline indent fields)

end

end CrdBindings.Node
