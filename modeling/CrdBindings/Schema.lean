import CrdBindings.Json
import CrdBindings.Node

/-!
The keywords of a schema that matter for its type. A keyword with a value of the wrong form counts
as absent.
-/

namespace CrdBindings.Schema
set_option autoImplicit false

/-- The declared type, if it is a string. -/
def declaredType? (schema : Json) : Option String := (schema.get? "type").bind Json.asString?

def list? (key : String) (schema : Json) : Option (List Json) :=
  match schema.get? key with
  | some (.arr items) => some items
  | _ => none

def object? (key : String) (schema : Json) : Option (List (String × Json)) :=
  (schema.get? key).bind Json.asObject?

/-- Appends the values that equal none before them. -/
def addNew (seen : List Json) : List Json → List Json
  | [] => seen
  | v :: vs => addNew (if seen.any (·.same v) then seen else seen ++ [v]) vs

/-- The listed values in declared order, each once, unless there is none. -/
def enumValues? (schema : Json) : Option (List Json) :=
  match list? "enum" schema with
  | some (v :: vs) => some (addNew [] (v :: vs))
  | _ => none

/-- A keyword that is switched on. -/
def isSet (key : String) (schema : Json) : Bool :=
  match schema.get? key with
  | some v => v.isTrue
  | none => false

def isIntOrString (schema : Json) : Bool := isSet "x-kubernetes-int-or-string" schema

def preservesUnknown (schema : Json) : Bool := isSet "x-kubernetes-preserve-unknown-fields" schema

def required (schema : Json) : List String :=
  match list? "required" schema with
  | some items => items.filterMap Json.asString?
  | none => []

def description? (schema : Json) : Option String :=
  (schema.get? "description").bind Json.asString?

/-- The leaf of a type name that needs no further keyword. -/
def primitive? : String → Option Node
  | "string" => some .string
  | "integer" => some .integer
  | "number" => some .number
  | "boolean" => some .boolean
  | _ => none

end CrdBindings.Schema
