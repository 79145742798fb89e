import CrdBindings.Ident
import CrdBindings.Text.Blank
import CrdBindings.Text.Lines

/-!
Layouts: the flat declarations of one module, in the order in which they are written. A record is an
object with named fields, a choice a closed set of strings.
-/

namespace CrdBindings
set_option autoImplicit false

/-- A field of a declaration: its identifier, the name it is written under when that differs, the
type of its value, and whether the value may be absent. -/
structure FieldDecl where
  ident : String
  rename : Option String
  innerType : String
  required : Bool
  doc : List String
deriving DecidableEq, Repr

/-- The type of a field, which is optional unless the field is required. -/
def FieldDecl.type (f : FieldDecl) : String :=
  if f.required then f.innerType else s!"Option<{f.innerType}>"

structure ResourceDecl where
  name : String
  kind : String
  plural : String
  namespaced : Bool
  doc : List String
  spec : Option FieldDecl
  status : Option FieldDecl
deriving DecidableEq, Repr

structure RecordDecl where
  name : String
  doc : List String
  fields : List FieldDecl
deriving DecidableEq, Repr

namespace RecordDecl

/-- The fields that every value has. -/
def required (r : RecordDecl) : List FieldDecl := r.fields.filter (·.required)

/-- Whether a record can be made from nothing: no field is required. -/
def isDefaultable (r : RecordDecl) : Bool := r.required.isEmpty

end RecordDecl

structure Variant where
  ident : String
  value : String
deriving DecidableEq, Repr

structure ChoiceDecl where
  name : String
  doc : List String
  variants : List Variant
deriving DecidableEq, Repr

inductive Item where
  | resource (decl : ResourceDecl)
  | record (decl : RecordDecl)
  | choice (decl : ChoiceDecl)
deriving DecidableEq, Repr

/-- The type that an item declares. -/
def Item.name : Item → String
  | .resource decl => decl.name
  | .record decl => decl.name
  | .choice decl => decl.name

structure Layout where
  group : String
  version : String
  items : List Item
  usesMap : Bool
  usesIntOrString : Bool
deriving DecidableEq, Repr

namespace Layout

def apiVersion (l : Layout) : String := s!"{l.group}/{l.version}"

def typeNames (l : Layout) : List String := l.items.map Item.name

/-- The lines of a description, each without outer blanks. -/
def docLines (description : Option String) : List String :=
  match description with
  | some text => (Text.lines text.toList).map fun line => String.ofList (Text.trim line)
  | none => []

end Layout
end CrdBindings
