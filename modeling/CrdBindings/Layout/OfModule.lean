import CrdBindings.Layout
import CrdBindings.Names
import CrdBindings.TypedModule

/-!
Flattening a typed module. Every object of a type tree becomes a record and every set of strings a
choice, named after the path to it. The kinds choose their names first, and all names of a module
differ. The items grow in a draft: a parent is put in front of what its children have added.
-/

namespace CrdBindings
set_option autoImplicit false

def Item.isResource : Item → Bool
  | .resource _ => true
  | _ => false

namespace Layout

def fieldDecl (ident name innerType : String) (required : Bool) (description : Option String) :
    FieldDecl :=
  { ident, innerType, required, doc := docLines description
    rename := if Ident.bare ident = name then none else some name }

/-- The variants of a choice, with identifiers that differ. -/
def variants (idents : Names) : List String → List Variant
  | [] => []
  | value :: values =>
    let (ident, idents) := idents.claim (Ident.type value)
    ⟨ident, value⟩ :: variants idents values

def listType (type : String) : String := s!"Vec<{type}>"

def mapType (type : String) : String := s!"BTreeMap<String, {type}>"

/-- An integer of 64 bits with a sign. -/
def isSmallInt : Json → Bool
  | .int i => -0x8000000000000000 ≤ i && i < 0x8000000000000000
  | _ => false

/-- A layout in the making: the names taken so far, the names chosen for the kinds, and the items. -/
structure Draft where
  names : Names
  kinds : List String
  items : List Item
  usesMap : Bool
  usesIntOrString : Bool

namespace Draft

def claim (draft : Draft) (wanted : String) : String × Draft :=
  ((draft.names.claim wanted).1, { draft with names := (draft.names.claim wanted).2 })

/-- Puts an item at a position, in front of those from there on. -/
def insert (draft : Draft) (position : Nat) (item : Item) : Draft :=
  { draft with items := draft.items.insertIdx position item }

def push (draft : Draft) (item : Item) : Draft := { draft with items := draft.items ++ [item] }

/-- The type of a closed set of values: strings make a choice, integers are integers, and a mixed
set is any value. -/
def enumerationType (draft : Draft) (candidate : String) (description : Option String)
    (values : List Json) : String × Draft :=
  match values.mapM Json.asString? with
  | some strings =>
    let (name, draft) := draft.claim candidate
    (name, draft.push (.choice ⟨name, docLines description, variants .empty strings⟩))
  | none => (if values.all isSmallInt then "i64" else "serde_json::Value", draft)

mutual

/-- The text of a node's type, and the draft with the items that it needs; `candidate` is the name
wanted for it. -/
def typeOf (draft : Draft) (candidate : String) (description : Option String) :
    Node → String × Draft
  | .object fields =>
    let named := draft.claim candidate
    let declared := declareFields named.2 .empty named.1 fields
    let record := .record ⟨named.1, docLines description, declared.1⟩
    -- The record stands before the items that its fields have added.
    (named.1, declared.2.insert draft.items.length record)
  | .enumeration values => draft.enumerationType candidate description values
  | .array inner =>
    let typed := typeOf draft candidate none inner
    (listType typed.1, typed.2)
  | .map inner =>
    let typed := typeOf { draft with usesMap := true } candidate none inner
    (mapType typed.1, typed.2)
  | .string => ("String", draft)
  | .integer => ("i64", draft)
  | .number => ("f64", draft)
  | .boolean => ("bool", draft)
  | .intOrString => ("IntOrString", { draft with usesIntOrString := true })
  | .unknown => ("serde_json::Value", draft)

/-- The fields of a record in order, whose own identifiers differ too. -/
def declareFields (draft : Draft) (idents : Names) (parent : String) :
    List Field → List FieldDecl × Draft
  | [] => ([], draft)
  | .mk name node required description :: fields =>
    let typed := typeOf draft (parent ++ Ident.type name) description node
    let named := idents.claim (Ident.field name)
    let declared := declareFields typed.2 named.2 parent fields
    (fieldDecl named.1 name typed.1 required description :: declared.1, declared.2)

end

/-- Lays the named types of a resource out, and keeps the fields for its specification and its
status. A later type of either takes the place of an earlier one. -/
def addTypes (draft : Draft) (spec status : Option FieldDecl) :
    List NamedType → Option FieldDecl × Option FieldDecl × Draft
  | [] => (spec, status, draft)
  | t :: ts =>
    let (type, draft) := draft.typeOf (Ident.type t.name) t.description t.node
    let decl := fieldDecl (Ident.field t.property) t.property type t.required t.description
    if t.property = "spec" then draft.addTypes (some decl) status ts
    else draft.addTypes spec (some decl) ts

/-- Adds a resource, under the name chosen for its kind, and the items of its types behind it. -/
def addResource (draft : Draft) (r : Resource) : Draft :=
  let name := draft.kinds.getD (draft.items.countP Item.isResource) ""
  let (spec, status, after) := draft.addTypes none none r.types
  after.insert draft.items.length (.resource
    { name, kind := r.kind, plural := r.plural, namespaced := r.scope == .namespaced
      doc := docLines r.description, spec, status })

end Draft

def sharedTypes : List String := ["ObjectMeta", "IntOrString"]

def Draft.start (m : TypedModule) : Draft :=
  let (kinds, names) :=
    (Names.empty.claimAll sharedTypes).2.claimAll (m.resources.map fun r => Ident.type r.kind)
  { names, kinds, items := [], usesMap := false, usesIntOrString := false }

def ofModule (m : TypedModule) : Layout :=
  let draft := m.resources.foldl Draft.addResource (Draft.start m)
  { group := m.group, version := m.version, items := draft.items
    usesMap := draft.usesMap, usesIntOrString := draft.usesIntOrString }

end Layout
end CrdBindings
