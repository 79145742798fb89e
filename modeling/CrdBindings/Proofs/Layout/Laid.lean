import CrdBindings.Layout.OfModule
import CrdBindings.Proofs.Names
import CrdBindings.Proofs.Tree

/-!
What a type tree adds to a draft, as a recursion over the tree: the draft only grows at its end, a
parent stands before its children, and the name of a resource is the one chosen for its kind.
-/

namespace CrdBindings
set_option autoImplicit false

namespace Node

mutual

def hasMap : Node → Bool
  | .object fields => fieldsHaveMap fields
  | .array items => hasMap items
  | .map _ => true
  | _ => false

def fieldsHaveMap : List Field → Bool
  | [] => false
  | .mk _ node _ _ :: fields => hasMap node || fieldsHaveMap fields

end

mutual

def hasIntOrString : Node → Bool
  | .object fields => fieldsHaveIntOrString fields
  | .array items => hasIntOrString items
  | .map values => hasIntOrString values
  | .intOrString => true
  | _ => false

def fieldsHaveIntOrString : List Field → Bool
  | [] => false
  | .mk _ node _ _ :: fields => hasIntOrString node || fieldsHaveIntOrString fields

end

end Node

namespace Layout

/-- What a node contributes: the text of its type, the items declared for it in order, and the
names taken afterwards. -/
structure Laid where
  type : String
  items : List Item
  names : Names

def layEnumeration (names : Names) (candidate : String) (description : Option String)
    (values : List Json) : Laid :=
  match values.mapM Json.asString? with
  | some strings =>
    let (name, names) := names.claim candidate
    ⟨name, [.choice ⟨name, docLines description, variants .empty strings⟩], names⟩
  | none => ⟨if values.all isSmallInt then "i64" else "serde_json::Value", [], names⟩

mutual

def layNode (names : Names) (candidate : String) (description : Option String) : Node → Laid
  | .object fields =>
    let (name, names) := names.claim candidate
    let (decls, items, names) := layFields names .empty name fields
    ⟨name, .record ⟨name, docLines description, decls⟩ :: items, names⟩
  | .enumeration values => layEnumeration names candidate description values
  | .array inner =>
    let laid := layNode names candidate none inner
    { laid with type := listType laid.type }
  | .map inner =>
    let laid := layNode names candidate none inner
    { laid with type := mapType laid.type }
  | .string => ⟨"String", [], names⟩
  | .integer => ⟨"i64", [], names⟩
  | .number => ⟨"f64", [], names⟩
  | .boolean => ⟨"bool", [], names⟩
  | .intOrString => ⟨"IntOrString", [], names⟩
  | .unknown => ⟨"serde_json::Value", [], names⟩

def layFields (names idents : Names) (parent : String) :
    List Field → List FieldDecl × List Item × Names
  | [] => ([], [], names)
  | .mk name node required description :: fields =>
    let laid := layNode names (parent ++ Ident.type name) description node
    let (ident, idents) := idents.claim (Ident.field name)
    let (decls, items, names) := layFields laid.names idents parent fields
    (fieldDecl ident name laid.type required description :: decls, laid.items ++ items, names)

end

def layTypes (names : Names) :
    List NamedType → List (String × FieldDecl) × List Item × Names
  | [] => ([], [], names)
  | t :: ts =>
    let laid := layNode names (Ident.type t.name) t.description t.node
    let decl := fieldDecl (Ident.field t.property) t.property laid.type t.required t.description
    let (decls, items, names) := layTypes laid.names ts
    ((t.property, decl) :: decls, laid.items ++ items, names)

/-- The last of the fields whose property passes a test. -/
def lastField? (test : String → Bool) (decls : List (String × FieldDecl)) : Option FieldDecl :=
  ((decls.filter fun d => test d.1).getLast?).map (·.2)

def resourceDecl (name : String) (r : Resource) (decls : List (String × FieldDecl)) : ResourceDecl :=
  { name, kind := r.kind, plural := r.plural, namespaced := r.scope == .namespaced
    doc := docLines r.description
    spec := lastField? (· == "spec") decls
    status := lastField? (· != "spec") decls }

def layResources (names : Names) : List (String × Resource) → List Item × Names
  | [] => ([], names)
  | (name, r) :: rest =>
    let (decls, items, names) := layTypes names r.types
    let (others, names) := layResources names rest
    (.resource (resourceDecl name r decls) :: items ++ others, names)

def kindNames (m : TypedModule) : List String × Names :=
  (Names.empty.claimAll sharedTypes).2.claimAll (m.resources.map fun r => Ident.type r.kind)

theorem kindNames_length (m : TypedModule) : (kindNames m).1.length = m.resources.length := by
  simp only [kindNames, Names.claimAll_length, List.length_map]

namespace Draft

/-- A draft with more items at its end. -/
def grown (draft : Draft) (names : Names) (items : List Item) (usesMap usesIntOrString : Bool) :
    Draft :=
  { draft with
    names, items := draft.items ++ items
    usesMap := draft.usesMap || usesMap
    usesIntOrString := draft.usesIntOrString || usesIntOrString }

@[simp] theorem grown_names (draft : Draft) (names : Names) (items : List Item) (map int : Bool) :
    (draft.grown names items map int).names = names := rfl

theorem grown_grown (draft : Draft) (names names' : Names) (items items' : List Item)
    (map map' int int' : Bool) :
    (draft.grown names items map int).grown names' items' map' int' =
      draft.grown names' (items ++ items') (map || map') (int || int') := by
  simp [grown, Bool.or_assoc]

theorem insertIdx_append {α : Type} (as bs : List α) (a : α) :
    (as ++ bs).insertIdx as.length a = as ++ a :: bs := by
  induction as with
  | nil => rfl
  | cons b as ih => simp [ih]

/-- Inserting at the former end puts an item in front of what was added since. -/
theorem insert_grown (draft : Draft) (names : Names) (items : List Item) (map int : Bool)
    (item : Item) :
    (draft.grown names items map int).insert draft.items.length item =
      draft.grown names (item :: items) map int := by
  simp [insert, grown, insertIdx_append]

/-- A draft in which a map was met before its values. -/
theorem grown_of_usesMap (draft : Draft) (names : Names) (items : List Item) (map int : Bool) :
    ({ draft with usesMap := true } : Draft).grown names items map int =
      draft.grown names items true int := by
  simp [grown]

/-- The name of a record is taken before its fields are declared. -/
theorem insert_claimed (draft : Draft) (taken names : Names) (items : List Item) (map int : Bool)
    (item : Item) :
    (({ draft with names := taken } : Draft).grown names items map int).insert
      draft.items.length item = draft.grown names (item :: items) map int :=
  insert_grown { draft with names := taken } names items map int item

theorem enumerationType_eq (draft : Draft) (candidate : String) (description : Option String)
    (values : List Json) :
    draft.enumerationType candidate description values =
      ((layEnumeration draft.names candidate description values).type,
        draft.grown (layEnumeration draft.names candidate description values).names
          (layEnumeration draft.names candidate description values).items false false) := by
  unfold enumerationType layEnumeration
  cases values.mapM Json.asString? with
  | none => simp [grown]
  | some strings => simp [claim, push, grown]

/-- A node adds its items at the end of the draft, whatever the draft holds. -/
theorem typeOf_eq_and_declareFields_eq :
    (∀ (node : Node) (draft : Draft) (candidate : String) (description : Option String),
      draft.typeOf candidate description node =
        ((layNode draft.names candidate description node).type,
          draft.grown (layNode draft.names candidate description node).names
            (layNode draft.names candidate description node).items
            node.hasMap node.hasIntOrString)) ∧
    ∀ (fields : List Field) (draft : Draft) (idents : Names) (parent : String),
      draft.declareFields idents parent fields =
        ((layFields draft.names idents parent fields).1,
          draft.grown (layFields draft.names idents parent fields).2.2
            (layFields draft.names idents parent fields).2.1
            (Node.fieldsHaveMap fields) (Node.fieldsHaveIntOrString fields)) := by
  apply Node.tree_induction
  case object =>
    intro fields ih draft candidate description
    have hfields := ih { draft with names := (draft.names.claim candidate).2 } .empty
      (draft.names.claim candidate).1
    simp only [typeOf, claim, hfields, insert_claimed]
    simp only [layNode, Node.hasMap, Node.hasIntOrString]
  case array =>
    intro inner ih draft candidate description
    simp only [typeOf, ih, layNode, Node.hasMap, Node.hasIntOrString]
  case map =>
    intro inner ih draft candidate description
    simp only [typeOf, ih, grown_of_usesMap]
    simp only [layNode, Node.hasMap, Node.hasIntOrString]
  case enumeration =>
    intro values draft candidate description
    simp only [typeOf, enumerationType_eq, layNode, Node.hasMap, Node.hasIntOrString]
  case leaf =>
    intro node h draft candidate description
    cases h <;> simp [typeOf, layNode, grown, Node.hasMap, Node.hasIntOrString]
  case nil =>
    intro draft idents parent
    simp [declareFields, layFields, grown, Node.fieldsHaveMap, Node.fieldsHaveIntOrString]
  case cons =>
    intro name node required description fields ihNode ihFields draft idents parent
    simp only [declareFields, ihNode, ihFields, layFields, grown_grown]
    rfl

theorem typeOf_eq (draft : Draft) (candidate : String) (description : Option String)
    (node : Node) :
    draft.typeOf candidate description node =
      ((layNode draft.names candidate description node).type,
        draft.grown (layNode draft.names candidate description node).names
          (layNode draft.names candidate description node).items node.hasMap node.hasIntOrString) :=
  typeOf_eq_and_declareFields_eq.1 node draft candidate description

theorem lastField?_cons (test : String → Bool) (property : String) (decl : FieldDecl)
    (decls : List (String × FieldDecl)) :
    lastField? test ((property, decl) :: decls) =
      (lastField? test decls).or (if test property then some decl else none) := by
  unfold lastField?
  cases htest : test property with
  | false => simp [htest]
  | true =>
    rw [List.filter_cons_of_pos (by exact htest), List.getLast?_cons]
    cases (decls.filter fun d => test d.1).getLast? <;> rfl

/-- The types of a resource add their items in order; of the types for one property the last counts,
and what was there before counts without any. -/
theorem addTypes_eq (ts : List NamedType) (draft : Draft) (spec status : Option FieldDecl) :
    draft.addTypes spec status ts =
      ((lastField? (· == "spec") (layTypes draft.names ts).1).or spec,
        (lastField? (· != "spec") (layTypes draft.names ts).1).or status,
        draft.grown (layTypes draft.names ts).2.2 (layTypes draft.names ts).2.1
          (ts.any (·.node.hasMap)) (ts.any (·.node.hasIntOrString))) := by
  induction ts generalizing draft spec status with
  | nil => simp [addTypes, layTypes, lastField?, grown]
  | cons t ts ih =>
    simp only [addTypes, typeOf_eq, ih, grown_names, grown_grown, layTypes, lastField?_cons,
      List.any_cons]
    by_cases hspec : t.property = "spec"
    · simp [hspec]
    · simp [hspec]

end Draft

/-- No node and no field declares a resource. -/
theorem countP_layNode_and_layFields :
    (∀ (node : Node) (names : Names) (candidate : String) (description : Option String),
      (layNode names candidate description node).items.countP Item.isResource = 0) ∧
    ∀ (fields : List Field) (names idents : Names) (parent : String),
      (layFields names idents parent fields).2.1.countP Item.isResource = 0 := by
  apply Node.tree_induction
  case object =>
    intro fields ih names candidate description
    simpa [layNode, Item.isResource] using ih _ _ _
  case array =>
    intro inner ih names candidate description
    exact ih names candidate none
  case map =>
    intro inner ih names candidate description
    exact ih names candidate none
  case enumeration =>
    intro values names candidate description
    simp only [layNode, layEnumeration]
    split <;> rfl
  case leaf =>
    intro node h names candidate description
    cases h <;> rfl
  case nil => exact fun _ _ _ => rfl
  case cons =>
    intro name node required description fields ihNode ihFields names idents parent
    simp only [layFields, List.countP_append, ihNode, ihFields]

theorem countP_layTypes (ts : List NamedType) (names : Names) :
    (layTypes names ts).2.1.countP Item.isResource = 0 := by
  induction ts generalizing names with
  | nil => rfl
  | cons t ts ih =>
    simp only [layTypes, List.countP_append, countP_layNode_and_layFields.1, ih]

namespace Draft

theorem addResource_eq (draft : Draft) (r : Resource) (name : String) (kinds : List String)
    (h : draft.kinds.drop (draft.items.countP Item.isResource) = name :: kinds) :
    draft.addResource r =
      draft.grown (layTypes draft.names r.types).2.2
        (.resource (resourceDecl name r (layTypes draft.names r.types).1) ::
          (layTypes draft.names r.types).2.1)
        (r.types.any (·.node.hasMap)) (r.types.any (·.node.hasIntOrString)) := by
  have hname : draft.kinds.getD (draft.items.countP Item.isResource) "" = name := by
    have hget := congrArg List.head? h
    rw [List.head?_drop, List.head?_cons] at hget
    rw [List.getD_eq_getElem?_getD, hget, Option.getD_some]
  simp only [addResource, addTypes_eq, insert_grown, hname, Option.or_none, resourceDecl]

/-- As many resources are laid out as kinds have names left, each under the next of them: the names
are counted by the resources in front. -/
theorem addResources_eq (rs : List Resource) (draft : Draft) (kinds : List String)
    (h : draft.kinds.drop (draft.items.countP Item.isResource) = kinds)
    (hlength : kinds.length = rs.length) :
    rs.foldl addResource draft =
      draft.grown (layResources draft.names (kinds.zip rs)).2
        (layResources draft.names (kinds.zip rs)).1
        (rs.any fun r => r.types.any (·.node.hasMap))
        (rs.any fun r => r.types.any (·.node.hasIntOrString)) := by
  induction rs generalizing draft kinds with
  | nil => simp [layResources, grown]
  | cons r rs ih =>
    cases kinds with
    | nil => simp at hlength
    | cons name kinds =>
      have hcount : (draft.addResource r).items.countP Item.isResource =
          draft.items.countP Item.isResource + 1 := by
        rw [addResource_eq draft r name kinds h]
        simp only [grown, List.countP_append, List.countP_cons, countP_layTypes, Item.isResource,
          if_true, Nat.zero_add]
      have hkinds : (draft.addResource r).kinds.drop
          ((draft.addResource r).items.countP Item.isResource) = kinds := by
        rw [hcount, addResource_eq draft r name kinds h, ← List.drop_drop]
        simp only [grown, h, List.drop_one, List.tail_cons]
      rw [List.foldl_cons, ih _ kinds hkinds (by simpa using hlength),
        addResource_eq draft r name kinds h]
      simp only [grown_names, grown_grown, List.zip_cons_cons, layResources, List.cons_append,
        List.any_cons]

end Draft

/-- The layout of a module, as a recursion over its resources and their type trees. -/
theorem ofModule_eq (m : TypedModule) :
    ofModule m =
      { group := m.group, version := m.version
        items := (layResources (kindNames m).2 ((kindNames m).1.zip m.resources)).1
        usesMap := m.resources.any fun r => r.types.any (·.node.hasMap)
        usesIntOrString := m.resources.any fun r => r.types.any (·.node.hasIntOrString) } := by
  have hstart : Draft.start m = ⟨(kindNames m).2, (kindNames m).1, [], false, false⟩ := rfl
  have h := Draft.addResources_eq m.resources _ (kindNames m).1
    (congrArg (fun draft => draft.kinds.drop (draft.items.countP Item.isResource)) hstart)
    (kindNames_length m)
  simp only [ofModule, h]
  simp only [hstart, Draft.grown, List.nil_append, Bool.false_or]

section
variable {p : Item → Prop}

theorem forall_mem_layTypes {ts : List NamedType}
    (h : ∀ t ∈ ts, ∀ names, ∀ item ∈ (layNode names (Ident.type t.name) t.description t.node).items,
      p item) (names : Names) : ∀ item ∈ (layTypes names ts).2.1, p item := by
  induction ts generalizing names with
  | nil => exact List.forall_mem_nil _
  | cons t ts ih =>
    obtain ⟨hfirst, hrest⟩ := List.forall_mem_cons.mp h
    exact List.forall_mem_append.mpr ⟨hfirst names, ih hrest _⟩

theorem forall_mem_layResources {rs : List (String × Resource)}
    (hresource : ∀ entry ∈ rs, ∀ decls, p (.resource (resourceDecl entry.1 entry.2 decls)))
    (htypes : ∀ entry ∈ rs, ∀ t ∈ entry.2.types, ∀ names,
      ∀ item ∈ (layNode names (Ident.type t.name) t.description t.node).items, p item)
    (names : Names) : ∀ item ∈ (layResources names rs).1, p item := by
  induction rs generalizing names with
  | nil => exact List.forall_mem_nil _
  | cons entry rs ih =>
    obtain ⟨hfirst, hrest⟩ := List.forall_mem_cons.mp hresource
    obtain ⟨hfirstTypes, hrestTypes⟩ := List.forall_mem_cons.mp htypes
    refine List.forall_mem_cons.mpr ⟨hfirst _, List.forall_mem_append.mpr ⟨?_, ?_⟩⟩
    · exact forall_mem_layTypes hfirstTypes names
    · exact ih hrest hrestTypes _

/-- The items of a layout are those of the resources, under the names of the kinds, and those of the
nodes of their types. -/
theorem forall_mem_ofModule {m : TypedModule}
    (hresource : ∀ name ∈ (kindNames m).1, ∀ r decls, p (.resource (resourceDecl name r decls)))
    (htypes : ∀ r ∈ m.resources, ∀ t ∈ r.types, ∀ names,
      ∀ item ∈ (layNode names (Ident.type t.name) t.description t.node).items, p item) :
    ∀ item ∈ (ofModule m).items, p item := by
  rw [ofModule_eq]
  apply forall_mem_layResources
  · intro entry hentry
    exact hresource entry.1 (List.of_mem_zip hentry).1 entry.2
  · intro entry hentry
    exact htypes entry.2 (List.of_mem_zip hentry).2

end

end Layout
end CrdBindings
