import CrdBindings.Proofs.Compilation
import CrdBindings.Proofs.Enumeration
import CrdBindings.Proofs.Tree

/-!
What modules keep of the schemas they come from, at every depth: the properties with their order, their
descriptions and which of them are required, the listed values, and the types of each kind.
-/

namespace CrdBindings
set_option autoImplicit false

theorem map_eq_map_of_forall₂ {α β γ : Type} {f : α → γ} {g : β → γ} {as : List α} {bs : List β}
    (h : List.Forall₂ (fun a b => g b = f a) as bs) : bs.map g = as.map f := by
  induction h with
  | nil => rfl
  | cons hab _ ih => rw [List.map_cons, List.map_cons, hab, ih]

/-- Of two lists that are related item by item, each item of the second has one of the first. -/
theorem exists_of_mem_right {α β : Type} {rel : α → β → Prop} {as : List α} {bs : List β}
    (h : List.Forall₂ rel as bs) {b : β} (hb : b ∈ bs) : ∃ a, (a, b) ∈ as.zip bs ∧ rel a b := by
  rw [← List.map_snd_zip (Nat.le_of_eq h.length_eq.symm)] at hb
  obtain ⟨pair, hpair, rfl⟩ := List.mem_map.mp hb
  exact ⟨pair.1, hpair, List.forall₂_zip h hpair⟩

namespace Json

theorem DistinctKeys.of_object? {v : Json} (h : v.DistinctKeys) {key : String}
    {members : List (String × Json)} (hobject : Schema.object? key v = some members) :
    (members.map Prod.fst).Nodup ∧ MembersDistinct members := by
  obtain ⟨w, hget, hw⟩ := Option.bind_eq_some_iff.mp hobject
  have hdistinct := h.of_get? hget
  cases w with
  | obj ms =>
    obtain rfl : ms = members := Option.some.inj hw
    rwa [DistinctKeys] at hdistinct
  | _ => cases hw

end Json

namespace Schema

def properties (schema : Json) : List (String × Json) := (object? "properties" schema).getD []

def Requires (schema : Json) (name : String) : Prop :=
  ∃ items, list? "required" schema = some items ∧ Json.str name ∈ items

/-- A schema is described by a text, or has no description. -/
def DescribedAs (schema : Json) (description : Option String) : Prop :=
  ∀ text, description = some text ↔ schema.get? "description" = some (.str text)

theorem asString?_eq_some {v : Json} {text : String} : v.asString? = some text ↔ v = .str text := by
  cases v <;> simp [Json.asString?]

theorem mem_required_iff {schema : Json} {name : String} :
    name ∈ required schema ↔ Requires schema name := by
  unfold required Requires
  cases list? "required" schema <;> simp [List.mem_filterMap, asString?_eq_some]

theorem describedAs_description? (schema : Json) : DescribedAs schema (description? schema) := by
  intro text
  unfold description?
  cases schema.get? "description" <;> simp [asString?_eq_some]

end Schema

/-- A field is that of a property of a schema. -/
structure Field.DeclaredBy (schema : Json) (property : String × Json) (f : Field) : Prop where
  name_eq : f.name = property.1
  required_iff : f.required ↔ Schema.Requires schema property.1
  described : Schema.DescribedAs property.2 f.description

namespace Node

/-- The objects and the listed values of a type tree are those of a schema: an object has a field for
each of the properties, in order, whose nodes follow the schemas of the properties. -/
inductive Follows : Json → Node → Prop where
  | object {schema : Json} {fields : List Field} :
      (fields.map Field.name).Nodup →
      List.Forall₂ (Field.DeclaredBy schema) (Schema.properties schema) fields →
      (∀ pf ∈ (Schema.properties schema).zip fields, Follows pf.1.2 pf.2.node) →
      Follows schema (.object fields)
  | array {schema items : Json} {inner : Node} :
      schema.get? "items" = some items → Follows items inner → Follows schema (.array inner)
  | arrayOfAny {schema : Json} : Follows schema (.array .unknown)
  | map {schema values : Json} {inner : Node} :
      schema.get? "additionalProperties" = some values → Follows values inner →
      Follows schema (.map inner)
  | mapOfAny {schema : Json} : Follows schema (.map .unknown)
  | enumeration {schema : Json} {items values : List Json} :
      Schema.list? "enum" schema = some items → Schema.Enumerates items values →
      Follows schema (.enumeration values)
  | leaf {schema : Json} {node : Node} : Leaf node → Follows schema node

/-- A conversion to nodes that follow the schemas. -/
def FollowsSchemas (convert : Json → Except Failure Node) : Prop :=
  ∀ schema node, schema.DistinctKeys → convert schema = .ok node → node.Follows schema

variable {convert : Json → Except Failure Node}

theorem fieldsOf_declared (h : FollowsSchemas convert) (schema : Json)
    {properties : List (String × Json)} (hproperties : Json.MembersDistinct properties)
    {fields : List Field}
    (hok : fieldsOf convert (Schema.required schema) properties = .ok fields) :
    List.Forall₂ (Field.DeclaredBy schema) properties fields ∧
      ∀ pf ∈ properties.zip fields, pf.2.node.Follows pf.1.2 := by
  induction properties generalizing fields with
  | nil =>
    cases hok
    exact ⟨.nil, fun _ hpf => absurd hpf List.not_mem_nil⟩
  | cons property properties ih =>
    obtain ⟨name, p⟩ := property
    rw [Json.MembersDistinct] at hproperties
    simp only [fieldsOf] at hok
    obtain ⟨node, hnode, hok⟩ := bind_eq_ok hok
    obtain ⟨rest, hrest, hok⟩ := bind_eq_ok hok
    cases hok
    obtain ⟨hdeclared, hfollows⟩ := ih hproperties.2 hrest
    refine ⟨.cons ⟨rfl, ?_, Schema.describedAs_description? p⟩ hdeclared, ?_⟩
    · exact List.contains_iff_mem.trans Schema.mem_required_iff
    · intro pf hpf
      rcases List.mem_cons.mp hpf with rfl | hpf
      · exact h p node hproperties.1 hnode
      · exact hfollows pf hpf

theorem ofObjectSchema_follows (h : FollowsSchemas convert) :
    FollowsSchemas (ofObjectSchema convert) := by
  intro schema node hschema hok
  unfold ofObjectSchema at hok
  split at hok
  · rename_i properties hproperties
    obtain ⟨fields, hfields, rfl⟩ := map_eq_ok hok
    obtain ⟨hkeys, hmembers⟩ := hschema.of_object? hproperties
    obtain ⟨hdeclared, hfollows⟩ := fieldsOf_declared h schema hmembers hfields
    have hall : Schema.properties schema = properties := by rw [Schema.properties, hproperties]; rfl
    have hnames : fields.map Field.name = properties.map Prod.fst :=
      map_eq_map_of_forall₂ (hdeclared.imp fun _ _ hf => hf.name_eq)
    rw [← hnames] at hkeys
    rw [← hall] at hdeclared hfollows
    exact .object hkeys hdeclared hfollows
  · rename_i hproperties
    split at hok
    · rename_i hget
      obtain ⟨inner, hinner, rfl⟩ := map_eq_ok hok
      exact .map hget (h _ inner (hschema.of_get? hget) hinner)
    · cases hok
      -- Without declared properties there is nothing that a field could stand for.
      have hnone : Schema.properties schema = [] := by rw [Schema.properties, hproperties]; rfl
      refine .object List.nodup_nil ?_ ?_
      · rw [hnone]
        exact .nil
      · rw [hnone]
        exact fun _ hpf => absurd hpf List.not_mem_nil
    · cases hok
      exact .mapOfAny
    · cases hok
      split
      · exact .leaf .unknown
      · exact .mapOfAny

theorem ofArraySchema_follows (h : FollowsSchemas convert) :
    FollowsSchemas (ofArraySchema convert) := by
  intro schema node hschema hok
  unfold ofArraySchema at hok
  split at hok
  · rename_i hget
    obtain ⟨inner, hinner, rfl⟩ := map_eq_ok hok
    exact .array hget (h _ inner (hschema.of_get? hget) hinner)
  · cases hok
    exact .arrayOfAny

theorem primitive_leaf (name : String) : Leaf ((Schema.primitive? name).getD .unknown) := by
  unfold Schema.primitive?
  split <;> constructor

theorem ofDeclaredType_follows (h : FollowsSchemas convert) :
    FollowsSchemas (ofDeclaredType convert) := by
  intro schema node hschema hok
  unfold ofDeclaredType at hok
  split at hok
  · exact ofObjectSchema_follows h schema node hschema hok
  · exact ofArraySchema_follows h schema node hschema hok
  · cases hok
    exact .leaf (primitive_leaf _)
  · cases hok
    exact .leaf .unknown

theorem ofSchemaWithin_follows (context : String) (levels : Nat) :
    FollowsSchemas (ofSchemaWithin context levels) := by
  induction levels with
  | zero =>
    intro schema node _ hok
    cases hok
  | succ levels ih =>
    intro schema node hschema hok
    simp only [ofSchemaWithin] at hok
    split at hok
    · rename_i values hvalues
      cases hok
      obtain ⟨items, hlist, henumerates⟩ := Schema.enumValues?_enumerates hschema hvalues
      exact .enumeration hlist henumerates
    · split at hok
      · cases hok
        exact .leaf .intOrString
      · exact ofDeclaredType_follows ih schema node hschema hok

end Node

/-- A named type is that of the specification or the status, as the root of the schema declares it. -/
structure NamedType.DeclaredBy (kind : String) (root : Json) (property : String × Json)
    (t : NamedType) : Prop where
  property_eq : t.property = property.1
  named : t.property = "spec" ∧ t.name = kind ++ "Spec" ∨
    t.property = "status" ∧ t.name = kind ++ "Status"
  required_iff : t.required ↔ Schema.Requires root property.1
  described : Schema.DescribedAs property.2 t.description
  follows : t.node.Follows property.2

namespace Resource

/-- The properties of a root that have named types, in declared order. -/
def typedProperties (root : Json) : List (String × Json) :=
  (Schema.properties root).filter fun p => p.1 = "spec" ∨ p.1 = "status"

/-- A resource is that of a version: it has one type for the specification and one for the status,
each if the schema declares it. -/
structure DeclaredBy (o : Occurrence) (r : Resource) : Prop where
  kind_eq : r.kind = o.names.kind
  properties_nodup : (r.types.map NamedType.property).Nodup
  types_declared : List.Forall₂ (NamedType.DeclaredBy r.kind (o.version.schema.getD .null))
    (typedProperties (o.version.schema.getD .null)) r.types

theorem typedProperty?_eq_some {property ending : String}
    (h : typedProperty? property = some ending) :
    property = "spec" ∧ ending = "Spec" ∨ property = "status" ∧ ending = "Status" := by
  unfold typedProperty? at h
  split at h
  · exact .inl ⟨‹_›, (Option.some.inj h).symm⟩
  · split at h
    · exact .inr ⟨‹_›, (Option.some.inj h).symm⟩
    · cases h

theorem typedProperty?_eq_none {property : String} (h : typedProperty? property = none) :
    ¬ (property = "spec" ∨ property = "status") := by
  unfold typedProperty? at h
  split at h
  · cases h
  · split at h
    · cases h
    · exact not_or.mpr ⟨‹_›, ‹_›⟩

theorem namedTypes_declared {context kind : String} (root : Json)
    {properties : List (String × Json)} (hproperties : Json.MembersDistinct properties)
    {types : List NamedType}
    (hok : namedTypes context kind (Schema.required root) properties = .ok types) :
    List.Forall₂ (NamedType.DeclaredBy kind root)
      (properties.filter fun p => p.1 = "spec" ∨ p.1 = "status") types := by
  induction properties generalizing types with
  | nil =>
    cases hok
    exact .nil
  | cons property properties ih =>
    obtain ⟨name, schema⟩ := property
    rw [Json.MembersDistinct] at hproperties
    simp only [namedTypes] at hok
    cases htyped : typedProperty? name with
    | none =>
      rw [htyped] at hok
      rw [List.filter_cons_of_neg (by simpa using typedProperty?_eq_none htyped)]
      exact ih hproperties.2 hok
    | some ending =>
      rw [htyped] at hok
      obtain ⟨node, hnode, hok⟩ := bind_eq_ok hok
      obtain ⟨rest, hrest, hok⟩ := bind_eq_ok hok
      cases hok
      have hname := typedProperty?_eq_some htyped
      rw [List.filter_cons_of_pos (by simpa using hname.imp And.left And.left)]
      refine .cons ?_ (ih hproperties.2 hrest)
      constructor
      case property_eq => rfl
      case named =>
        rcases hname with ⟨hspec, rfl⟩ | ⟨hstatus, rfl⟩
        · exact .inl ⟨hspec, rfl⟩
        · exact .inr ⟨hstatus, rfl⟩
      case required_iff => exact List.contains_iff_mem.trans Schema.mem_required_iff
      case described => exact Schema.describedAs_description? schema
      case follows => exact Node.ofSchemaWithin_follows context _ schema node hproperties.1 hnode

theorem declaredBy_of_resource {o : Occurrence}
    (hschema : ∀ schema ∈ o.version.schema, schema.DistinctKeys) {r : Resource}
    (hok : o.resource = .ok r) : r.DeclaredBy o := by
  have hkind := Occurrence.kind_of_resource hok
  have htypes : List.Forall₂ (NamedType.DeclaredBy r.kind (o.version.schema.getD .null))
      (typedProperties (o.version.schema.getD .null)) r.types := by
    unfold Occurrence.resource ofVersion at hok
    cases hroot : o.version.schema with
    | none =>
      rw [hroot] at hok
      cases hok
      exact .nil
    | some root =>
      rw [hroot] at hok
      dsimp only at hok
      rw [Option.getD_some, typedProperties, Schema.properties]
      cases hproperties : Schema.object? "properties" root with
      | none =>
        rw [hproperties] at hok
        cases hok
        exact .nil
      | some properties =>
        rw [hproperties] at hok
        have hmembers := ((hschema root hroot).of_object? hproperties).2
        obtain ⟨types, htypes, hok⟩ := bind_eq_ok hok
        cases hok
        exact namedTypes_declared root hmembers htypes
  refine ⟨hkind, ?_, htypes⟩
  have hkeys : ((Schema.properties (o.version.schema.getD .null)).map Prod.fst).Nodup := by
    cases hroot : o.version.schema with
    | none => exact List.nodup_nil
    | some root =>
      rw [Option.getD_some, Schema.properties]
      cases hproperties : Schema.object? "properties" root with
      | none => exact List.nodup_nil
      | some properties => exact ((hschema root hroot).of_object? hproperties).1
  have hnames : r.types.map NamedType.property =
      (typedProperties (o.version.schema.getD .null)).map Prod.fst :=
    map_eq_map_of_forall₂ (htypes.imp fun _ _ ht => ht.property_eq)
  rw [hnames]
  exact hkeys.sublist (List.filter_sublist.map Prod.fst)

end Resource

namespace Occurrence

theorem firstsAfter_eq_firstsBy (earlier os : List Occurrence) :
    firstsAfter earlier os = firstsBy (fun a b => a.key == b.key) earlier os := by
  induction os generalizing earlier with
  | nil => rfl
  | cons o os ih =>
    have hseen : earlier.any (·.key == o.key) ↔ o.key ∈ earlier.map key := by
      simp [List.any_eq_true]
    rw [firstsAfter, firstsBy, ih]
    by_cases ho : o.key ∈ earlier.map key
    · rw [if_pos ho, if_pos (hseen.mpr ho)]
    · rw [if_neg ho, if_neg (mt hseen.mp ho)]

theorem compile_fst {os : List Occurrence} {compiled : List (Occurrence × Resource)}
    (h : compile os = .ok compiled) : compiled.map Prod.fst = os := by
  obtain ⟨resources, hresources, rfl⟩ := (compile_eq_ok_iff os compiled).mp h
  exact List.map_fst_zip (Nat.le_of_eq hresources.length_eq)

/-- The kinds of a module differ, for occurrences of one group, version and kind have one key. -/
theorem resourcesOf_kinds {os : List Occurrence} {compiled : List (Occurrence × Resource)}
    (h : compile (firsts os) = .ok compiled) (group version : String) :
    ((resourcesOf group version compiled).map Resource.kind).Nodup := by
  have hkeys : compiled.Pairwise fun a b => a.1.key ≠ b.1.key := by
    have hfirsts : (firsts os).Pairwise fun a b => (a.key == b.key) = false := by
      rw [firsts, firstsAfter_eq_firstsBy]
      exact firstsBy_pairwise [] os
    rw [← compile_fst h, List.pairwise_map] at hfirsts
    exact hfirsts.imp fun hkey => beq_eq_false_iff_ne.mp hkey
  rw [resourcesOf, List.map_map, List.Nodup, List.pairwise_map]
  refine (hkeys.filter _).imp_of_mem ?_
  intro a b ha hb hne hkind
  obtain ⟨ha, hag⟩ := List.mem_filter.mp ha
  obtain ⟨hb, hbg⟩ := List.mem_filter.mp hb
  obtain ⟨haGroup, haVersion⟩ := of_decide_eq_true hag
  obtain ⟨hbGroup, hbVersion⟩ := of_decide_eq_true hbg
  have hkinds : a.1.names.kind = b.1.names.kind := by
    rw [← kind_of_resource (resource_of_compile h a ha).2,
      ← kind_of_resource (resource_of_compile h b hb).2]
    exact hkind
  apply hne
  rw [key, key, haGroup, hbGroup, haVersion, hbVersion, hkinds]

end Occurrence

namespace TypedModule

open Occurrence (firsts all)

/-- Every resource of a module is that of a first occurrence. -/
theorem declared_of_mem {definitions : List Definition} {modules : List TypedModule}
    (hdistinct : ∀ d ∈ definitions, d.DistinctKeys) (h : ofDefinitions definitions = .ok modules)
    {m : TypedModule} (hm : m ∈ modules) {r : Resource} (hr : r ∈ m.resources) :
    ∃ o ∈ firsts (all definitions),
      o.group = m.group ∧ o.version.name = m.version ∧ r.DeclaredBy o := by
  obtain ⟨compiled, hcompiled, rfl⟩ := (ofDefinitions_eq_ok_iff _ _).mp h
  obtain ⟨group, -, hm⟩ := List.mem_flatMap.mp hm
  obtain ⟨version, -, rfl⟩ := List.mem_map.mp hm
  obtain ⟨c, hc, rfl⟩ := List.mem_map.mp hr
  obtain ⟨hc, hkey⟩ := List.mem_filter.mp hc
  obtain ⟨hgroup, hversion⟩ := of_decide_eq_true hkey
  obtain ⟨hfirst, hresource⟩ := Occurrence.resource_of_compile hcompiled c hc
  refine ⟨c.1, hfirst, hgroup, hversion, Resource.declaredBy_of_resource ?_ hresource⟩
  obtain ⟨d, hd, ho⟩ := List.mem_flatMap.mp ((Occurrence.firstsAfter_sublist [] _).mem hfirst)
  obtain ⟨v, hv, hof⟩ := List.mem_map.mp ho
  rw [← hof]
  exact hdistinct d hd v hv

theorem kinds_nodup_of_mem {definitions : List Definition} {modules : List TypedModule}
    (h : ofDefinitions definitions = .ok modules) {m : TypedModule} (hm : m ∈ modules) :
    (m.resources.map Resource.kind).Nodup := by
  obtain ⟨compiled, hcompiled, rfl⟩ := (ofDefinitions_eq_ok_iff _ _).mp h
  obtain ⟨group, -, hm⟩ := List.mem_flatMap.mp hm
  obtain ⟨version, -, rfl⟩ := List.mem_map.mp hm
  exact Occurrence.resourcesOf_kinds hcompiled group version

/-- The modules of definitions differ in group or version and their resources in kind. Each resource is
that of the first version with its group, name and kind, and holds what the schema declares. The schemas
have no key twice, as those of every bundle. -/
theorem ofDefinitions_declared {definitions : List Definition} {modules : List TypedModule}
    (hdistinct : ∀ d ∈ definitions, d.DistinctKeys)
    (h : ofDefinitions definitions = .ok modules) :
    (modules.map fun m => (m.group, m.version)).Nodup ∧
    ∀ m ∈ modules, (m.resources.map Resource.kind).Nodup ∧
      ∀ r ∈ m.resources, ∃ o ∈ firsts (all definitions),
        o.group = m.group ∧ o.version.name = m.version ∧ r.DeclaredBy o := by
  refine ⟨?_, fun m hm => ⟨kinds_nodup_of_mem h hm, fun r hr => declared_of_mem hdistinct h hm hr⟩⟩
  obtain ⟨compiled, -, rfl⟩ := (ofDefinitions_eq_ok_iff _ _).mp h
  exact Occurrence.modules_keys_nodup _ _ _

/-- A kind that is defined twice, whose specification has a required size among two. -/
theorem gadget_declared :
    let size : Json := .obj [("enum", .arr [.str "s", .str "l", .str "s"])]
    let note : Json := .obj [("type", .str "string"), ("description", .str "A note.")]
    let spec : Json := .obj [("type", .str "object"), ("required", .arr [.str "size"]),
      ("properties", .obj [("note", note), ("size", size)])]
    let root : Json := .obj [("required", .arr [.str "spec"]), ("properties", .obj [("spec", spec)])]
    let gadget : Definition := ⟨none, "example.com", ⟨"Gadget", "gadgets", none, none⟩, .namespaced,
      [⟨"v1", true, true, false, some root⟩]⟩
    let node : Node := .object [.mk "note" .string false (some "A note."),
      .mk "size" (.enumeration [.str "s", .str "l"]) true none]
    let resource : Resource := ⟨"Gadget", "gadgets", .namespaced, none,
      [⟨"GadgetSpec", "spec", true, none, node⟩]⟩
    ofDefinitions [gadget, gadget] = .ok [⟨"example.com", "v1", [resource]⟩] ∧
      (∀ d ∈ [gadget, gadget], d.DistinctKeys) ∧
      ∃ o ∈ firsts (all [gadget, gadget]), resource.DeclaredBy o := by
  intro size note spec root gadget node resource
  have hok : ofDefinitions [gadget, gadget] = .ok [⟨"example.com", "v1", [resource]⟩] := rfl
  have hroot : root.DistinctKeys := by
    simp [root, spec, note, size, Json.DistinctKeys, Json.MembersDistinct, Json.ItemsDistinct]
  have hgadget : gadget.DistinctKeys := by
    intro v hv schema hschema
    rw [List.mem_singleton.mp hv] at hschema
    obtain rfl : root = schema := Option.some.inj hschema
    exact hroot
  have hdistinct : ∀ d ∈ [gadget, gadget], d.DistinctKeys := by
    intro d hd
    rcases List.mem_cons.mp hd with rfl | hd
    · exact hgadget
    · rw [List.mem_singleton.mp hd]
      exact hgadget
  obtain ⟨-, hmodules⟩ := ofDefinitions_declared hdistinct hok
  obtain ⟨-, hresources⟩ := hmodules _ List.mem_cons_self
  obtain ⟨o, ho, -, -, hdeclared⟩ := hresources resource List.mem_cons_self
  exact ⟨hok, hdistinct, o, ho, hdeclared⟩

end TypedModule
end CrdBindings
