import CrdBindings.Proofs.Claiming
import CrdBindings.Proofs.Layout.Flattening
import CrdBindings.Proofs.Layout.WireNames

/-!
The names that a layout declares. Its types have legal names that differ from each other and from
those of the shared types, the members of each type differ, and the names of the resources are chosen
by their kinds alone.
-/

namespace CrdBindings
set_option autoImplicit false

/-- The identifiers of the members of a type, without the mark of a raw form. A resource is written
with the same fields whatever its kind. -/
def Item.idents : Item → List String
  | .resource decl =>
    ["api_version", "kind", "metadata"] ++ decl.spec.elim [] (fun _ => ["spec"]) ++
      decl.status.elim [] fun _ => ["status"]
  | .record decl => decl.fields.map fun f => Ident.bare f.ident
  | .choice decl => decl.variants.map Variant.ident

def Item.resourceName? : Item → Option String
  | .resource decl => some decl.name
  | _ => none

structure Item.Legal (item : Item) : Prop where
  name : Ident.IsTypeName item.name
  idents : item.idents.Nodup

namespace Layout

def resourceNames (l : Layout) : List String := l.items.filterMap Item.resourceName?

/-- The names chosen for a row of kinds, next to those of the shared types. -/
def namesOfKinds (kinds : List String) : List String :=
  ((Names.empty.claimAll sharedTypes).2.claimAll (kinds.map Ident.type)).1

theorem namesOfKinds_eq (m : TypedModule) :
    namesOfKinds (m.resources.map (·.kind)) = (kindNames m).1 := by
  simp only [namesOfKinds, kindNames, List.map_map, Function.comp_def]

theorem layFields_ident (fields : List Field) (names idents : Names) (parent : String) :
    (layFields names idents parent fields).1.map FieldDecl.ident = claimIdents idents fields := by
  induction fields generalizing names idents with
  | nil => rfl
  | cons f fields ih =>
    obtain ⟨name, node, required, description⟩ := f
    simp only [layFields, List.map_cons, ih]
    rfl

theorem variants_ident (idents : Names) (values : List String) :
    (variants idents values).map Variant.ident = (idents.claimAll (values.map Ident.type)).1 := by
  induction values generalizing idents with
  | nil => rfl
  | cons value values ih => simp [variants, Names.claimAll, ih]

theorem claimIdents_bare_nodup (fields : List Field) :
    ((claimIdents .empty fields).map Ident.bare).Nodup := by
  have h := Names.claimAll_field_bare_nodup .empty (fields.map Field.name)
  rw [List.map_map, Function.comp_def] at h
  exact h

theorem layEnumeration_legal (names : Names) {candidate : String} (description : Option String)
    (values : List Json) (h : Ident.IsTypeName candidate) :
    ∀ item ∈ (layEnumeration names candidate description values).items, item.Legal := by
  intro item hitem
  unfold layEnumeration at hitem
  split at hitem
  · obtain rfl := List.mem_singleton.mp hitem
    refine ⟨Names.claim_isTypeName names h, ?_⟩
    rw [Item.idents, variants_ident]
    exact (Names.claimAll_fresh .empty _).1
  · exact absurd hitem List.not_mem_nil

theorem layNode_and_layFields_legal :
    (∀ (node : Node) (names : Names) (candidate : String) (description : Option String),
      Ident.IsTypeName candidate →
        ∀ item ∈ (layNode names candidate description node).items, item.Legal) ∧
    ∀ (fields : List Field) (names idents : Names) (parent : String), Ident.IsTypeName parent →
      ∀ item ∈ (layFields names idents parent fields).2.1, item.Legal := by
  apply Node.tree_induction
  case object =>
    intro fields ih names candidate description h item hitem
    have hname := Names.claim_isTypeName names h
    rcases List.mem_cons.mp hitem with rfl | hitem
    · refine ⟨hname, ?_⟩
      have hidents := claimIdents_bare_nodup fields
      rw [← layFields_ident fields (names.claim candidate).2 .empty (names.claim candidate).1,
        List.map_map] at hidents
      exact hidents
    · exact ih _ _ _ hname item hitem
  case array =>
    intro inner ih names candidate description h
    exact ih names candidate none h
  case map =>
    intro inner ih names candidate description h
    exact ih names candidate none h
  case enumeration =>
    intro values names candidate description h
    exact layEnumeration_legal names description values h
  case leaf =>
    intro node hleaf names candidate description h item hitem
    cases hleaf <;> exact absurd hitem List.not_mem_nil
  case nil => exact fun _ _ _ _ item hitem => absurd hitem List.not_mem_nil
  case cons =>
    intro name node required description fields ihNode ihFields names idents parent h item hitem
    -- The candidate of a field begins with the name of its parent, so its capital is in front.
    rcases List.mem_append.mp hitem with hitem | hitem
    · exact ihNode _ _ _ (h.append (Ident.type_isTypeName name)) item hitem
    · exact ihFields _ _ _ h item hitem

theorem resourceDecl_idents_nodup (decl : ResourceDecl) : (Item.resource decl).idents.Nodup := by
  obtain ⟨name, kind, plural, namespaced, doc, spec, status⟩ := decl
  cases spec <;> cases status <;> simp [Item.idents]

theorem ofModule_legal (m : TypedModule) : ∀ item ∈ (ofModule m).items, item.Legal := by
  have hkinds : ∀ name ∈ (kindNames m).1, Ident.IsTypeName name := by
    apply Names.claimAll_of_claim Names.claim_isTypeName
    intro wanted hwanted
    obtain ⟨r, -, rfl⟩ := List.mem_map.mp hwanted
    exact Ident.type_isTypeName r.kind
  apply forall_mem_ofModule
  · intro name hname r decls
    exact ⟨hkinds name hname, resourceDecl_idents_nodup _⟩
  · intro r _ t _ names
    exact layNode_and_layFields_legal.1 _ _ _ _ (Ident.type_isTypeName t.name)

theorem layTypes_resourceNames (ts : List NamedType) (names : Names) :
    (layTypes names ts).2.1.filterMap Item.resourceName? = [] := by
  have hnone := List.countP_eq_zero.mp (countP_layTypes ts names)
  rw [List.filterMap_eq_nil_iff]
  intro item hitem
  cases item with
  | resource decl => exact absurd rfl (hnone _ hitem)
  | record decl => rfl
  | choice decl => rfl

theorem layResources_resourceNames (rs : List (String × Resource)) (names : Names) :
    (layResources names rs).1.filterMap Item.resourceName? = rs.map Prod.fst := by
  induction rs generalizing names with
  | nil => rfl
  | cons entry rs ih =>
    obtain ⟨name, r⟩ := entry
    simp only [layResources, List.cons_append, List.filterMap_cons, Item.resourceName?,
      List.filterMap_append, layTypes_resourceNames, ih, List.nil_append, List.map_cons,
      resourceDecl]

theorem mem_resourceNames_iff {l : Layout} {name : String} :
    name ∈ l.resourceNames ↔ ∃ item ∈ l.items, item.isResource ∧ item.name = name := by
  rw [resourceNames, List.mem_filterMap]
  constructor
  · rintro ⟨item, hitem, hname⟩
    cases item with
    | resource decl => exact ⟨_, hitem, rfl, Option.some.inj hname⟩
    | record decl => cases hname
    | choice decl => cases hname
  · rintro ⟨item, hitem, hresource, rfl⟩
    cases item with
    | resource decl => exact ⟨_, hitem, rfl⟩
    | record decl => cases hresource
    | choice decl => cases hresource

theorem ofModule_resourceNames (m : TypedModule) :
    (ofModule m).resourceNames = (kindNames m).1 := by
  rw [resourceNames, ofModule_eq, layResources_resourceNames,
    List.map_fst_zip (Nat.le_of_eq (kindNames_length m))]

/-- The types of a layout have legal names, all different and none of a shared type; the members of
each type differ, whether raw or not; and the resources are named by their kinds alone. -/
theorem ofModule_declares_uniquely (m : TypedModule) :
    (ofModule m).typeNames.Nodup ∧
    "ObjectMeta" ∉ (ofModule m).typeNames ∧ "IntOrString" ∉ (ofModule m).typeNames ∧
    (∀ name ∈ (ofModule m).typeNames, Ident.IsTypeName name) ∧
    (∀ item ∈ (ofModule m).items, item.idents.Nodup) ∧
    (ofModule m).resourceNames = namesOfKinds (m.resources.map (·.kind)) := by
  obtain ⟨hnodup, -, hshared⟩ := List.nodup_append'.mp (typeNames_nodup m)
  refine ⟨hnodup, ?_, ?_, ?_, fun item hitem => (ofModule_legal m item hitem).idents, ?_⟩
  · exact fun hmem => hshared hmem (List.mem_cons_self)
  · exact fun hmem => hshared hmem (List.mem_cons_of_mem _ List.mem_cons_self)
  · intro name hname
    obtain ⟨item, hitem, rfl⟩ := List.mem_map.mp hname
    exact (ofModule_legal m item hitem).name
  · rw [ofModule_resourceNames, namesOfKinds_eq]

end Layout
end CrdBindings
