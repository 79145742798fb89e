import CrdBindings.Proofs.Layout.Laid

/-!
The items of a layout against the type trees that they come from. The relations name no registry and
no order of work: they say which items a tree stands for, a parent in front of its children, and
which item a type text names.
-/

namespace CrdBindings
set_option autoImplicit false

def FieldDecl.wireName (decl : FieldDecl) : String := decl.rename.getD (Ident.bare decl.ident)

namespace Layout

/-- A field declaration for a property whose values have a given type. -/
structure Declares (decl : FieldDecl) (property values : String) (needed : Bool)
    (description : Option String) : Prop where
  wireName : decl.wireName = property
  innerType : decl.innerType = values
  required : decl.required = needed
  type : decl.type = if needed then values else "Option<" ++ values ++ ">"
  doc : decl.doc = docLines description

mutual

/-- The values of a node have the type, and the items are the declarations of the node and of
everything below it. -/
inductive Flat : Node → Option String → String → List Item → Prop where
  | object {fields : List Field} {description : Option String} {record : RecordDecl}
      {items : List Item} :
      record.doc = docLines description →
      FlatFields fields record.fields items →
      record.required.map FieldDecl.wireName = (fields.filter Field.required).map Field.name →
      record.isDefaultable = !fields.any Field.required →
      Flat (.object fields) description record.name (.record record :: items)
  | choice {strings : List String} {description : Option String} {choice : ChoiceDecl} :
      choice.doc = docLines description →
      choice.variants.map Variant.value = strings →
      Flat (.enumeration (strings.map Json.str)) description choice.name [.choice choice]
  | integers {values : List Json} {description : Option String} :
      (∃ v ∈ values, v.asString? = none) → (∀ v ∈ values, isSmallInt v) →
      Flat (.enumeration values) description "i64" []
  | mixed {values : List Json} {description : Option String} :
      (∃ v ∈ values, v.asString? = none) → (∃ v ∈ values, ¬isSmallInt v) →
      Flat (.enumeration values) description "serde_json::Value" []
  | array {inner : Node} {description : Option String} {type : String} {items : List Item} :
      Flat inner none type items →
      Flat (.array inner) description ("Vec<" ++ type ++ ">") items
  | map {inner : Node} {description : Option String} {type : String} {items : List Item} :
      Flat inner none type items →
      Flat (.map inner) description ("BTreeMap<String, " ++ type ++ ">") items
  | string {description : Option String} : Flat .string description "String" []
  | integer {description : Option String} : Flat .integer description "i64" []
  | number {description : Option String} : Flat .number description "f64" []
  | boolean {description : Option String} : Flat .boolean description "bool" []
  | intOrString {description : Option String} : Flat .intOrString description "IntOrString" []
  | unknown {description : Option String} : Flat .unknown description "serde_json::Value" []

/-- One declaration for each field of an object, in order, and the items of the fields. -/
inductive FlatFields : List Field → List FieldDecl → List Item → Prop where
  | nil : FlatFields [] [] []
  | cons {name : String} {node : Node} {required : Bool} {description : Option String}
      {fields : List Field} {type : String} {decl : FieldDecl} {decls : List FieldDecl}
      {items rest : List Item} :
      Flat node description type items →
      Declares decl name type required description →
      FlatFields fields decls rest →
      FlatFields (.mk name node required description :: fields) (decl :: decls) (items ++ rest)

end

/-- One declaration for each type of a resource, under its property, and the items of the types. -/
inductive FlatTypes : List NamedType → List (String × FieldDecl) → List Item → Prop where
  | nil : FlatTypes [] [] []
  | cons {t : NamedType} {ts : List NamedType} {type : String} {decl : FieldDecl}
      {decls : List (String × FieldDecl)} {items rest : List Item} :
      Flat t.node t.description type items →
      Declares decl t.property type t.required t.description →
      FlatTypes ts decls rest →
      FlatTypes (t :: ts) ((t.property, decl) :: decls) (items ++ rest)

/-- Each resource under its name, with the items of its types behind it. -/
inductive FlatResources : List String → List Resource → List Item → Prop where
  | nil : FlatResources [] [] []
  | cons {name : String} {names : List String} {r : Resource} {rs : List Resource}
      {decls : List (String × FieldDecl)} {items rest : List Item} :
      FlatTypes r.types decls items →
      FlatResources names rs rest →
      FlatResources (name :: names) (r :: rs)
        (.resource (resourceDecl name r decls) :: (items ++ rest))

theorem fieldDecl_wireName (ident name innerType : String) (required : Bool)
    (description : Option String) :
    (fieldDecl ident name innerType required description).wireName = name := by
  unfold FieldDecl.wireName fieldDecl
  split
  · assumption
  · rfl

theorem fieldDecl_declares (ident name innerType : String) (required : Bool)
    (description : Option String) :
    Declares (fieldDecl ident name innerType required description) name innerType required
      description where
  wireName := fieldDecl_wireName ident name innerType required description
  innerType := rfl
  required := rfl
  type := rfl
  doc := rfl

/-- The required declarations are those of the required fields. -/
theorem FlatFields.required {fields : List Field} {decls : List FieldDecl} {items : List Item}
    (h : FlatFields fields decls items) :
    (decls.filter (·.required)).map FieldDecl.wireName =
      (fields.filter Field.required).map Field.name := by
  induction decls generalizing fields items with
  | nil => cases h; rfl
  | cons decl decls ih =>
    cases h with
    | @cons name node required description fields type _ _ _ _ hflat hdecl hrest =>
      have htail := ih hrest
      cases required with
      | true =>
        rw [List.filter_cons_of_pos (by exact hdecl.required),
          List.filter_cons_of_pos (by rfl), List.map_cons, List.map_cons, htail, hdecl.wireName]
        rfl
      | false =>
        rw [List.filter_cons_of_neg (by simp [hdecl.required]),
          List.filter_cons_of_neg (by simp [Field.required]), htail]

theorem FlatFields.any_required {fields : List Field} {decls : List FieldDecl} {items : List Item}
    (h : FlatFields fields decls items) :
    (decls.filter (·.required)).isEmpty = !fields.any Field.required := by
  have hlength := congrArg List.length h.required
  simp only [List.length_map] at hlength
  rw [Bool.eq_iff_iff]
  simp only [List.isEmpty_iff_length_eq_zero, hlength, List.length_eq_zero_iff,
    List.filter_eq_nil_iff, Bool.not_eq_true', List.any_eq_false]

theorem mapM_asString?_eq_some {values : List Json} {strings : List String}
    (h : values.mapM Json.asString? = some strings) : values = strings.map Json.str := by
  induction values generalizing strings with
  | nil =>
    obtain rfl : strings = [] := by simpa using h.symm
    rfl
  | cons v vs ih =>
    simp only [List.mapM_cons, Option.bind_eq_bind, Option.pure_def, Option.bind_eq_some_iff,
      Option.some.injEq] at h
    obtain ⟨s, hs, rest, hrest, rfl⟩ := h
    have hv : v = .str s := by
      cases v <;> simp_all [Json.asString?]
    rw [hv, ih hrest, List.map_cons]

theorem mapM_asString?_eq_none {values : List Json} (h : values.mapM Json.asString? = none) :
    ∃ v ∈ values, v.asString? = none := by
  induction values with
  | nil => simp at h
  | cons v vs ih =>
    cases hv : v.asString? with
    | none => exact ⟨v, List.mem_cons_self, hv⟩
    | some s =>
      cases hvs : vs.mapM Json.asString? with
      | none =>
        obtain ⟨w, hw, hnone⟩ := ih hvs
        exact ⟨w, List.mem_cons_of_mem v hw, hnone⟩
      | some rest => simp [hv, hvs] at h

theorem variants_value (idents : Names) (values : List String) :
    (variants idents values).map Variant.value = values := by
  induction values generalizing idents with
  | nil => rfl
  | cons value values ih => simp [variants, ih]

theorem layEnumeration_flat (names : Names) (candidate : String) (description : Option String)
    (values : List Json) :
    Flat (.enumeration values) description
      (layEnumeration names candidate description values).type
      (layEnumeration names candidate description values).items := by
  unfold layEnumeration
  split
  · rename_i strings hstrings
    rw [mapM_asString?_eq_some hstrings]
    exact @Flat.choice strings description
      ⟨(names.claim candidate).1, docLines description, variants .empty strings⟩ rfl
      (variants_value _ _)
  · rename_i hnone
    have hother := mapM_asString?_eq_none hnone
    by_cases hall : values.all isSmallInt = true
    · rw [if_pos hall]
      exact .integers hother (List.all_eq_true.mp hall)
    · have hbig : ∃ v ∈ values, ¬isSmallInt v := by
        simpa using hall
      rw [if_neg hall]
      exact .mixed hother hbig

theorem layNode_and_layFields_flat :
    (∀ (node : Node) (names : Names) (candidate : String) (description : Option String),
      Flat node description (layNode names candidate description node).type
        (layNode names candidate description node).items) ∧
    ∀ (fields : List Field) (names idents : Names) (parent : String),
      FlatFields fields (layFields names idents parent fields).1
        (layFields names idents parent fields).2.1 := by
  apply Node.tree_induction
  case object =>
    intro fields ih names candidate description
    have hfields := ih (names.claim candidate).2 .empty (names.claim candidate).1
    exact @Flat.object fields description
      ⟨(names.claim candidate).1, docLines description, _⟩ _ rfl hfields hfields.required
      hfields.any_required
  case array =>
    intro inner ih names candidate description
    exact .array (ih names candidate none)
  case map =>
    intro inner ih names candidate description
    exact .map (ih names candidate none)
  case enumeration =>
    intro values names candidate description
    exact layEnumeration_flat names candidate description values
  case leaf =>
    intro node h names candidate description
    cases h <;> constructor
  case nil => exact fun _ _ _ => .nil
  case cons =>
    intro name node required description fields ihNode ihFields names idents parent
    exact .cons (ihNode _ _ _) (fieldDecl_declares _ _ _ _ _) (ihFields _ _ _)

theorem layTypes_flat (ts : List NamedType) (names : Names) :
    FlatTypes ts (layTypes names ts).1 (layTypes names ts).2.1 := by
  induction ts generalizing names with
  | nil => exact .nil
  | cons t ts ih =>
    exact .cons (layNode_and_layFields_flat.1 _ _ _ _) (fieldDecl_declares _ _ _ _ _) (ih _)

theorem layResources_flat (rs : List Resource) (kinds : List String) (names : Names)
    (h : kinds.length = rs.length) :
    FlatResources kinds rs (layResources names (kinds.zip rs)).1 := by
  induction rs generalizing kinds names with
  | nil =>
    obtain rfl : kinds = [] := List.eq_nil_of_length_eq_zero h
    exact .nil
  | cons r rs ih =>
    cases kinds with
    | nil => simp at h
    | cons kind kinds => exact .cons (layTypes_flat r.types names) (ih kinds _ (by simpa using h))

/-- The names taken for a node are those of its items, in order. -/
theorem layNode_and_layFields_taken :
    (∀ (node : Node) (names : Names) (candidate : String) (description : Option String),
      (layNode names candidate description node).names.taken =
        ((layNode names candidate description node).items.map Item.name).reverse ++ names.taken) ∧
    ∀ (fields : List Field) (names idents : Names) (parent : String),
      (layFields names idents parent fields).2.2.taken =
        ((layFields names idents parent fields).2.1.map Item.name).reverse ++ names.taken := by
  apply Node.tree_induction
  case object =>
    intro fields ih names candidate description
    simp [layNode, ih, Item.name]
  case array =>
    intro inner ih names candidate description
    exact ih names candidate none
  case map =>
    intro inner ih names candidate description
    exact ih names candidate none
  case enumeration =>
    intro values names candidate description
    simp only [layNode, layEnumeration]
    split <;> rfl
  case leaf =>
    intro node h names candidate description
    cases h <;> rfl
  case nil => exact fun _ _ _ => rfl
  case cons =>
    intro name node required description fields ihNode ihFields names idents parent
    simp [layFields, ihNode, ihFields]

theorem layTypes_taken (ts : List NamedType) (names : Names) :
    (layTypes names ts).2.2.taken =
      ((layTypes names ts).2.1.map Item.name).reverse ++ names.taken := by
  induction ts generalizing names with
  | nil => rfl
  | cons t ts ih => simp [layTypes, ih, layNode_and_layFields_taken.1]

/-- The items of resources have the names chosen for the kinds and those taken meanwhile. -/
theorem layResources_taken (rs : List (String × Resource)) (names : Names) :
    ((layResources names rs).1.map Item.name ++ names.taken).Perm
      (rs.map Prod.fst ++ (layResources names rs).2.taken) := by
  induction rs generalizing names with
  | nil => exact .refl _
  | cons entry rs ih =>
    obtain ⟨name, r⟩ := entry
    have hrest := ih (layTypes names r.types).2.2
    rw [layTypes_taken] at hrest
    simp only [layResources, List.map_cons, List.map_append, List.cons_append, Item.name,
      resourceDecl]
    refine .cons name (.trans ?_ hrest)
    rw [← List.append_assoc]
    exact .append_right _ (.trans List.perm_append_comm
      (.append_left _ (List.reverse_perm _).symm))

theorem claimAll_sharedTypes : (Names.empty.claimAll sharedTypes).1 = sharedTypes := by
  decide

theorem kindNames_taken (m : TypedModule) :
    (kindNames m).2.taken = (kindNames m).1.reverse ++ sharedTypes.reverse := by
  rw [kindNames, Names.claimAll_taken, Names.claimAll_taken, claimAll_sharedTypes, Names.empty,
    List.append_nil]

theorem layNode_and_layFields_nodup :
    (∀ (node : Node) (names : Names) (candidate : String) (description : Option String),
      names.taken.Nodup → (layNode names candidate description node).names.taken.Nodup) ∧
    ∀ (fields : List Field) (names idents : Names) (parent : String),
      names.taken.Nodup → (layFields names idents parent fields).2.2.taken.Nodup := by
  apply Node.tree_induction
  case object =>
    intro fields ih names candidate description h
    exact ih _ _ _ (Names.claim_nodup h candidate)
  case array =>
    intro inner ih names candidate description h
    exact ih names candidate none h
  case map =>
    intro inner ih names candidate description h
    exact ih names candidate none h
  case enumeration =>
    intro values names candidate description h
    simp only [layNode, layEnumeration]
    split
    · exact Names.claim_nodup h candidate
    · exact h
  case leaf =>
    intro node hleaf names candidate description h
    cases hleaf <;> exact h
  case nil => exact fun _ _ _ h => h
  case cons =>
    intro name node required description fields ihNode ihFields names idents parent h
    exact ihFields _ _ _ (ihNode _ _ _ h)

theorem layTypes_nodup (ts : List NamedType) {names : Names} (h : names.taken.Nodup) :
    (layTypes names ts).2.2.taken.Nodup := by
  induction ts generalizing names with
  | nil => exact h
  | cons t ts ih => exact ih (layNode_and_layFields_nodup.1 _ _ _ _ h)

theorem layResources_nodup (rs : List (String × Resource)) {names : Names}
    (h : names.taken.Nodup) : (layResources names rs).2.taken.Nodup := by
  induction rs generalizing names with
  | nil => exact h
  | cons entry rs ih => exact ih (layTypes_nodup entry.2.types h)

/-- The types of a module have different names, which are not those of the shared types either. -/
theorem typeNames_nodup (m : TypedModule) : ((ofModule m).typeNames ++ sharedTypes).Nodup := by
  have hstart : (kindNames m).2.taken.Nodup :=
    Names.claimAll_nodup (Names.claimAll_nodup List.nodup_nil _) _
  have hend := layResources_nodup ((kindNames m).1.zip m.resources) hstart
  have hperm := layResources_taken ((kindNames m).1.zip m.resources) (kindNames m).2
  rw [List.map_fst_zip (Nat.le_of_eq (kindNames_length m)), kindNames_taken] at hperm
  -- The names chosen for the kinds stand on both sides.
  have hnames : ((ofModule m).typeNames ++ sharedTypes).Perm
      (layResources (kindNames m).2 ((kindNames m).1.zip m.resources)).2.taken := by
    refine (List.perm_append_left_iff (kindNames m).1).mp (.trans ?_ hperm)
    simp only [typeNames, ofModule_eq]
    rw [← List.append_assoc, ← List.append_assoc]
    refine .append (.trans List.perm_append_comm ?_) (List.reverse_perm _).symm
    exact .append_left _ (List.reverse_perm _).symm
  exact hnames.nodup_iff.mpr hend

theorem ofModule_flat (m : TypedModule) :
    FlatResources (kindNames m).1 m.resources (ofModule m).items := by
  rw [ofModule_eq]
  exact layResources_flat m.resources (kindNames m).1 _ (kindNames_length m)

/-- A layout has the items of the type trees of its module, all of them and in their order, under
names that differ. -/
theorem ofModule_flattens (m : TypedModule) :
    FlatResources (kindNames m).1 m.resources (ofModule m).items ∧
    ((ofModule m).typeNames ++ sharedTypes).Nodup ∧
    (ofModule m).usesMap = m.types.any (·.node.hasMap) ∧
    (ofModule m).usesIntOrString = m.types.any (·.node.hasIntOrString) ∧
    (ofModule m).group = m.group ∧ (ofModule m).version = m.version := by
  refine ⟨ofModule_flat m, typeNames_nodup m, ?_, ?_, rfl, rfl⟩
  · rw [ofModule_eq, TypedModule.types, List.any_flatMap]
  · rw [ofModule_eq, TypedModule.types, List.any_flatMap]

end Layout
end CrdBindings
