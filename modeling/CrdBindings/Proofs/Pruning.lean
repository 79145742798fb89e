import CrdBindings.Proofs.Depth

/-!
Schemas without the keywords that no type depends on. Such keywords change nothing of a type tree. They
only count as a schema to follow where the values of a map have no other: on the last level this decides
whether the schema is refused.
-/

namespace CrdBindings
set_option autoImplicit false

namespace Schema

/-- The keywords on which types depend. -/
def consulted : List String :=
  ["enum", "type", "properties", "items", "additionalProperties", "required", "description",
    "x-kubernetes-int-or-string", "x-kubernetes-preserve-unknown-fields"]

mutual

/-- A schema with these keywords alone, and so are the schemas below it. -/
def pruned : Json → Json
  | .obj members => .obj (prunedMembers members)
  | schema => schema

def prunedMembers : List (String × Json) → List (String × Json)
  | [] => []
  | (key, value) :: members =>
    if consulted.contains key then (key, prunedValue key value) :: prunedMembers members
    else prunedMembers members

def prunedValue (key : String) : Json → Json
  | .obj members =>
    if key = "properties" then .obj (prunedProperties members)
    else if key = "items" ∨ key = "additionalProperties" then .obj (prunedMembers members)
    else .obj members
  | value => value

def prunedProperties : List (String × Json) → List (String × Json)
  | [] => []
  | (name, schema) :: properties => (name, pruned schema) :: prunedProperties properties

end

theorem prunedProperties_eq (properties : List (String × Json)) :
    prunedProperties properties = properties.map fun p => (p.1, pruned p.2) := by
  induction properties with
  | nil => rfl
  | cons p properties ih => rw [prunedProperties, ih, List.map_cons]

section Keywords

variable {key : String}

theorem get?_pruned (hkey : key ∈ consulted) (schema : Json) :
    (pruned schema).get? key = (schema.get? key).map (prunedValue key) := by
  cases schema with
  | obj members =>
    rw [pruned, Json.get?, Json.get?]
    induction members with
    | nil => rfl
    | cons member members ih =>
      obtain ⟨k, value⟩ := member
      rw [prunedMembers, Keyed.find?]
      by_cases hk : k = key
      · subst hk
        rw [if_pos (List.contains_iff_mem.mpr hkey), if_pos rfl, Keyed.find?, if_pos rfl]
        rfl
      · rw [if_neg hk, ← ih]
        split
        · rw [Keyed.find?, if_neg hk]
        · rfl
  | _ => rfl

/-- A member that is consulted stays as it is, or is an object and stays one. -/
theorem get?_pruned_cases (hkey : key ∈ consulted) (schema : Json) :
    (pruned schema).get? key = schema.get? key ∨
      ∃ members kept, schema.get? key = some (.obj members) ∧
        (pruned schema).get? key = some (.obj kept) := by
  rw [get?_pruned hkey]
  cases schema.get? key with
  | none => exact .inl rfl
  | some value =>
    cases value with
    | obj members =>
      rw [Option.map_some, prunedValue]
      split
      · exact .inr ⟨members, _, rfl, rfl⟩
      · split
        · exact .inr ⟨members, _, rfl, rfl⟩
        · exact .inl rfl
    | _ => exact .inl rfl

theorem get?_pruned_bind {α : Type} (hkey : key ∈ consulted) {read : Json → Option α}
    (hread : ∀ members, read (.obj members) = none) (schema : Json) :
    ((pruned schema).get? key).bind read = (schema.get? key).bind read := by
  rcases get?_pruned_cases hkey schema with h | ⟨members, kept, h, hkept⟩
  · rw [h]
  · rw [h, hkept, Option.bind_some, Option.bind_some, hread, hread]

theorem list?_pruned (hkey : key ∈ consulted) (schema : Json) :
    list? key (pruned schema) = list? key schema := by
  unfold list?
  rcases get?_pruned_cases hkey schema with h | ⟨members, kept, h, hkept⟩
  · rw [h]
  · rw [h, hkept]

theorem isSet_pruned (hkey : key ∈ consulted) (schema : Json) :
    isSet key (pruned schema) = isSet key schema := by
  unfold isSet
  rcases get?_pruned_cases hkey schema with h | ⟨members, kept, h, hkept⟩
  · rw [h]
  · rw [h, hkept]
    rfl

end Keywords

theorem enumValues?_pruned (schema : Json) : enumValues? (pruned schema) = enumValues? schema := by
  rw [enumValues?, enumValues?, list?_pruned (by decide)]

theorem listsValues_pruned (schema : Json) : listsValues (pruned schema) = listsValues schema := by
  rw [listsValues, listsValues, list?_pruned (by decide)]

theorem isIntOrString_pruned (schema : Json) :
    isIntOrString (pruned schema) = isIntOrString schema :=
  isSet_pruned (by decide) schema

theorem preservesUnknown_pruned (schema : Json) :
    preservesUnknown (pruned schema) = preservesUnknown schema :=
  isSet_pruned (by decide) schema

theorem required_pruned (schema : Json) : required (pruned schema) = required schema := by
  rw [required, required, list?_pruned (by decide)]

theorem declaredType?_pruned (schema : Json) :
    declaredType? (pruned schema) = declaredType? schema :=
  get?_pruned_bind (by decide) (fun _ => rfl) schema

theorem description?_pruned (schema : Json) : description? (pruned schema) = description? schema :=
  get?_pruned_bind (by decide) (fun _ => rfl) schema

theorem properties_pruned (schema : Json) :
    object? "properties" (pruned schema) = (object? "properties" schema).map prunedProperties := by
  rw [object?, object?, get?_pruned (by decide)]
  cases schema.get? "properties" with
  | none => rfl
  | some value => cases value <;> rfl

theorem items_pruned (schema : Json) :
    (pruned schema).get? "items" = (schema.get? "items").map pruned := by
  rw [get?_pruned (by decide)]
  congr 1
  funext value
  cases value <;> rfl

theorem additionalProperties_pruned (schema : Json) :
    (pruned schema).get? "additionalProperties" =
      (schema.get? "additionalProperties").map pruned := by
  rw [get?_pruned (by decide)]
  congr 1
  funext value
  cases value <;> rfl

/-- A map whose values have a schema, but none of the keywords on which types depend. -/
structure HasBareValues (schema : Json) : Prop where
  declaredType : declaredType? schema = some "object"
  properties : object? "properties" schema = none
  values : ∃ members, schema.get? "additionalProperties" = some (.obj members) ∧
    ∀ m ∈ members, m.1 ∉ consulted

theorem prunedMembers_eq_nil_iff {members : List (String × Json)} :
    prunedMembers members = [] ↔ ∀ m ∈ members, m.1 ∉ consulted := by
  induction members with
  | nil => simp [prunedMembers]
  | cons member members ih =>
    obtain ⟨key, value⟩ := member
    rw [prunedMembers, List.forall_mem_cons, ← ih]
    by_cases hkey : key ∈ consulted
    · simp [hkey]
    · simp [hkey]

theorem followedOfArray_pruned (schema : Json) :
    followedOfArray (pruned schema) = (followedOfArray schema).map pruned := by
  unfold followedOfArray
  rw [items_pruned]
  cases schema.get? "items" with
  | none => rfl
  | some value => cases value <;> rfl

/-- Of the schemas to follow only that of bare values is lost. -/
inductive FollowsPruned (schema : Json) : List Json → List Json → Prop where
  | lost {below : List Json} : HasBareValues schema → (∀ c ∈ below, pruned c = .obj []) →
      FollowsPruned schema below []
  | kept {below : List Json} : ¬ HasBareValues schema → FollowsPruned schema below (below.map pruned)

theorem FollowsPruned.nil (schema : Json) : FollowsPruned schema [] [] := by
  by_cases h : HasBareValues schema
  · exact .lost h fun c hc => absurd hc List.not_mem_nil
  · exact .kept h

theorem followedOfObject_pruned {schema : Json} (htype : declaredType? schema = some "object") :
    FollowsPruned schema (followedOfObject schema) (followedOfObject (pruned schema)) := by
  unfold followedOfObject
  rw [properties_pruned, additionalProperties_pruned]
  cases hproperties : object? "properties" schema with
  | some properties =>
    have hkept : ¬ HasBareValues schema := fun h => nomatch hproperties.symm.trans h.properties
    have hmap : (prunedProperties properties).map Prod.snd =
        (properties.map Prod.snd).map pruned := by
      rw [prunedProperties_eq, List.map_map, List.map_map]
      rfl
    simp only [Option.map_some, hmap]
    exact .kept hkept
  | none =>
    cases hvalues : schema.get? "additionalProperties" with
    | none => exact .nil schema
    | some value =>
      cases value with
      | obj members =>
        by_cases hbare : ∀ m ∈ members, m.1 ∉ consulted
        · have hnil := prunedMembers_eq_nil_iff.mpr hbare
          rw [Option.map_none, Option.map_some, pruned, hnil]
          refine .lost ⟨htype, hproperties, members, hvalues, hbare⟩ fun c hc => ?_
          cases members with
          | nil => cases hc
          | cons m ms =>
            obtain rfl := List.mem_singleton.mp hc
            rw [pruned, hnil]
        · have hkept : ¬ HasBareValues schema := by
            rintro ⟨-, -, members', hvalues', hbare'⟩
            cases hvalues.symm.trans hvalues'
            exact hbare hbare'
          obtain ⟨m, ms, rfl⟩ : ∃ m ms, members = m :: ms := by
            cases members with
            | nil => exact absurd (fun m hm => absurd hm List.not_mem_nil) hbare
            | cons m ms => exact ⟨m, ms, rfl⟩
          have hkeeps : FollowsPruned schema [.obj (m :: ms)] [pruned (.obj (m :: ms))] := .kept hkept
          rw [pruned] at hkeeps
          rw [Option.map_none, Option.map_some, pruned]
          cases hmembers : prunedMembers (m :: ms) with
          | nil => exact absurd (prunedMembers_eq_nil_iff.mp hmembers) hbare
          | cons _ _ =>
            rw [hmembers] at hkeeps
            exact hkeeps
      | _ => exact .nil schema

theorem followed_pruned (schema : Json) :
    FollowsPruned schema (followed schema) (followed (pruned schema)) := by
  have hunfold : ∀ schema, followed schema = if listsValues schema || isIntOrString schema then []
      else if declaredType? schema = some "object" then followedOfObject schema
      else if declaredType? schema = some "array" then followedOfArray schema
      else [] := fun _ => rfl
  rw [hunfold (pruned schema), hunfold schema, listsValues_pruned, isIntOrString_pruned,
    declaredType?_pruned]
  split
  · exact .nil schema
  · split
    · exact followedOfObject_pruned ‹_›
    · rename_i hobject
      split
      · rw [followedOfArray_pruned]
        exact .kept fun h => hobject h.declaredType
      · exact .nil schema

/-- A schema that leads to others, of which not only the values of a map are bare. -/
def GoesOn (schema : Json) : Prop := followed schema ≠ [] ∧ ¬ HasBareValues schema

theorem followed_pruned_ne_nil_iff {schema : Json} : followed (pruned schema) ≠ [] ↔ GoesOn schema := by
  have h := followed_pruned schema
  generalize followed (pruned schema) = after at h
  unfold GoesOn
  cases h with
  | lost hbare _ => simp [hbare]
  | kept hkept => simp [hkept]

/-- A pruned schema leads one step further than the schema leads to one that goes on. -/
theorem leads_pruned_iff {k : Nat} {schema : Json} :
    (∃ t, Leads (k + 1) (pruned schema) t) ↔ ∃ p, Leads k schema p ∧ GoesOn p := by
  induction k generalizing schema with
  | zero =>
    have hself : ∀ {p}, Leads 0 schema p ↔ p = schema := by
      intro p
      constructor
      · rintro ⟨⟩
        rfl
      · rintro rfl
        exact .self _
    simp only [hself, exists_eq_left, ← followed_pruned_ne_nil_iff]
    constructor
    · rintro ⟨t, ht⟩
      obtain ⟨c, hc, -⟩ := leads_succ_iff.mp ht
      exact List.ne_nil_of_mem hc
    · intro h
      obtain ⟨c, hc⟩ := List.exists_mem_of_ne_nil _ h
      exact ⟨c, .step hc (.self c)⟩
  | succ k ih =>
    have hbelow : (∃ p, Leads (k + 1) schema p ∧ GoesOn p) ↔
        ∃ c ∈ followed schema, ∃ t, Leads (k + 1) (pruned c) t := by
      constructor
      · rintro ⟨p, hp, hgoes⟩
        obtain ⟨c, hc, hp⟩ := leads_succ_iff.mp hp
        exact ⟨c, hc, ih.mpr ⟨p, hp, hgoes⟩⟩
      · rintro ⟨c, hc, ht⟩
        obtain ⟨p, hp, hgoes⟩ := ih.mp ht
        exact ⟨p, .step hc hp, hgoes⟩
    rw [hbelow]
    have h := followed_pruned schema
    constructor
    · rintro ⟨t, ht⟩
      obtain ⟨c, hc, ht⟩ := leads_succ_iff.mp ht
      generalize followed (pruned schema) = after at h hc
      cases h with
      | lost => cases hc
      | kept =>
        obtain ⟨d, hd, rfl⟩ := List.mem_map.mp hc
        exact ⟨d, hd, t, ht⟩
    · rintro ⟨c, hc, t, ht⟩
      refine ⟨t, leads_succ_iff.mpr ⟨pruned c, ?_, ht⟩⟩
      generalize followed (pruned schema) = after at h
      cases h with
      | lost _ hempty =>
        -- An empty schema leads nowhere.
        rw [hempty c hc] at ht
        obtain ⟨d, hd, -⟩ := leads_succ_iff.mp ht
        cases hd
      | kept => exact List.mem_map_of_mem hc

theorem leads_succ_iff_last {k : Nat} {schema t : Json} :
    Leads (k + 1) schema t ↔ ∃ p, Leads k schema p ∧ t ∈ followed p := by
  induction k generalizing schema with
  | zero =>
    constructor
    · intro h
      obtain ⟨c, hc, ⟨⟩⟩ := leads_succ_iff.mp h
      exact ⟨schema, .self schema, hc⟩
    · rintro ⟨p, ⟨⟩, ht⟩
      exact .step ht (.self t)
  | succ k ih =>
    constructor
    · intro h
      obtain ⟨c, hc, h⟩ := leads_succ_iff.mp h
      obtain ⟨p, hp, ht⟩ := ih.mp h
      exact ⟨p, .step hc hp, ht⟩
    · rintro ⟨p, hp, ht⟩
      obtain ⟨c, hc, hp⟩ := leads_succ_iff.mp hp
      exact .step hc (ih.mpr ⟨p, hp, ht⟩)

/-- So many steps on, a schema leads to one that has others below it, and in each of these they are bare
values of a map. -/
def OnlyBareValues (k : Nat) (schema : Json) : Prop :=
  (∃ p, Leads k schema p ∧ followed p ≠ []) ∧
    ∀ p, Leads k schema p → followed p ≠ [] → HasBareValues p

theorem onlyBareValues_iff {k : Nat} {schema : Json} :
    OnlyBareValues k schema ↔
      (∃ t, Leads (k + 1) schema t) ∧ ¬ ∃ t, Leads (k + 1) (pruned schema) t := by
  have hleads : (∃ t, Leads (k + 1) schema t) ↔ ∃ p, Leads k schema p ∧ followed p ≠ [] := by
    constructor
    · rintro ⟨t, ht⟩
      obtain ⟨p, hp, ht⟩ := leads_succ_iff_last.mp ht
      exact ⟨p, hp, List.ne_nil_of_mem ht⟩
    · rintro ⟨p, hp, hne⟩
      obtain ⟨t, ht⟩ := List.exists_mem_of_ne_nil _ hne
      exact ⟨t, leads_succ_iff_last.mpr ⟨p, hp, ht⟩⟩
  rw [OnlyBareValues, hleads, leads_pruned_iff]
  refine and_congr_right fun _ => ?_
  simp only [GoesOn, not_exists, not_and, not_not]

end Schema

namespace Node

/-- A conversion that gives pruned schemas the nodes of the schemas, and an empty one no node that says
anything. -/
structure KeepsPruned (convert : Json → Except Failure Node) : Prop where
  keeps : ∀ schema node, convert schema = .ok node → convert (Schema.pruned schema) = .ok node
  empty : ∀ node, convert (.obj []) = .ok node → node = .unknown

variable {convert : Json → Except Failure Node}

theorem KeepsPruned.fieldsOf (h : KeepsPruned convert) (required : List String)
    {properties : List (String × Json)} {fields : List Field}
    (hok : fieldsOf convert required properties = .ok fields) :
    Node.fieldsOf convert required (Schema.prunedProperties properties) = .ok fields := by
  induction properties generalizing fields with
  | nil => exact hok
  | cons property properties ih =>
    obtain ⟨name, schema⟩ := property
    rw [Node.fieldsOf] at hok
    obtain ⟨node, hnode, hok⟩ := bind_eq_ok hok
    obtain ⟨rest, hrest, hok⟩ := bind_eq_ok hok
    rw [Schema.prunedProperties, Node.fieldsOf, h.keeps schema node hnode, ih hrest,
      Schema.description?_pruned]
    exact hok

theorem KeepsPruned.ofObjectSchema (h : KeepsPruned convert) {schema : Json} {node : Node} :
    ofObjectSchema convert schema = .ok node →
      Node.ofObjectSchema convert (Schema.pruned schema) = .ok node := by
  unfold Node.ofObjectSchema
  rw [Schema.properties_pruned, Schema.additionalProperties_pruned, Schema.required_pruned,
    Schema.preservesUnknown_pruned]
  cases Schema.object? "properties" schema with
  | some properties =>
    intro hok
    obtain ⟨fields, hfields, rfl⟩ := map_eq_ok hok
    simp only [Option.map_some, h.fieldsOf _ hfields]
    rfl
  | none =>
    cases schema.get? "additionalProperties" with
    | none => exact id
    | some value =>
      cases value with
      | obj members =>
        cases members with
        | nil => exact id
        | cons m ms =>
          intro hok
          obtain ⟨inner, hinner, rfl⟩ := map_eq_ok hok
          have hkept := h.keeps _ _ hinner
          rw [Schema.pruned] at hkept
          simp only [Option.map_none, Option.map_some, Schema.pruned]
          cases hmembers : Schema.prunedMembers (m :: ms) with
          | nil =>
            -- An empty schema is not converted; if it were, its node would be the same.
            rw [hmembers] at hkept
            rw [h.empty inner hkept]
          | cons _ _ =>
            rw [hmembers] at hkept
            simp only [hkept]
            rfl
      | _ => exact id

theorem KeepsPruned.ofArraySchema (h : KeepsPruned convert) {schema : Json} {node : Node} :
    ofArraySchema convert schema = .ok node →
      Node.ofArraySchema convert (Schema.pruned schema) = .ok node := by
  unfold Node.ofArraySchema
  rw [Schema.items_pruned]
  cases schema.get? "items" with
  | none => exact id
  | some value =>
    cases value with
    | obj members =>
      intro hok
      obtain ⟨inner, hinner, rfl⟩ := map_eq_ok hok
      have hkept := h.keeps _ _ hinner
      rw [Schema.pruned] at hkept
      simp only [Option.map_some, Schema.pruned, hkept]
      rfl
    | _ => exact id

theorem KeepsPruned.ofDeclaredType (h : KeepsPruned convert) {schema : Json} {node : Node}
    (hok : ofDeclaredType convert schema = .ok node) :
    Node.ofDeclaredType convert (Schema.pruned schema) = .ok node := by
  unfold Node.ofDeclaredType at hok ⊢
  rw [Schema.declaredType?_pruned]
  split at hok
  · exact h.ofObjectSchema hok
  · exact h.ofArraySchema hok
  · exact hok
  · exact hok

theorem ofSchemaWithin_keepsPruned (context : String) (levels : Nat) :
    KeepsPruned (ofSchemaWithin context levels) := by
  induction levels with
  | zero => exact ⟨nofun, nofun⟩
  | succ levels ih =>
    refine ⟨fun schema node => ?_, fun node hok => (Except.ok.inj hok).symm⟩
    rw [ofSchemaWithin, ofSchemaWithin, Schema.enumValues?_pruned, Schema.isIntOrString_pruned]
    cases Schema.enumValues? schema with
    | some values => exact id
    | none =>
      cases Schema.isIntOrString schema with
      | true => exact id
      | false => exact ih.ofDeclaredType

open Schema (Leads OnlyBareValues)

theorem ofSchemaWithin_pruned (context : String) (levels : Nat) (schema : Json) :
    ofSchemaWithin context levels (Schema.pruned schema) = ofSchemaWithin context levels schema ∨
      ((∃ t, Leads levels schema t) ∧ ¬ ∃ t, Leads levels (Schema.pruned schema) t) := by
  rcases ofSchemaWithin_outcome context levels schema with ⟨hleads, herror⟩ | ⟨-, node, hok, -⟩
  · rcases ofSchemaWithin_outcome context levels (Schema.pruned schema) with
      ⟨-, herror'⟩ | ⟨hends, -⟩
    · exact .inl (herror'.trans herror.symm)
    · exact .inr ⟨hleads, hends⟩
  · rw [hok]
    exact .inl ((ofSchemaWithin_keepsPruned context levels).keeps schema node hok)

theorem ofSchemaWithin_leads {context : String} {levels : Nat} {schema : Json} :
    (∃ t, Leads levels schema t) ↔
      ofSchemaWithin context levels schema = .error (tooDeep context) := by
  rcases ofSchemaWithin_outcome context levels schema with ⟨hleads, herror⟩ | ⟨hends, node, hok, -⟩
  · exact ⟨fun _ => herror, fun _ => hleads⟩
  · rw [hok]
    exact ⟨fun hleads => absurd hleads hends, nofun⟩

/-- Without the keywords on which no type depends a schema has the same node, or the same refusal. The
one exception is a schema that leads beyond the last level only to values of maps that have no other
keywords: it is refused, though the pruned one is not. -/
theorem ofSchema_pruned (context : String) (level : Nat) (schema : Json) :
    (ofSchema context level (Schema.pruned schema) = ofSchema context level schema ↔
      ¬ (level ≤ 64 ∧ OnlyBareValues (64 - level) schema)) ∧
    (level ≤ 64 → OnlyBareValues (64 - level) schema →
      ofSchema context level schema =
        .error (.parse s!"Schema of {context} nests deeper than 64 levels") ∧
      ∃ node, ofSchema context level (Schema.pruned schema) = .ok node) := by
  have hexcept : level ≤ 64 → OnlyBareValues (64 - level) schema →
      ofSchema context level schema =
        .error (.parse s!"Schema of {context} nests deeper than 64 levels") ∧
      ∃ node, ofSchema context level (Schema.pruned schema) = .ok node := by
    intro hlevel hbare
    have hlevels : maxLevel + 1 - level = 64 - level + 1 := by
      rw [maxLevel]
      omega
    obtain ⟨hleads, hends⟩ := Schema.onlyBareValues_iff.mp hbare
    rw [ofSchema, ofSchema, hlevels, ← tooDeep_eq]
    refine ⟨ofSchemaWithin_leads.mp hleads, ?_⟩
    rcases ofSchemaWithin_outcome context (64 - level + 1) (Schema.pruned schema) with
      ⟨hleads', -⟩ | ⟨-, node, hok, -⟩
    · exact absurd hleads' hends
    · exact ⟨node, hok⟩
  refine ⟨⟨?_, ?_⟩, hexcept⟩
  · rintro hsame ⟨hlevel, hbare⟩
    obtain ⟨herror, node, hok⟩ := hexcept hlevel hbare
    rw [hok, herror] at hsame
    cases hsame
  · intro hnot
    rcases ofSchemaWithin_pruned context (maxLevel + 1 - level) schema with hsame | ⟨hleads, hends⟩
    · exact hsame
    · -- With no level left every schema is refused, so that the level is at most the last one.
      by_cases hlevel : level ≤ 64
      · have hlevels : maxLevel + 1 - level = 64 - level + 1 := by
          rw [maxLevel]
          omega
        rw [hlevels] at hleads hends
        exact absurd ⟨hlevel, Schema.onlyBareValues_iff.mpr ⟨hleads, hends⟩⟩ hnot
      · have hlevels : maxLevel + 1 - level = 0 := by
          rw [maxLevel]
          omega
        rw [hlevels] at hends
        exact absurd ⟨_, .self _⟩ hends

/-- On the last level a keyword on which no type depends decides whether a schema is refused. -/
theorem title_refused_on_last_level :
    ∃ schema : Json, ofSchema "test" 64 schema ≠ ofSchema "test" 64 (Schema.pruned schema) ∧
      schema = .obj [("type", .str "object"), ("additionalProperties", .obj [("title", .str "x")])] ∧
      ofSchema "test" 64 schema =
        .error (.parse "Schema of test nests deeper than 64 levels") ∧
      ofSchema "test" 64 (Schema.pruned schema) = .ok (.map .unknown) := by
  refine ⟨_, ?_, rfl, ?_, ?_⟩
  · exact nofun
  · exact congrArg Except.error (tooDeep_eq "test")
  · rfl

end Node
end CrdBindings
