import CrdBindings.Node.OfSchema
import Mathlib.Data.List.Basic

/-!
The nesting of schemas and of their type trees. A schema is followed to those below it that its type
depends on. It is refused if and only if this leads beyond the last level; otherwise its tree has a
level for each level of schemas, and one more only where the deepest say nothing of their elements.
-/

namespace CrdBindings
set_option autoImplicit false

namespace Schema

def listsValues (schema : Json) : Bool :=
  match list? "enum" schema with
  | some (_ :: _) => true
  | _ => false

def followedOfObject (schema : Json) : List Json :=
  match object? "properties" schema with
  | some properties => properties.map Prod.snd
  | none =>
    match schema.get? "additionalProperties" with
    | some (.obj (m :: ms)) => [.obj (m :: ms)]
    | _ => []

def followedOfArray (schema : Json) : List Json :=
  match schema.get? "items" with
  | some (.obj members) => [.obj members]
  | _ => []

/-- The schemas directly below a schema on which its type depends. -/
def followed (schema : Json) : List Json :=
  if listsValues schema || isIntOrString schema then []
  else if declaredType? schema = some "object" then followedOfObject schema
  else if declaredType? schema = some "array" then followedOfArray schema
  else []

def leavesOpenOfObject (schema : Json) : Bool :=
  match object? "properties" schema with
  | some _ => false
  | none =>
    match schema.get? "additionalProperties" with
    | some (.obj (_ :: _)) => false
    | some (.bool false) => false
    | some _ => true
    | none => !preservesUnknown schema

def leavesOpenOfArray (schema : Json) : Bool :=
  match schema.get? "items" with
  | some (.obj _) => false
  | _ => true

/-- A schema of an array or of a map that says nothing of the elements. -/
def leavesOpen (schema : Json) : Bool :=
  if listsValues schema || isIntOrString schema then false
  else if declaredType? schema = some "object" then leavesOpenOfObject schema
  else if declaredType? schema = some "array" then leavesOpenOfArray schema
  else false

theorem sizeOf_lt_of_get? {key : String} {schema value : Json}
    (h : schema.get? key = some value) : sizeOf value < sizeOf schema := by
  cases schema with
  | obj members =>
    have hmem := List.sizeOf_lt_of_mem (Keyed.mem_of_find? h)
    simp only [Prod.mk.sizeOf_spec] at hmem
    simp only [Json.obj.sizeOf_spec]
    omega
  | _ => cases h

theorem sizeOf_lt_of_mem_properties {schema : Json} {properties : List (String × Json)}
    (h : object? "properties" schema = some properties) {p : String × Json} (hp : p ∈ properties) :
    sizeOf p.2 < sizeOf schema := by
  obtain ⟨value, hget, hvalue⟩ := Option.bind_eq_some_iff.mp h
  have hsize := sizeOf_lt_of_get? hget
  cases value with
  | obj members =>
    obtain rfl : members = properties := Option.some.inj hvalue
    have hmem := List.sizeOf_lt_of_mem hp
    have hpair : sizeOf p = 1 + sizeOf p.1 + sizeOf p.2 := by cases p; rfl
    simp only [Json.obj.sizeOf_spec] at hsize
    omega
  | _ => cases hvalue

theorem sizeOf_lt_of_mem_followed {schema c : Json} (h : c ∈ followed schema) :
    sizeOf c < sizeOf schema := by
  unfold followed at h
  split at h
  · cases h
  · split at h
    · unfold followedOfObject at h
      split at h
      · obtain ⟨p, hp, rfl⟩ := List.mem_map.mp h
        exact sizeOf_lt_of_mem_properties ‹_› hp
      · split at h
        · obtain rfl := List.mem_singleton.mp h
          exact sizeOf_lt_of_get? ‹_›
        · cases h
    · split at h
      · unfold followedOfArray at h
        split at h
        · obtain rfl := List.mem_singleton.mp h
          exact sizeOf_lt_of_get? ‹_›
        · cases h
      · cases h

/-- The number of levels of schemas from a schema on. -/
def followedDepth (schema : Json) : Nat :=
  1 + ((followed schema).attach.map fun c => followedDepth c.1).foldr max 0
termination_by sizeOf schema
decreasing_by exact sizeOf_lt_of_mem_followed c.2

theorem followedDepth_eq (schema : Json) :
    followedDepth schema = 1 + ((followed schema).map followedDepth).foldr max 0 := by
  rw [followedDepth, List.attach_map_val]

theorem lt_foldr_max_iff {k : Nat} {ns : List Nat} : k < ns.foldr max 0 ↔ ∃ n ∈ ns, k < n := by
  induction ns with
  | nil => simp
  | cons n ns ih =>
    rw [List.exists_mem_cons_iff, ← ih, List.foldr_cons]
    omega

/-- A schema to which another one leads in so many steps. -/
inductive Leads : Nat → Json → Json → Prop where
  | self (schema : Json) : Leads 0 schema schema
  | step {k : Nat} {schema c t : Json} : c ∈ followed schema → Leads k c t → Leads (k + 1) schema t

theorem leads_succ_iff {k : Nat} {schema t : Json} :
    Leads (k + 1) schema t ↔ ∃ c ∈ followed schema, Leads k c t := by
  constructor
  · rintro ⟨⟩
    rename_i c hc ht
    exact ⟨c, hc, ht⟩
  · rintro ⟨c, hc, ht⟩
    exact .step hc ht

theorem lt_followedDepth_iff {k : Nat} {schema : Json} :
    k < followedDepth schema ↔ ∃ t, Leads k schema t := by
  rw [followedDepth_eq]
  induction k generalizing schema with
  | zero => exact ⟨fun _ => ⟨schema, .self schema⟩, fun _ => by omega⟩
  | succ k ih =>
    have hbelow : k + 1 < 1 + ((followed schema).map followedDepth).foldr max 0 ↔
        k < ((followed schema).map followedDepth).foldr max 0 := by omega
    rw [hbelow, lt_foldr_max_iff]
    constructor
    · rintro ⟨n, hn, hlt⟩
      obtain ⟨c, hc, rfl⟩ := List.mem_map.mp hn
      rw [followedDepth_eq] at hlt
      obtain ⟨t, ht⟩ := ih.mp hlt
      exact ⟨t, .step hc ht⟩
    · rintro ⟨t, ht⟩
      obtain ⟨c, hc, ht⟩ := leads_succ_iff.mp ht
      refine ⟨followedDepth c, List.mem_map_of_mem hc, ?_⟩
      rw [followedDepth_eq]
      exact ih.mpr ⟨t, ht⟩

/-- A level that the type tree of a schema has: that of a schema to which it leads, or the one of the
elements of which such a schema says nothing. -/
inductive HasLevel : Nat → Json → Prop where
  | self (schema : Json) : HasLevel 0 schema
  | element {schema : Json} : leavesOpen schema → HasLevel 1 schema
  | step {k : Nat} {schema c : Json} : c ∈ followed schema → HasLevel k c → HasLevel (k + 1) schema

theorem hasLevel_succ_iff {k : Nat} {schema : Json} :
    HasLevel (k + 1) schema ↔
      (k = 0 ∧ leavesOpen schema) ∨ ∃ c ∈ followed schema, HasLevel k c := by
  constructor
  · intro h
    cases h with
    | element hopen => exact .inl ⟨rfl, hopen⟩
    | step hc hlevel => exact .inr ⟨_, hc, hlevel⟩
  · rintro (⟨rfl, hopen⟩ | ⟨c, hc, hlevel⟩)
    · exact .element hopen
    · exact .step hc hlevel

theorem hasLevel_iff {k : Nat} {schema : Json} :
    HasLevel k schema ↔
      (∃ t, Leads k schema t) ∨ ∃ j t, k = j + 1 ∧ Leads j schema t ∧ leavesOpen t := by
  constructor
  · intro h
    induction h with
    | self schema => exact .inl ⟨schema, .self schema⟩
    | @element schema hopen => exact .inr ⟨0, schema, rfl, .self schema, hopen⟩
    | step hc _ ih =>
      rcases ih with ⟨t, ht⟩ | ⟨j, t, rfl, ht, hopen⟩
      · exact .inl ⟨t, .step hc ht⟩
      · exact .inr ⟨j + 1, t, rfl, .step hc ht, hopen⟩
  · rintro (⟨t, ht⟩ | ⟨j, t, rfl, ht, hopen⟩)
    · induction ht with
      | self schema => exact .self schema
      | step hc _ ih => exact .step hc ih
    · induction ht with
      | self schema => exact .element hopen
      | step hc _ ih => exact .step hc (ih hopen)

end Schema

namespace Node

open Schema (followed leavesOpen Leads HasLevel followedDepth)

def children : Node → List Node
  | .object fields => fields.map Field.node
  | .array items => [items]
  | .map values => [values]
  | _ => []

theorem fieldsDepth_eq (fields : List Field) :
    fieldsDepth fields = (fields.map fun f => f.node.depth).foldr max 0 := by
  induction fields with
  | nil => rfl
  | cons f fields ih =>
    cases f
    rw [fieldsDepth, ih]
    rfl

theorem depth_eq (node : Node) : node.depth = 1 + (node.children.map depth).foldr max 0 := by
  cases node with
  | object fields =>
    rw [depth, fieldsDepth_eq, children, List.map_map]
    rfl
  | _ => simp [depth, children]

theorem succ_lt_depth_iff {k : Nat} {node : Node} :
    k + 1 < node.depth ↔ ∃ child ∈ node.children, k < child.depth := by
  have hbelow : k + 1 < 1 + (node.children.map depth).foldr max 0 ↔
      k < (node.children.map depth).foldr max 0 := by omega
  rw [depth_eq, hbelow, Schema.lt_foldr_max_iff]
  constructor
  · rintro ⟨n, hn, hlt⟩
    obtain ⟨child, hchild, rfl⟩ := List.mem_map.mp hn
    exact ⟨child, hchild, hlt⟩
  · rintro ⟨child, hchild, hlt⟩
    exact ⟨child.depth, List.mem_map_of_mem hchild, hlt⟩

theorem depth_pos (node : Node) : 0 < node.depth := by
  rw [depth_eq]
  omega

/-- One level of a conversion: a schema below is refused, or all of them have nodes. These are the
nodes below the node, and besides them an unknown one if the schema says nothing of the elements. -/
inductive Level (convert : Json → Except Failure Node) (below : List Json) (isOpen : Bool) :
    Except Failure Node → Prop where
  | refused {c : Json} {e : Failure} :
      c ∈ below → convert c = .error e → Level convert below isOpen (.error e)
  | converted {node : Node} :
      (∀ c ∈ below, ∃ child, convert c = .ok child) →
      (∀ child, child ∈ node.children ↔
        (∃ c ∈ below, convert c = .ok child) ∨ isOpen ∧ child = .unknown) →
      Level convert below isOpen (.ok node)

section Level

variable {convert : Json → Except Failure Node}

theorem Level.leaf {node : Node} (h : node.children = []) : Level convert [] false (.ok node) := by
  refine .converted (fun c hc => absurd hc List.not_mem_nil) ?_
  simp [h]

theorem Level.ofAny {node : Node} (h : node.children = [.unknown]) :
    Level convert [] true (.ok node) := by
  refine .converted (fun c hc => absurd hc List.not_mem_nil) ?_
  simp [h]

/-- The node of one schema, as the element of an array or of a map. -/
theorem Level.ofOne {wrap : Node → Node} (hwrap : ∀ node, (wrap node).children = [node])
    (c : Json) : Level convert [c] false ((convert c).map wrap) := by
  cases hc : convert c with
  | error e => exact .refused List.mem_cons_self hc
  | ok node =>
    refine .converted ?_ ?_
    · simp [hc]
    · simp [hwrap, hc, eq_comm]

theorem fieldsOf_outcome (convert : Json → Except Failure Node) (required : List String)
    (properties : List (String × Json)) :
    (∃ p ∈ properties, ∃ e, convert p.2 = .error e ∧
        fieldsOf convert required properties = .error e) ∨
      ((∀ p ∈ properties, ∃ child, convert p.2 = .ok child) ∧
        ∃ fields, fieldsOf convert required properties = .ok fields ∧
          ∀ child, child ∈ fields.map Field.node ↔ ∃ p ∈ properties, convert p.2 = .ok child) := by
  induction properties with
  | nil => exact .inr ⟨fun p hp => absurd hp List.not_mem_nil, [], rfl, by simp⟩
  | cons property properties ih =>
    obtain ⟨name, schema⟩ := property
    rw [fieldsOf]
    cases hschema : convert schema with
    | error e => exact .inl ⟨_, List.mem_cons_self, e, hschema, rfl⟩
    | ok node =>
      rcases ih with ⟨p, hp, e, he, hfields⟩ | ⟨hall, fields, hfields, hnodes⟩
      · rw [hfields]
        exact .inl ⟨p, List.mem_cons_of_mem _ hp, e, he, rfl⟩
      · rw [hfields]
        refine .inr ⟨?_, _, rfl, ?_⟩
        · exact List.forall_mem_cons.mpr ⟨⟨node, hschema⟩, hall⟩
        · intro child
          rw [List.map_cons, List.mem_cons, hnodes, List.exists_mem_cons_iff, hschema]
          exact or_congr_left ⟨fun h => congrArg Except.ok h.symm, fun h => (Except.ok.inj h).symm⟩

theorem ofObjectSchema_level (schema : Json) :
    Level convert (Schema.followedOfObject schema) (Schema.leavesOpenOfObject schema)
      (ofObjectSchema convert schema) := by
  unfold ofObjectSchema Schema.followedOfObject Schema.leavesOpenOfObject
  cases Schema.object? "properties" schema with
  | some properties =>
    rcases fieldsOf_outcome convert (Schema.required schema) properties with
      ⟨p, hp, e, he, hfields⟩ | ⟨hall, fields, hfields, hnodes⟩
    · simp only [hfields]
      exact .refused (List.mem_map_of_mem hp) he
    · simp only [hfields]
      refine .converted (List.forall_mem_map.mpr hall) ?_
      intro child
      rw [children, hnodes]
      constructor
      · rintro ⟨p, hp, hok⟩
        exact .inl ⟨p.2, List.mem_map_of_mem hp, hok⟩
      · rintro (⟨c, hc, hok⟩ | ⟨hopen, -⟩)
        · obtain ⟨p, hp, rfl⟩ := List.mem_map.mp hc
          exact ⟨p, hp, hok⟩
        · cases hopen
  | none =>
    cases schema.get? "additionalProperties" with
    | none =>
      cases Schema.preservesUnknown schema with
      | false => exact .ofAny rfl
      | true => exact .leaf rfl
    | some value =>
      cases value with
      | obj members =>
        cases members with
        | nil => exact .ofAny rfl
        | cons m ms => exact .ofOne (fun _ => rfl) _
      | bool b =>
        cases b with
        | false => exact .leaf rfl
        | true => exact .ofAny rfl
      | _ => exact .ofAny rfl

theorem ofArraySchema_level (schema : Json) :
    Level convert (Schema.followedOfArray schema) (Schema.leavesOpenOfArray schema)
      (ofArraySchema convert schema) := by
  unfold ofArraySchema Schema.followedOfArray Schema.leavesOpenOfArray
  cases schema.get? "items" with
  | none => exact .ofAny rfl
  | some value =>
    cases value with
    | obj members => exact .ofOne (fun _ => rfl) _
    | _ => exact .ofAny rfl

theorem primitive?_children (name : String) :
    ((Schema.primitive? name).getD .unknown).children = [] := by
  unfold Schema.primitive?
  split <;> rfl

theorem ofDeclaredType_level (schema : Json) :
    Level convert
      (if Schema.declaredType? schema = some "object" then Schema.followedOfObject schema
        else if Schema.declaredType? schema = some "array" then Schema.followedOfArray schema
        else [])
      (if Schema.declaredType? schema = some "object" then Schema.leavesOpenOfObject schema
        else if Schema.declaredType? schema = some "array" then Schema.leavesOpenOfArray schema
        else false)
      (ofDeclaredType convert schema) := by
  by_cases hobject : Schema.declaredType? schema = some "object"
  · rw [if_pos hobject, if_pos hobject, ofDeclaredType, hobject]
    exact ofObjectSchema_level schema
  · rw [if_neg hobject, if_neg hobject]
    by_cases harray : Schema.declaredType? schema = some "array"
    · rw [if_pos harray, if_pos harray, ofDeclaredType, harray]
      exact ofArraySchema_level schema
    · rw [if_neg harray, if_neg harray, ofDeclaredType]
      split
      · exact absurd ‹_› hobject
      · exact absurd ‹_› harray
      · exact .leaf (primitive?_children _)
      · exact .leaf rfl

end Level

theorem enumValues?_isSome (schema : Json) :
    (Schema.enumValues? schema).isSome = Schema.listsValues schema := by
  unfold Schema.enumValues? Schema.listsValues
  cases Schema.list? "enum" schema with
  | none => rfl
  | some values => cases values <;> rfl

theorem ofSchemaWithin_level (context : String) (levels : Nat) (schema : Json) :
    Level (ofSchemaWithin context levels) (followed schema) (leavesOpen schema)
      (ofSchemaWithin context (levels + 1) schema) := by
  have hlists := enumValues?_isSome schema
  rw [ofSchemaWithin, followed, leavesOpen, ← hlists]
  cases Schema.enumValues? schema with
  | some values => exact .leaf rfl
  | none =>
    cases Schema.isIntOrString schema with
    | true => exact .leaf rfl
    | false => exact ofDeclaredType_level schema

/-- With so many levels left, a schema is refused if it leads as far; otherwise its tree has exactly
its levels. -/
theorem ofSchemaWithin_outcome (context : String) (levels : Nat) (schema : Json) :
    ((∃ t, Leads levels schema t) ∧
        ofSchemaWithin context levels schema = .error (tooDeep context)) ∨
      ((¬ ∃ t, Leads levels schema t) ∧ ∃ node, ofSchemaWithin context levels schema = .ok node ∧
        ∀ k, k < node.depth ↔ HasLevel k schema) := by
  induction levels generalizing schema with
  | zero => exact .inl ⟨⟨schema, .self schema⟩, rfl⟩
  | succ levels ih =>
    have hlevel := ofSchemaWithin_level context levels schema
    generalize ofSchemaWithin context (levels + 1) schema = result at hlevel ⊢
    have hchild : ∀ c child, ofSchemaWithin context levels c = .ok child →
        (¬ ∃ t, Leads levels c t) ∧ ∀ k, k < child.depth ↔ HasLevel k c := by
      intro c child hok
      rcases ih c with ⟨-, herror⟩ | ⟨hleads, node, hnode, hdepth⟩
      · rw [hok] at herror
        cases herror
      · rw [hok] at hnode
        cases hnode
        exact ⟨hleads, hdepth⟩
    cases hlevel with
    | @refused c e hc he =>
      rcases ih c with ⟨⟨t, ht⟩, herror⟩ | ⟨-, node, hok, -⟩
      · rw [he] at herror
        exact .inl ⟨⟨t, .step hc ht⟩, herror⟩
      · rw [he] at hok
        cases hok
    | @converted node hall hchildren =>
      refine .inr ⟨?_, node, rfl, ?_⟩
      · rintro ⟨t, ht⟩
        obtain ⟨c, hc, ht⟩ := Schema.leads_succ_iff.mp ht
        obtain ⟨child, hok⟩ := hall c hc
        exact (hchild c child hok).1 ⟨t, ht⟩
      -- Every tree has its first level; the further ones are those of its children.
      · rintro (_ | k)
        · exact ⟨fun _ => .self schema, fun _ => depth_pos node⟩
        · rw [succ_lt_depth_iff, Schema.hasLevel_succ_iff]
          constructor
          · rintro ⟨child, hmem, hlt⟩
            rcases (hchildren child).mp hmem with ⟨c, hc, hok⟩ | ⟨hopen, rfl⟩
            · exact .inr ⟨c, hc, ((hchild c child hok).2 k).mp hlt⟩
            · exact .inl ⟨Nat.lt_one_iff.mp hlt, hopen⟩
          · rintro (⟨rfl, hopen⟩ | ⟨c, hc, hk⟩)
            · exact ⟨.unknown, (hchildren _).mpr (.inr ⟨hopen, rfl⟩), depth_pos _⟩
            · obtain ⟨child, hok⟩ := hall c hc
              exact ⟨child, (hchildren child).mpr (.inl ⟨c, hc, hok⟩),
                ((hchild c child hok).2 k).mpr hk⟩

theorem tooDeep_eq (context : String) :
    tooDeep context = .parse s!"Schema of {context} nests deeper than 64 levels" := by
  have hend : " nests deeper than " ++ (toString maxLevel ++ " levels") =
      " nests deeper than 64 levels" := by decide
  simp only [tooDeep, toString, String.append_assoc] at hend ⊢
  rw [hend]

/-- A schema at a level is refused exactly if it leads beyond the level 64. Otherwise its type tree has
as many levels as the schemas that are followed, or one more: this is the level of the elements of an
array or of a map of which a schema on the last level says nothing. -/
theorem ofSchema_bounded (context : String) (level : Nat) (schema : Json) :
    if 64 < level + followedDepth schema - 1 then
      ofSchema context level schema =
        .error (.parse s!"Schema of {context} nests deeper than 64 levels")
    else
      ∃ node, ofSchema context level schema = .ok node ∧
        followedDepth schema ≤ node.depth ∧ node.depth ≤ followedDepth schema + 1 ∧
        (node.depth = followedDepth schema + 1 ↔
          ∃ t, Leads (followedDepth schema - 1) schema t ∧ leavesOpen t) := by
  have houtcome := ofSchemaWithin_outcome context (maxLevel + 1 - level) schema
  have hpos : 0 < followedDepth schema := Schema.lt_followedDepth_iff.mpr ⟨schema, .self schema⟩
  rw [← Schema.lt_followedDepth_iff, maxLevel] at houtcome
  rcases houtcome with ⟨hdeep, herror⟩ | ⟨hdeep, node, hok, hdepth⟩
  · rw [if_pos (by omega), ← tooDeep_eq]
    exact herror
  · rw [if_neg (by omega)]
    -- The tree has every level of the schemas, and beyond their last one only that of elements.
    have hlast : followedDepth schema - 1 < node.depth := by
      obtain ⟨t, ht⟩ := Schema.lt_followedDepth_iff.mp (Nat.sub_one_lt_of_lt hpos)
      exact (hdepth _).mpr (Schema.hasLevel_iff.mpr (.inl ⟨t, ht⟩))
    have hnext : ∀ k, followedDepth schema ≤ k → (k < node.depth ↔
        ∃ j t, k = j + 1 ∧ Leads j schema t ∧ leavesOpen t) := by
      intro k hk
      rw [hdepth, Schema.hasLevel_iff, ← Schema.lt_followedDepth_iff]
      exact or_iff_right (by omega)
    have hend : node.depth ≤ followedDepth schema + 1 := by
      refine Nat.le_of_not_lt fun hlt => ?_
      obtain ⟨j, t, hj, ht, -⟩ := (hnext (followedDepth schema + 1) (by omega)).mp (by omega)
      have := Schema.lt_followedDepth_iff.mpr ⟨t, ht⟩
      omega
    refine ⟨node, hok, by omega, hend, ?_⟩
    have hmore : node.depth = followedDepth schema + 1 ↔ followedDepth schema < node.depth := by omega
    rw [hmore, hnext _ (Nat.le_refl _)]
    constructor
    · rintro ⟨j, t, hj, ht, hopen⟩
      rw [hj]
      exact ⟨t, ht, hopen⟩
    · rintro ⟨t, ht, hopen⟩
      exact ⟨_, t, by omega, ht, hopen⟩

end Node
end CrdBindings
