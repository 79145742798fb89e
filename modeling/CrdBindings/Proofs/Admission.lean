import CrdBindings.Node.OfSchema
import CrdBindings.Proofs.Conversion
import CrdBindings.Proofs.Equality

/-!
The values that a schema admits and those that a type tree accepts. The tree of a schema accepts every
value that meets the keywords of the schema, whichever of them decides the shape of the tree.
-/

namespace CrdBindings
set_option autoImplicit false

namespace Json

def isObject : Json → Bool
  | .obj _ => true
  | _ => false

def isArray : Json → Bool
  | .arr _ => true
  | _ => false

def isString : Json → Bool
  | .str _ => true
  | _ => false

def isInteger : Json → Bool
  | .int _ => true
  | _ => false

def isNumber : Json → Bool
  | .int _ => true
  | .real _ => true
  | _ => false

def isBoolean : Json → Bool
  | .bool _ => true
  | _ => false

def members : Json → List (String × Json)
  | .obj members => members
  | _ => []

def items : Json → List Json
  | .arr items => items
  | _ => []

end Json

namespace Schema

/-- What a type name says of a value, if it is the name of a type. -/
def typeTest? : String → Option (Json → Bool)
  | "object" => some Json.isObject
  | "array" => some Json.isArray
  | "string" => some Json.isString
  | "integer" => some Json.isInteger
  | "number" => some Json.isNumber
  | "boolean" => some Json.isBoolean
  | _ => none

def propertyNames (schema : Json) : List String :=
  ((object? "properties" schema).getD []).map Prod.fst

/-- A value meets the keywords of a schema. A keyword with a value of the wrong form asks nothing;
the keywords of objects and arrays count where that type is declared. -/
inductive Admits : Json → Json → Prop where
  | intro {schema v : Json}
      (listed : ∀ w ws, list? "enum" schema = some (w :: ws) → ∃ u ∈ w :: ws, u.same v)
      (intOrString : isIntOrString schema → v.isInteger ∨ v.isString)
      (ofType : ∀ name test, declaredType? schema = some name → typeTest? name = some test → test v)
      (required : declaredType? schema = some "object" →
        ∀ name ∈ Schema.required schema, (v.get? name).isSome)
      (properties : declaredType? schema = some "object" →
        ∀ ps, object? "properties" schema = some ps →
          ∀ p ∈ ps, ∀ x, v.get? p.1 = some x → Admits p.2 x)
      (closed : declaredType? schema = some "object" →
        schema.get? "additionalProperties" = some (.bool false) →
          ∀ m ∈ v.members, m.1 ∈ propertyNames schema)
      (additional : declaredType? schema = some "object" →
        ∀ ks, schema.get? "additionalProperties" = some (.obj ks) →
          ∀ m ∈ v.members, m.1 ∉ propertyNames schema → Admits (.obj ks) m.2)
      (items : declaredType? schema = some "array" →
        ∀ ks, schema.get? "items" = some (.obj ks) → ∀ x ∈ v.items, Admits (.obj ks) x) :
      Admits schema v

end Schema

/-- A value has the type of a node. An object may have more members than the fields of its node. -/
inductive Node.Accepts : Node → Json → Prop where
  | object {fields : List Field} {v : Json} :
      v.isObject →
      (∀ f ∈ fields, f.required → (v.get? f.name).isSome) →
      (∀ f ∈ fields, ∀ x, v.get? f.name = some x → Accepts f.node x) →
      Accepts (.object fields) v
  | array {inner : Node} {v : Json} :
      v.isArray → (∀ x ∈ v.items, Accepts inner x) → Accepts (.array inner) v
  | map {inner : Node} {v : Json} :
      v.isObject → (∀ m ∈ v.members, Accepts inner m.2) → Accepts (.map inner) v
  | enumeration {values : List Json} {v : Json} :
      (∃ u ∈ values, u.same v) → Accepts (.enumeration values) v
  | string {v : Json} : v.isString → Accepts .string v
  | integer {v : Json} : v.isInteger → Accepts .integer v
  | number {v : Json} : v.isNumber → Accepts .number v
  | boolean {v : Json} : v.isBoolean → Accepts .boolean v
  | intOrString {v : Json} : v.isInteger ∨ v.isString → Accepts .intOrString v
  | unknown {v : Json} : Accepts .unknown v

namespace Schema

theorem exists_same_addNew {seen values : List Json} {v : Json}
    (h : ∃ u ∈ seen ++ values, u.same v) : ∃ u ∈ addNew seen values, u.same v := by
  induction values generalizing seen with
  | nil => rwa [List.append_nil] at h
  | cons w ws ih =>
    obtain ⟨u, hu, hsame⟩ := h
    rw [addNew]
    apply ih
    split
    · rename_i hseen
      rcases List.mem_append.mp hu with hu | hu
      · exact ⟨u, List.mem_append_left ws hu, hsame⟩
      · rcases List.mem_cons.mp hu with rfl | hu
        · -- A value is dropped for one that equals it, and equality is transitive.
          obtain ⟨kept, hkept, hw⟩ := List.any_eq_true.mp hseen
          exact ⟨kept, List.mem_append_left ws hkept, Json.same_trans hw hsame⟩
        · exact ⟨u, List.mem_append_right seen hu, hsame⟩
    · refine ⟨u, ?_, hsame⟩
      rwa [List.append_assoc, List.singleton_append]

theorem Admits.enumValues {schema v : Json} (h : Admits schema v) {values : List Json}
    (hvalues : enumValues? schema = some values) : ∃ u ∈ values, u.same v := by
  obtain ⟨hlisted⟩ := h
  unfold enumValues? at hvalues
  split at hvalues
  · rename_i w ws henum
    obtain rfl := Option.some.inj hvalues
    exact exists_same_addNew (hlisted w ws henum)
  · cases hvalues

end Schema

namespace Node

open Schema (Admits)

/-- A conversion to nodes that accept what the schemas admit. -/
def AcceptsAdmitted (convert : Json → Except Failure Node) : Prop :=
  ∀ schema node v, convert schema = .ok node → Admits schema v → node.Accepts v

variable {convert : Json → Except Failure Node}

theorem fieldsOf_eq_ok {required : List String} {properties : List (String × Json)}
    {fields : List Field} (h : fieldsOf convert required properties = .ok fields) :
    ∀ f ∈ fields, ∃ p ∈ properties,
      p.1 = f.name ∧ convert p.2 = .ok f.node ∧ (f.required → f.name ∈ required) := by
  induction properties generalizing fields with
  | nil =>
    cases h
    exact fun _ hf => absurd hf List.not_mem_nil
  | cons property properties ih =>
    obtain ⟨name, schema⟩ := property
    simp only [fieldsOf] at h
    obtain ⟨node, hnode, h⟩ := bind_eq_ok h
    obtain ⟨rest, hrest, h⟩ := bind_eq_ok h
    cases h
    intro f hf
    rcases List.mem_cons.mp hf with rfl | hf
    · exact ⟨(name, schema), List.mem_cons_self, rfl, hnode, List.contains_iff_mem.mp⟩
    · obtain ⟨p, hp, hfield⟩ := ih hrest f hf
      exact ⟨p, List.mem_cons_of_mem _ hp, hfield⟩

theorem ofObjectSchema_accepts (h : AcceptsAdmitted convert) {schema v : Json} {node : Node}
    (htype : Schema.declaredType? schema = some "object")
    (hok : ofObjectSchema convert schema = .ok node) (hv : Admits schema v) : node.Accepts v := by
  obtain ⟨-, -, hofType, hrequired, hproperties, -, hadditional, -⟩ := hv
  have hobject : v.isObject := hofType _ _ htype rfl
  unfold ofObjectSchema at hok
  split at hok
  · rename_i properties hdeclared
    obtain ⟨fields, hfields, rfl⟩ := map_eq_ok hok
    have hfield := fieldsOf_eq_ok hfields
    refine .object hobject ?_ ?_
    · intro f hf hneeded
      obtain ⟨-, -, -, -, hname⟩ := hfield f hf
      exact hrequired htype f.name (hname hneeded)
    · intro f hf x hx
      obtain ⟨p, hp, hname, hnode, -⟩ := hfield f hf
      exact h p.2 f.node x hnode (hproperties htype properties hdeclared p hp x (hname ▸ hx))
  · rename_i hdeclared
    have hnames : Schema.propertyNames schema = [] := by rw [Schema.propertyNames, hdeclared]; rfl
    split at hok
    · rename_i k ks hget
      obtain ⟨inner, hinner, rfl⟩ := map_eq_ok hok
      refine .map hobject ?_
      intro m hm
      have hm' : m.1 ∉ Schema.propertyNames schema := hnames ▸ List.not_mem_nil
      exact h _ inner m.2 hinner (hadditional htype (k :: ks) hget m hm hm')
    · cases hok
      refine .object hobject ?_ ?_
      · exact fun _ hf => absurd hf List.not_mem_nil
      · exact fun _ hf => absurd hf List.not_mem_nil
    · cases hok
      exact .map hobject fun _ _ => .unknown
    · cases hok
      split
      · exact .unknown
      · exact .map hobject fun _ _ => .unknown

theorem ofArraySchema_accepts (h : AcceptsAdmitted convert) {schema v : Json} {node : Node}
    (htype : Schema.declaredType? schema = some "array")
    (hok : ofArraySchema convert schema = .ok node) (hv : Admits schema v) : node.Accepts v := by
  obtain ⟨-, -, hofType, -, -, -, -, hitems⟩ := hv
  have harray : v.isArray := hofType _ _ htype rfl
  unfold ofArraySchema at hok
  split at hok
  · rename_i ks hget
    obtain ⟨inner, hinner, rfl⟩ := map_eq_ok hok
    exact .array harray fun x hx => h _ inner x hinner (hitems htype ks hget x hx)
  · cases hok
    exact .array harray fun _ _ => .unknown

theorem primitive_accepts {name : String} {v : Json}
    (hv : ∀ test, Schema.typeTest? name = some test → test v) :
    ((Schema.primitive? name).getD .unknown).Accepts v := by
  unfold Schema.primitive?
  split
  · exact .string (hv _ rfl)
  · exact .integer (hv _ rfl)
  · exact .number (hv _ rfl)
  · exact .boolean (hv _ rfl)
  · exact .unknown

theorem ofDeclaredType_accepts (h : AcceptsAdmitted convert) :
    AcceptsAdmitted (ofDeclaredType convert) := by
  intro schema node v hok hv
  unfold ofDeclaredType at hok
  split at hok
  · exact ofObjectSchema_accepts h ‹_› hok hv
  · exact ofArraySchema_accepts h ‹_› hok hv
  · rename_i name _ _ htype
    cases hok
    obtain ⟨-, -, hofType⟩ := hv
    exact primitive_accepts fun test htest => hofType name test htype htest
  · cases hok
    exact .unknown

theorem ofSchemaWithin_accepts (context : String) (levels : Nat) :
    AcceptsAdmitted (ofSchemaWithin context levels) := by
  induction levels with
  | zero =>
    intro schema node v hok
    cases hok
  | succ levels ih =>
    intro schema node v hok hv
    -- Whichever keyword decides the node asks its part of the value; the others are not needed.
    simp only [ofSchemaWithin] at hok
    split at hok
    · rename_i values hvalues
      cases hok
      exact .enumeration (hv.enumValues hvalues)
    · split at hok
      · rename_i hflag
        cases hok
        obtain ⟨-, hintOrString⟩ := hv
        exact .intOrString (hintOrString hflag)
      · exact ofDeclaredType_accepts ih schema node v hok hv

/-- The type tree of a schema accepts every value that the schema admits. -/
theorem ofSchema_accepts_admitted {context : String} {level : Nat} {schema v : Json} {node : Node}
    (h : ofSchema context level schema = .ok node) (hv : Admits schema v) : node.Accepts v :=
  ofSchemaWithin_accepts context _ schema node v h hv

/-- An object with a required list of ports, of which a value has two and another member besides. -/
theorem ports_accept_admitted :
    let port : Json := .obj [("x-kubernetes-int-or-string", .bool true)]
    let ports : Json := .obj [("type", .str "array"), ("items", port)]
    let schema : Json := .obj [("type", .str "object"), ("required", .arr [.str "ports"]),
      ("properties", .obj [("ports", ports)])]
    let node : Node := .object [.mk "ports" (.array .intOrString) true none]
    let v : Json := .obj [("zone", .null), ("ports", .arr [.int 80, .str "http"])]
    ofSchema "example.com/v1 Widget" 1 schema = .ok node ∧ Admits schema v ∧ node.Accepts v := by
  intro port ports schema node v
  have hport : ∀ x : Json, x.isInteger ∨ x.isString → Admits port x := by
    intro x hx
    constructor
    case listed => exact fun w ws h => nomatch h
    case intOrString => exact fun _ => hx
    case ofType => exact fun name test h => nomatch h
    all_goals exact fun h => nomatch h
  have hports : Admits ports (.arr [.int 80, .str "http"]) := by
    constructor
    case items =>
      intro _ ks hks
      rw [← Option.some.inj hks]
      rintro x (_ | ⟨_, _ | ⟨_, hx⟩⟩)
      · exact hport _ (.inl rfl)
      · exact hport _ (.inr rfl)
      · cases hx
    case ofType =>
      intro name test hname htest
      obtain rfl : "array" = name := Option.some.inj hname
      obtain rfl : Json.isArray = test := Option.some.inj htest
      rfl
    case listed => exact fun w ws h => nomatch h
    case intOrString => exact fun h => nomatch h
    all_goals exact fun h => absurd (Option.some.inj h) (by decide)
  have hv : Admits schema v := by
    constructor
    case properties =>
      intro _ ps hps
      obtain rfl : [("ports", ports)] = ps := Option.some.inj hps
      rintro p (_ | ⟨_, hp⟩) x hx
      · obtain rfl : .arr [.int 80, .str "http"] = x := Option.some.inj hx
        exact hports
      · cases hp
    case ofType =>
      intro name test hname htest
      obtain rfl : "object" = name := Option.some.inj hname
      obtain rfl : Json.isObject = test := Option.some.inj htest
      rfl
    case required =>
      rintro _ name (_ | ⟨_, hname⟩)
      · rfl
      · cases hname
    case listed => exact fun w ws h => nomatch h
    case intOrString => exact fun h => nomatch h
    case items => exact fun h => absurd (Option.some.inj h) (by decide)
    all_goals exact fun _ => nofun
  have hok : ofSchema "example.com/v1 Widget" 1 schema = .ok node := rfl
  exact ⟨hok, hv, ofSchema_accepts_admitted hok hv⟩

end Node
end CrdBindings
