import CrdBindings.Proofs.Declared

/-!
The objects of type trees. A schema without repeated keys gives objects whose fields have different
names, and so do the modules of definitions with such schemas.
-/

namespace CrdBindings
set_option autoImplicit false

namespace Node

mutual

/-- The fields of every object in a type tree, each object in front of those below it. -/
def objects : Node → List (List Field)
  | .object fields => fields :: fieldsObjects fields
  | .array items => objects items
  | .map values => objects values
  | _ => []

def fieldsObjects : List Field → List (List Field)
  | [] => []
  | .mk _ node _ _ :: fields => objects node ++ fieldsObjects fields

end

/-- A tree in which the fields of every object have different names. -/
def DistinctNames (node : Node) : Prop :=
  ∀ fields ∈ node.objects, (fields.map Field.name).Nodup

theorem mem_fieldsObjects {fields : List Field} {object : List Field} :
    object ∈ fieldsObjects fields ↔ ∃ f ∈ fields, object ∈ f.node.objects := by
  induction fields with
  | nil => simp [fieldsObjects]
  | cons f fields ih =>
    cases f
    rw [fieldsObjects, List.mem_append, ih, List.exists_mem_cons_iff]
    rfl

theorem Leaf.objects_eq {node : Node} (h : Leaf node) : node.objects = [] := by
  cases h <;> rfl

theorem Follows.distinctNames {schema : Json} {node : Node} (h : node.Follows schema) :
    node.DistinctNames := by
  induction h with
  | object hnodup hdeclared _ ih =>
    intro object hobject
    rcases List.mem_cons.mp hobject with rfl | hobject
    · exact hnodup
    · obtain ⟨f, hf, hobject⟩ := mem_fieldsObjects.mp hobject
      obtain ⟨p, hp, -⟩ := exists_of_mem_right hdeclared hf
      exact ih (p, f) hp object hobject
  | array _ _ ih => exact ih
  | map _ _ ih => exact ih
  | arrayOfAny => exact fun _ hobject => absurd hobject List.not_mem_nil
  | mapOfAny => exact fun _ hobject => absurd hobject List.not_mem_nil
  | enumeration => exact fun _ hobject => absurd hobject List.not_mem_nil
  | leaf hleaf =>
    intro object hobject
    rw [hleaf.objects_eq] at hobject
    exact absurd hobject List.not_mem_nil

end Node

def TypedModule.objects (m : TypedModule) : List (List Field) := m.types.flatMap (·.node.objects)

/-- The fields of every object in the modules of definitions have different names. -/
theorem TypedModule.objects_distinct {definitions : List Definition} {modules : List TypedModule}
    (hdistinct : ∀ d ∈ definitions, d.DistinctKeys)
    (h : ofDefinitions definitions = .ok modules) {m : TypedModule} (hm : m ∈ modules) :
    ∀ fields ∈ m.objects, (fields.map Field.name).Nodup := by
  intro fields hfields
  obtain ⟨t, ht, hfields⟩ := List.mem_flatMap.mp hfields
  obtain ⟨r, hr, ht⟩ := List.mem_flatMap.mp ht
  obtain ⟨o, -, -, -, hdeclared⟩ := declared_of_mem hdistinct h hm hr
  obtain ⟨property, -, htype⟩ := exists_of_mem_right hdeclared.types_declared ht
  exact htype.follows.distinctNames fields hfields

end CrdBindings
