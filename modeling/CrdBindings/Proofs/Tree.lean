import CrdBindings.Node

/-!
Induction over type trees: over a node and over the fields of an object at once.
-/

namespace CrdBindings.Node
set_option autoImplicit false

/-- A node with nothing below it and no listed values. -/
inductive Leaf : Node → Prop where
  | string : Leaf .string
  | integer : Leaf .integer
  | number : Leaf .number
  | boolean : Leaf .boolean
  | intOrString : Leaf .intOrString
  | unknown : Leaf .unknown

theorem tree_induction {P : Node → Prop} {Q : List Field → Prop}
    (object : ∀ fields, Q fields → P (.object fields))
    (array : ∀ inner, P inner → P (.array inner))
    (map : ∀ inner, P inner → P (.map inner))
    (enumeration : ∀ values, P (.enumeration values))
    (leaf : ∀ node, Leaf node → P node)
    (nil : Q [])
    (cons : ∀ name node required description fields, P node → Q fields →
      Q (.mk name node required description :: fields)) :
    (∀ node, P node) ∧ ∀ fields, Q fields := by
  have hnode : ∀ node, P node := fun node =>
    @Node.rec P (fun f => P f.node) Q object array map enumeration
      (leaf _ .string) (leaf _ .integer) (leaf _ .number) (leaf _ .boolean)
      (leaf _ .intOrString) (leaf _ .unknown)
      (fun _ _ _ _ h => h) nil
      (fun f fields hf hfields => by cases f; exact cons _ _ _ _ _ hf hfields) node
  refine ⟨hnode, ?_⟩
  intro fields
  induction fields with
  | nil => exact nil
  | cons f fields ih => cases f; exact cons _ _ _ _ _ (hnode _) ih

end CrdBindings.Node
