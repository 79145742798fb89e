import CrdBindings.Invocation.Running
import CrdBindings.Proofs.Tree

/-!
Outlines of type trees. An outline goes through the fields of a tree in preorder and indents each
below the field that holds it. Between two fields it looks into one array or map, so that it leaves
out just the fields behind two of them in a row.
-/

namespace CrdBindings
set_option autoImplicit false

namespace Node

/-- A field in a type tree: its indentation, and the most arrays and maps that follow each other on
the way to it. -/
structure Placed where
  level : Nat
  layers : Nat
  field : Field

mutual

/-- The fields of a tree in preorder, behind a row of arrays and maps. -/
def placed (level layers row : Nat) : Node → List Placed
  | .object fields => fieldsPlaced level (max layers row) fields
  | .array items => placed level layers (row + 1) items
  | .map values => placed level layers (row + 1) values
  | _ => []

def fieldsPlaced (level layers : Nat) : List Field → List Placed
  | [] => []
  | .mk name node required description :: fields =>
    ⟨level, layers, .mk name node required description⟩ ::
      (placed (level + 1) layers 0 node ++ fieldsPlaced level layers fields)

end

namespace Placed

/-- The line for a field: its name at its indentation, a star if it is required, and its type. -/
def line (p : Placed) : String :=
  String.join (List.replicate p.level "  ") ++ p.field.name ++
    (if p.field.required then "*" else "") ++ ": " ++ p.field.node.label

/-- The fields of the tree below a field. -/
def inside (p : Placed) : List Placed := p.field.node.placed (p.level + 1) p.layers 0

/-- No two arrays or maps follow each other on the way to the field. -/
def isShown (p : Placed) : Bool := p.layers ≤ 1

end Placed

theorem Leaf.placed_eq {node : Node} (h : Leaf node) (level layers row : Nat) :
    placed level layers row node = [] := by
  cases h <;> rfl

theorem placed_layers :
    (∀ (node : Node) (level layers row : Nat), ∀ p ∈ placed level layers row node,
      layers ≤ p.layers ∧ row ≤ p.layers ∧ level ≤ p.level) ∧
    ∀ (fields : List Field) (level layers : Nat), ∀ p ∈ fieldsPlaced level layers fields,
      layers ≤ p.layers ∧ level ≤ p.level := by
  apply tree_induction
  case object =>
    intro fields ih level layers row p hp
    obtain ⟨hlayers, hlevel⟩ := ih level (max layers row) p hp
    omega
  case array =>
    intro items ih level layers row p hp
    obtain ⟨hlayers, hrow, hlevel⟩ := ih level layers (row + 1) p hp
    omega
  case map =>
    intro values ih level layers row p hp
    obtain ⟨hlayers, hrow, hlevel⟩ := ih level layers (row + 1) p hp
    omega
  case enumeration => exact fun _ _ _ _ => List.forall_mem_nil _
  case leaf =>
    intro node hleaf level layers row p hp
    rw [hleaf.placed_eq] at hp
    exact absurd hp List.not_mem_nil
  case nil => exact fun _ _ => List.forall_mem_nil _
  case cons =>
    intro name node required description fields ihNode ihFields level layers p hp
    rcases List.mem_cons.mp hp with rfl | hp
    · exact ⟨Nat.le_refl _, Nat.le_refl _⟩
    · rcases List.mem_append.mp hp with hp | hp
      · obtain ⟨hlayers, -, hlevel⟩ := ihNode _ _ _ p hp
        omega
      · exact ihFields _ _ p hp

/-- Behind two arrays or maps in a row nothing is shown. -/
theorem filter_placed_of_row {level layers row : Nat} (h : 1 < row) (node : Node) :
    (placed level layers row node).filter Placed.isShown = [] := by
  rw [List.filter_eq_nil_iff]
  intro p hp
  obtain ⟨-, hrow, -⟩ := placed_layers.1 node level layers row p hp
  simp only [Placed.isShown, decide_eq_true_eq]
  omega

def shownLines (fields : List Placed) : List String := (fields.filter Placed.isShown).map Placed.line

/-- One array or map is looked through: what stands in it is an object, or else shows nothing. -/
theorem outline_layer {inner : Node} {level layers : Nat} (h : layers ≤ 1)
    (ih : ∀ level layers, layers ≤ 1 →
      outline level inner = shownLines (placed level layers 0 inner)) :
    outline level (.array inner) = shownLines (placed level layers 1 inner) ∧
      outline level (.map inner) = shownLines (placed level layers 1 inner) := by
  have hrow : ∀ node, shownLines (placed level layers 2 node) = [] := by
    intro node
    rw [shownLines, filter_placed_of_row (by omega), List.map_nil]
  cases inner with
  | object fields =>
    have hfields : fieldsOutline level fields =
        shownLines (fieldsPlaced level (max layers 1) fields) := by
      have hinner := ih level (max layers 1) (by omega)
      rwa [outline, placed, Nat.max_zero] at hinner
    exact ⟨hfields, hfields⟩
  | array items => exact ⟨(hrow items).symm, (hrow items).symm⟩
  | map values => exact ⟨(hrow values).symm, (hrow values).symm⟩
  | _ => exact ⟨rfl, rfl⟩

theorem outline_and_fieldsOutline_eq :
    (∀ (node : Node) (level layers : Nat), layers ≤ 1 →
      outline level node = shownLines (placed level layers 0 node)) ∧
    ∀ (fields : List Field) (level layers : Nat), layers ≤ 1 →
      fieldsOutline level fields = shownLines (fieldsPlaced level layers fields) := by
  apply tree_induction
  case object =>
    intro fields ih level layers h
    exact ih level (max layers 0) (by omega)
  case array => exact fun inner ih level layers h => (outline_layer h ih).1
  case map => exact fun inner ih level layers h => (outline_layer h ih).2
  case enumeration => exact fun _ _ _ _ => rfl
  case leaf =>
    intro node hleaf level layers _
    rw [hleaf.placed_eq]
    cases hleaf <;> rfl
  case nil => exact fun _ _ _ => rfl
  case cons =>
    intro name node required description fields ihNode ihFields level layers h
    have hshown : Placed.isShown ⟨level, layers, .mk name node required description⟩ :=
      decide_eq_true h
    rw [fieldsOutline, fieldsPlaced, ihNode (level + 1) layers h, ihFields level layers h, shownLines,
      shownLines, shownLines, List.filter_cons_of_pos hshown, List.filter_append, List.map_cons,
      List.map_append]
    rfl

theorem outline_eq (node : Node) (indent : Nat) :
    outline indent node = shownLines (placed indent 0 0 node) :=
  outline_and_fieldsOutline_eq.1 node indent 0 (Nat.zero_le 1)

/-- An outline is complete just where all fields are shown. -/
theorem outline_complete_iff (node : Node) (indent : Nat) :
    outline indent node = (placed indent 0 0 node).map Placed.line ↔
      ∀ p ∈ placed indent 0 0 node, p.layers ≤ 1 := by
  rw [outline_eq, shownLines]
  constructor
  · intro h p hp
    have hlength : ((placed indent 0 0 node).filter Placed.isShown).length =
        (placed indent 0 0 node).length := by
      simpa only [List.length_map] using congrArg List.length h
    have hshown := List.length_filter_eq_length_iff.mp hlength p hp
    exact of_decide_eq_true hshown
  · intro h
    rw [List.filter_eq_self.mpr]
    exact fun p hp => decide_eq_true (h p hp)

/-- In preorder, what stands below a field comes right behind it. -/
theorem placed_inside :
    (∀ (node : Node) (level layers row : Nat) (before after : List Placed) (p : Placed),
      placed level layers row node = before ++ p :: after → p.inside <+: after) ∧
    ∀ (fields : List Field) (level layers : Nat) (before after : List Placed) (p : Placed),
      fieldsPlaced level layers fields = before ++ p :: after → p.inside <+: after := by
  have hnone : ∀ {before after : List Placed} {p : Placed}, [] ≠ before ++ p :: after := by
    intro before after p
    cases before <;> exact nofun
  apply tree_induction
  case object => exact fun fields ih level layers row => ih level (max layers row)
  case array => exact fun items ih level layers row => ih level layers (row + 1)
  case map => exact fun values ih level layers row => ih level layers (row + 1)
  case enumeration => exact fun _ _ _ _ _ _ _ h => absurd h hnone
  case leaf =>
    intro node hleaf level layers row before after p h
    rw [hleaf.placed_eq] at h
    exact absurd h hnone
  case nil => exact fun _ _ _ _ _ h => absurd h hnone
  case cons =>
    intro name node required description fields ihNode ihFields level layers before after p h
    rw [fieldsPlaced] at h
    cases before with
    | nil =>
      obtain ⟨rfl, rfl⟩ := List.cons.inj h
      exact List.prefix_append _ _
    | cons first before =>
      rcases List.append_eq_append_iff.mp (List.cons.inj h).2 with
        ⟨more, -, hrest⟩ | ⟨more, hnode, hrest⟩
      · exact ihFields level layers more after p hrest
      · cases more with
        | nil => exact ihFields level layers [] after p hrest.symm
        | cons q more =>
          obtain ⟨rfl, rfl⟩ := List.cons.inj hrest
          exact (ihNode _ _ _ before more p hnode).trans (List.prefix_append _ _)

theorem level_lt_of_mem_inside {p q : Placed} (h : q ∈ p.inside) : p.level < q.level := by
  obtain ⟨-, -, hlevel⟩ := placed_layers.1 _ _ _ _ q h
  omega

end Node

open Node (Placed shownLines)

def NamedType.placed (t : NamedType) : List Placed := t.node.placed 3 0 0

namespace Import

/-- An inspection that is verbose shows, below each named type, a line for each of its fields except those
behind two arrays or maps in a row. It shows all of them if and only if there are none such. What stands
below a field comes right behind it and is indented more. -/
theorem inspect_outlines (i : Import) :
    (∀ (d : Disk) (catalog : Catalog) (source : String) (fetching : Fetching),
      ((fetching.importer catalog d).importInput source).result = .ok (some i) →
      ((Task.inspect source fetching).run d catalog true).printed =
        s!"→ Importing {source}" :: i.lines true) ∧
    i.lines true =
      [s!"→ Fetched {i.url}", "", "✓ Import successful!", s!"  CRDs: {i.definitions.length}",
        s!"  Modules: {i.modules.length}"] ++
      i.modules.flatMap (fun m => ["", m.apiVersion] ++ m.resources.flatMap fun r =>
        s!"  • {r.kind} ({r.plural}, {r.scope.text})" :: r.types.flatMap fun t =>
          s!"    {t.name}: {t.node.label}" :: (t.placed.filter (·.layers ≤ 1)).map Placed.line) ∧
    ∀ m ∈ i.modules, ∀ t ∈ m.types,
      (t.node.outline 3 = t.placed.map Placed.line ↔ ∀ p ∈ t.placed, p.layers ≤ 1) ∧
      ∀ before p after, t.placed = before ++ p :: after →
        p.inside <+: after ∧ ∀ q ∈ p.inside, p.level < q.level := by
  refine ⟨?_, ?_, ?_⟩
  · intro d catalog source fetching h
    simp only [Task.run, runInspect, h]
  · have htype : NamedType.lines true = fun t =>
        s!"    {t.name}: {t.node.label}" :: (t.placed.filter (·.layers ≤ 1)).map Placed.line := by
      funext t
      rw [NamedType.lines, if_pos rfl, Node.outline_eq]
      rfl
    have hresource : Resource.lines true = fun r =>
        s!"  • {r.kind} ({r.plural}, {r.scope.text})" :: r.types.flatMap (NamedType.lines true) := rfl
    have hmodule : TypedModule.lines true = fun m =>
        ["", m.apiVersion] ++ m.resources.flatMap (Resource.lines true) := rfl
    rw [Import.lines, hmodule, hresource, htype]
  · intro m _ t _
    refine ⟨Node.outline_complete_iff t.node 3, ?_⟩
    intro before p after h
    constructor
    · exact Node.placed_inside.1 t.node 3 0 0 before after p h
    · exact fun q hq => Node.level_lt_of_mem_inside hq

/-- The color of a cell in a grid of rows is a field, and no line is shown for it. -/
theorem inspect_leaves_out_cells :
    let cell : Json := .obj [("type", .str "object"),
      ("properties", .obj [("color", .obj [("type", .str "string")])])]
    let rows : Json := .obj [("type", .str "array"),
      ("items", .obj [("type", .str "array"), ("items", cell)])]
    let spec : Json := .obj [("type", .str "object"), ("required", .arr [.str "cells"]),
      ("properties", .obj [("cells", rows)])]
    let grid : Definition := ⟨none, "example.com", ⟨"Grid", "grids", none, none⟩, .namespaced,
      [⟨"v1", true, true, false, some (.obj [("properties", .obj [("spec", spec)])])⟩]⟩
    ∃ i : Import, i.definitions = [grid] ∧ TypedModule.ofDefinitions [grid] = .ok i.modules ∧
      i.modules.flatMap (TypedModule.lines true) =
        ["", "example.com/v1", "  • Grid (grids, Namespaced)", "    GridSpec: object(1 fields)",
          "      cells*: array<array<object(1 fields)>>"] ∧
      i.modules.flatMap (fun m => m.types.flatMap fun t => t.placed.map Placed.line) =
        ["      cells*: array<array<object(1 fields)>>", "        color: string"] := by
  intro cell rows spec grid
  let cells : Node := .array (.array (.object [.mk "color" .string false none]))
  let type : NamedType := ⟨"GridSpec", "spec", false, none, .object [.mk "cells" cells true none]⟩
  let m : TypedModule := ⟨"example.com", "v1", [⟨"Grid", "grids", .namespaced, none, [type]⟩]⟩
  refine ⟨⟨.file "grid.yaml", "grid.yaml", [grid], [m]⟩, rfl, rfl, ?_, ?_⟩
  · decide +kernel
  · decide +kernel

end Import
end CrdBindings
