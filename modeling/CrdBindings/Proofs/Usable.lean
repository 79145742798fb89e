import CrdBindings.Proofs.Shape
import Mathlib.Data.List.Forall2

/-!
Usable definitions. A value holds a definition exactly if it declares the kind, fits the shape of a
document down to every entry of its versions, and has a group, a kind and a named version; and the
definition has what the value declares, with its defaults.
-/

namespace CrdBindings.Definition
set_option autoImplicit false

open Shape

def specField? (name : String) (v : Json) : Option Json :=
  (field? documentFields "spec" v).bind (field? specFields name)

def nameField? (name : String) (v : Json) : Option Json :=
  (specField? "names" v).bind (field? namesFields name)

def entries (v : Json) : List Json := ((specField? "versions" v).map items).getD []

/-- The schema for the versions that have none of their own. -/
def sharedSchema? (v : Json) : Option Json :=
  (specField? "validation" v).bind (field? holderFields "openAPIV3Schema")

def isNamed (entry : Json) : Bool :=
  match field? entryFields "name" entry with
  | some (.str name) => name != ""
  | _ => false

structure Usable (v : Json) : Prop where
  kind : v.get? "kind" = some (.str "CustomResourceDefinition")
  shape : Fits (.record documentFields) v
  group : ∃ group, group ≠ "" ∧ specField? "group" v = some (.str group)
  named : ∃ kind, kind ≠ "" ∧ nameField? "kind" v = some (.str kind)
  versions : ∃ entry ∈ entries v, isNamed entry

structure DeclaresVersion (shared : Option Json) (entry : Json) (version : ServedVersion) : Prop where
  name : field? entryFields "name" entry = some (.str version.name)
  served : version.served = false ↔ field? entryFields "served" entry = some (.bool false)
  storage : version.storage = true ↔ field? entryFields "storage" entry = some (.bool true)
  deprecated : version.deprecated = true ↔ field? entryFields "deprecated" entry = some (.bool true)
  schema : version.schema =
    ((field? entryFields "schema" entry).bind (field? holderFields "openAPIV3Schema")).or shared

/-- A definition as a value declares it. -/
structure Declares (v : Json) (d : Definition) : Prop where
  name : d.name = (field? documentFields "metadata" v).bind (text? metadataFields "name")
  group : specField? "group" v = some (.str d.group) ∧ d.group ≠ ""
  kind : nameField? "kind" v = some (.str d.names.kind) ∧ d.names.kind ≠ ""
  plural : d.names.plural ≠ ""
  plural_declared : ∀ plural, plural ≠ "" → nameField? "plural" v = some (.str plural) →
    d.names.plural = plural
  plural_default : nameField? "plural" v = none ∨ nameField? "plural" v = some (.str "") →
    d.names.plural = Text.lower d.names.kind ++ "s"
  singular : d.names.singular = (nameField? "singular" v).bind Json.asString?
  listKind : d.names.listKind = (nameField? "listKind" v).bind Json.asString?
  scope : d.scope = .cluster ↔ specField? "scope" v = some (.str "Cluster")
  versions : List.Forall₂ (DeclaresVersion (sharedSchema? v)) ((entries v).filter isNamed) d.versions

theorem filled?_eq_some_iff {text : Option String} {s : String} :
    filled? text = some s ↔ text = some s ∧ s ≠ "" := by
  simp [filled?, Option.filter_eq_some_iff]

theorem text?_eq_some_iff {fields : Fields} {name s : String} {v : Json} :
    text? fields name v = some s ↔ field? fields name v = some (.str s) := by
  rw [text?]
  cases field? fields name v with
  | none => simp
  | some w => cases w <;> simp [Json.asString?]

theorem flag?_eq_some_iff {fields : Fields} {name : String} {b : Bool} {v : Json} :
    flag? fields name v = some b ↔ field? fields name v = some (.bool b) := by
  rw [flag?]
  cases field? fields name v with
  | none => simp
  | some w => cases w <;> simp [bool?]

theorem getD_eq_not_iff {o : Option Bool} {b : Bool} : o.getD b = !b ↔ o = some !b := by
  cases o with
  | none => cases b <;> simp
  | some c => simp

theorem isNamed_iff {entry : Json} :
    isNamed entry ↔ ∃ name, filled? (text? entryFields "name" entry) = some name := by
  simp only [filled?_eq_some_iff, text?_eq_some_iff]
  unfold isNamed
  split
  · rename_i name hname
    simp [hname]
  · rename_i hname
    exact iff_of_false nofun fun ⟨name, hfield, _⟩ => hname name hfield

theorem version?_cases (shared : Option Json) (entry : Json) :
    (isNamed entry = false ∧ version? shared (entryAt entry) = none) ∨
    (isNamed entry = true ∧ ∃ version, version? shared (entryAt entry) = some version ∧
      DeclaresVersion shared entry version) := by
  rw [version?, entryAt]
  cases hname : filled? (text? entryFields "name" entry) with
  | none =>
    refine .inl ⟨?_, rfl⟩
    rw [← Bool.not_eq_true, isNamed_iff, hname]
    simp
  | some name =>
    refine .inr ⟨isNamed_iff.mpr ⟨name, hname⟩, _, rfl, ?_⟩
    constructor
    · exact text?_eq_some_iff.mp (filled?_eq_some_iff.mp hname).1
    · exact getD_eq_not_iff.trans flag?_eq_some_iff
    · exact getD_eq_not_iff.trans flag?_eq_some_iff
    · exact getD_eq_not_iff.trans flag?_eq_some_iff
    · rfl

theorem versions_declared (shared : Option Json) (entries : List Json) :
    List.Forall₂ (DeclaresVersion shared) (entries.filter isNamed)
      ((entries.map entryAt).filterMap (version? shared)) := by
  induction entries with
  | nil => exact .nil
  | cons entry entries ih =>
    rw [List.map_cons]
    rcases version?_cases shared entry with ⟨hunnamed, hnone⟩ | ⟨hnamed, version, hsome, hdeclared⟩
    · rw [List.filter_cons_of_neg (by simp [hunnamed]), List.filterMap_cons_none hnone]
      exact ih
    · rw [List.filter_cons_of_pos hnamed, List.filterMap_cons_some hsome]
      exact .cons hdeclared ih

theorem ofSpec?_eq_some_iff {name : Option String} {spec : Shape.Spec} {d : Definition} :
    ofSpec? name spec = some d ↔ ∃ group names kind,
      filled? spec.group = some group ∧ spec.names = some names ∧ filled? names.kind = some kind ∧
      (spec.versions.getD []).filterMap (version? spec.sharedSchema) ≠ [] ∧
      d = ⟨name, group, ⟨kind, (filled? names.plural).getD (Text.lower kind ++ "s"), names.singular,
        names.listKind⟩, Scope.ofText (spec.scope.getD ""),
        (spec.versions.getD []).filterMap (version? spec.sharedSchema)⟩ := by
  rw [ofSpec?]
  simp only [Option.bind_eq_bind, Option.bind_eq_some_iff]
  constructor
  · rintro ⟨group, hgroup, names, hnames, kind, hkind, h⟩
    split at h
    · cases h
    · rename_i hversions
      cases h
      exact ⟨group, names, kind, hgroup, hnames, hkind, mt List.isEmpty_iff.mpr hversions, rfl⟩
  · rintro ⟨group, names, kind, hgroup, hnames, hkind, hversions, rfl⟩
    refine ⟨group, hgroup, names, hnames, kind, hkind, ?_⟩
    rw [if_neg (mt List.isEmpty_iff.mp hversions)]
    rfl

theorem kindOf?_eq_iff {v : Json} :
    kindOf? v = some definitionKind ↔ v.get? "kind" = some (.str "CustomResourceDefinition") := by
  rw [kindOf?]
  cases v.get? "kind" with
  | none => simp
  | some w => cases w <;> simp [Json.asString?, definitionKind]

theorem ofJson?_eq_some_iff {v : Json} {d : Definition} :
    ofJson? v = some d ↔ v.get? "kind" = some (.str "CustomResourceDefinition") ∧
      Fits (.record documentFields) v ∧ ∃ w, field? documentFields "spec" v = some w ∧
      ofSpec? ((field? documentFields "metadata" v).bind (text? metadataFields "name")) (specAt w) =
        some d := by
  rw [ofJson?, ← kindOf?_eq_iff]
  by_cases hkind : kindOf? v = some definitionKind
  · have hdocument := document_gives v
    rw [if_neg (not_not.mpr hkind)]
    simp only [hkind, hdocument, documentAt, Option.bind_eq_bind, Option.bind_eq_some_iff,
      Option.map_eq_some_iff, and_assoc, exists_and_left, exists_eq_left, true_and,
      exists_exists_and_eq_and]
  · simp [hkind]

theorem specField?_eq {v w : Json} (hw : field? documentFields "spec" v = some w) (name : String) :
    specField? name v = field? specFields name w := by
  rw [specField?, hw, Option.bind_some]

theorem nameField?_eq {v u : Json} (hu : specField? "names" v = some u) (name : String) :
    nameField? name v = field? namesFields name u := by
  rw [nameField?, hu, Option.bind_some]

theorem versionsAt_eq {v w : Json} (hw : field? documentFields "spec" v = some w) :
    ((specAt w).versions.getD []).filterMap (version? (specAt w).sharedSchema) =
      ((entries v).map entryAt).filterMap (version? (sharedSchema? v)) := by
  rw [entries, sharedSchema?, specField?_eq hw, specField?_eq hw, specAt, schema?]
  cases field? specFields "versions" w <;> rfl

theorem versions_ne_nil_iff (shared : Option Json) (entries : List Json) :
    (entries.map entryAt).filterMap (version? shared) ≠ [] ↔ ∃ entry ∈ entries, isNamed entry := by
  have hlength := (versions_declared shared entries).length_eq
  rw [← List.length_pos_iff, ← hlength, List.length_pos_iff, ne_eq, List.filter_eq_nil_iff]
  simp only [not_forall, not_not, exists_prop]

theorem pluralOf_ne_empty (plural : Option String) (kind : String) :
    (filled? plural).getD (Text.lower kind ++ "s") ≠ "" := by
  cases hplural : filled? plural with
  | none =>
    rw [Option.getD_none]
    simp
  | some s => exact (filled?_eq_some_iff.mp hplural).2

theorem ofText_eq_cluster_iff {scope : Option String} :
    Scope.ofText (scope.getD "") = .cluster ↔ scope = some "Cluster" := by
  have htext (name : String) : Scope.ofText name = .cluster ↔ name = "Cluster" := by
    rw [Scope.ofText]
    split <;> simp [*]
  rw [htext]
  cases scope with
  | none => exact iff_of_false (by decide) nofun
  | some name => simp

theorem declares_of_ofJson? {v : Json} {d : Definition} (h : ofJson? v = some d) :
    Declares v d := by
  obtain ⟨-, -, w, hw, h⟩ := ofJson?_eq_some_iff.mp h
  obtain ⟨group, names, kind, hgroup, hnames, hkind, -, rfl⟩ := ofSpec?_eq_some_iff.mp h
  obtain ⟨u, hu, rfl⟩ := Option.map_eq_some_iff.mp hnames
  obtain ⟨hgroup, hgroup_ne⟩ := filled?_eq_some_iff.mp hgroup
  obtain ⟨hkind, hkind_ne⟩ := filled?_eq_some_iff.mp hkind
  have hspec := specField?_eq hw
  have hname := nameField?_eq ((hspec "names").trans hu)
  constructor
  case name => rfl
  case group => exact ⟨(hspec _).trans (text?_eq_some_iff.mp hgroup), hgroup_ne⟩
  case kind => exact ⟨(hname _).trans (text?_eq_some_iff.mp hkind), hkind_ne⟩
  case plural => exact pluralOf_ne_empty _ _
  case plural_declared =>
    intro plural hplural hdeclared
    rw [hname] at hdeclared
    have hfilled := filled?_eq_some_iff.mpr ⟨text?_eq_some_iff.mpr hdeclared, hplural⟩
    dsimp only [namesAt]
    rw [hfilled, Option.getD_some]
  case plural_default =>
    intro hmissing
    rw [hname] at hmissing
    -- An empty plural counts as an absent one.
    have hnone : filled? (text? namesFields "plural" u) = none := by
      rw [Option.eq_none_iff_forall_ne_some]
      intro s hs
      obtain ⟨htext, hs_ne⟩ := filled?_eq_some_iff.mp hs
      rw [text?_eq_some_iff] at htext
      rcases hmissing with hmissing | hempty
      · rw [hmissing] at htext
        cases htext
      · rw [hempty] at htext
        cases htext
        exact hs_ne rfl
    dsimp only [namesAt]
    rw [hnone, Option.getD_none]
  case singular => exact congrArg (Option.bind · Json.asString?) (hname "singular").symm
  case listKind => exact congrArg (Option.bind · Json.asString?) (hname "listKind").symm
  case scope =>
    rw [hspec, ← text?_eq_some_iff]
    exact ofText_eq_cluster_iff
  case versions =>
    dsimp only
    rw [versionsAt_eq hw]
    exact versions_declared _ _

theorem usable_of_ofJson? {v : Json} {d : Definition} (h : ofJson? v = some d) : Usable v := by
  obtain ⟨hkind, hshape, w, hw, hspec⟩ := ofJson?_eq_some_iff.mp h
  obtain ⟨_, _, _, -, -, -, hversions, -⟩ := ofSpec?_eq_some_iff.mp hspec
  have hdeclares := declares_of_ofJson? h
  rw [versionsAt_eq hw, versions_ne_nil_iff] at hversions
  exact ⟨hkind, hshape, ⟨_, hdeclares.group.2, hdeclares.group.1⟩,
    ⟨_, hdeclares.kind.2, hdeclares.kind.1⟩, hversions⟩

theorem Usable.exists_definition {v : Json} (h : Usable v) : ∃ d, ofJson? v = some d := by
  obtain ⟨hkind, hshape, ⟨group, hgroup_ne, hgroup⟩, ⟨kind, hname_ne, hname⟩, hversions⟩ := h
  obtain ⟨w, hw, hgroup⟩ := Option.bind_eq_some_iff.mp hgroup
  obtain ⟨u, hu, hname⟩ := Option.bind_eq_some_iff.mp hname
  rw [specField?_eq hw] at hu
  refine ⟨_, ofJson?_eq_some_iff.mpr ⟨hkind, hshape, w, hw, ofSpec?_eq_some_iff.mpr ⟨group,
    namesAt u, kind, ?_, ?_, ?_, ?_, rfl⟩⟩⟩
  · exact filled?_eq_some_iff.mpr ⟨text?_eq_some_iff.mpr hgroup, hgroup_ne⟩
  · exact Option.map_eq_some_iff.mpr ⟨u, hu, rfl⟩
  · exact filled?_eq_some_iff.mpr ⟨text?_eq_some_iff.mpr hname, hname_ne⟩
  · rw [versionsAt_eq hw, versions_ne_nil_iff]
    exact hversions

/-- Exactly the usable values hold a definition, and it is as the value declares it. -/
theorem defines_exactly_usable (v : Json) :
    ((∃ d, ofJson? v = some d) ↔ Usable v) ∧ ∀ d, ofJson? v = some d → Declares v d :=
  ⟨⟨fun ⟨_, h⟩ => usable_of_ofJson? h, Usable.exists_definition⟩, fun _ => declares_of_ofJson?⟩

end CrdBindings.Definition
