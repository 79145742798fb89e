import CrdBindings.Proofs.Layout.Reading
import CrdBindings.Proofs.Objects

/-!
The names under which properties are written. Each record of a file stands for an object of the
module, and its fields are written under the names of the properties; only the empty name cannot be
given, and the identifier of the field stands in for it.
-/

namespace CrdBindings
set_option autoImplicit false

def Item.record? : Item → Option RecordDecl
  | .record decl => some decl
  | _ => none

/-- The name under which a field with an identifier is written. -/
def Field.writtenAs (f : Field) (ident : String) : String :=
  if f.name = "" then Ident.bare ident else f.name

namespace Layout

def records (l : Layout) : List RecordDecl := l.items.filterMap Item.record?

theorem mem_records {l : Layout} {r : RecordDecl} : r ∈ l.records ↔ .record r ∈ l.items := by
  rw [records, List.mem_filterMap]
  constructor
  · rintro ⟨item, hitem, hr⟩
    cases item with
    | record d =>
      obtain rfl : d = r := Option.some.inj hr
      exact hitem
    | resource d => cases hr
    | choice d => cases hr
  · exact fun hitem => ⟨.record r, hitem, rfl⟩

def claimIdents (idents : Names) (fields : List Field) : List String :=
  (idents.claimAll (fields.map fun f => Ident.field f.name)).1

def namesFor (fields : List Field) : List String :=
  List.zipWith Field.writtenAs fields (claimIdents .empty fields)

/-- A record with the fields of an object. -/
def StandsFor (fields : List Field) (r : RecordDecl) : Prop :=
  ∃ names, r.fields = (layFields names .empty r.name fields).1

/-- The records of a tree stand for its objects, in order. -/
theorem layNode_and_layFields_records :
    (∀ (node : Node) (names : Names) (candidate : String) (description : Option String),
      List.Forall₂ StandsFor node.objects
        ((layNode names candidate description node).items.filterMap Item.record?)) ∧
    ∀ (fields : List Field) (names idents : Names) (parent : String),
      List.Forall₂ StandsFor (Node.fieldsObjects fields)
        ((layFields names idents parent fields).2.1.filterMap Item.record?) := by
  apply Node.tree_induction
  case object =>
    intro fields ih names candidate description
    exact .cons ⟨(names.claim candidate).2, rfl⟩ (ih _ _ _)
  case array =>
    intro inner ih names candidate description
    exact ih names candidate none
  case map =>
    intro inner ih names candidate description
    exact ih names candidate none
  case enumeration =>
    intro values names candidate description
    simp only [layNode, layEnumeration]
    split <;> exact .nil
  case leaf =>
    intro node h names candidate description
    cases h <;> exact .nil
  case nil => exact fun _ _ _ => .nil
  case cons =>
    intro name node required description fields ihNode ihFields names idents parent
    simp only [layFields, List.filterMap_append]
    exact List.rel_append (ihNode _ _ _) (ihFields _ _ _)

theorem layTypes_records (ts : List NamedType) (names : Names) :
    List.Forall₂ StandsFor (ts.flatMap (·.node.objects))
      ((layTypes names ts).2.1.filterMap Item.record?) := by
  induction ts generalizing names with
  | nil => exact .nil
  | cons t ts ih =>
    simp only [layTypes, List.flatMap_cons, List.filterMap_append]
    exact List.rel_append (layNode_and_layFields_records.1 _ _ _ _) (ih _)

theorem layResources_records (rs : List Resource) (kinds : List String) (names : Names)
    (h : kinds.length = rs.length) :
    List.Forall₂ StandsFor ((rs.flatMap (·.types)).flatMap (·.node.objects))
      ((layResources names (kinds.zip rs)).1.filterMap Item.record?) := by
  induction rs generalizing kinds names with
  | nil =>
    obtain rfl : kinds = [] := List.eq_nil_of_length_eq_zero h
    exact .nil
  | cons r rs ih =>
    cases kinds with
    | nil => simp at h
    | cons kind kinds =>
      simp only [List.zip_cons_cons, layResources, List.flatMap_cons, List.flatMap_append,
        List.cons_append]
      rw [List.filterMap_cons_none rfl, List.filterMap_append]
      exact List.rel_append (layTypes_records r.types names) (ih kinds _ (by simpa using h))

theorem ofModule_records (m : TypedModule) :
    List.Forall₂ StandsFor m.objects (ofModule m).records := by
  rw [records, ofModule_eq]
  exact layResources_records m.resources _ _ (kindNames_length m)

theorem fieldDecl_writtenName (ident name innerType : String) (required : Bool)
    (description : Option String) :
    (fieldDecl ident name innerType required description).writtenName =
      if name = "" then Ident.bare ident else name := by
  unfold FieldDecl.writtenName fieldDecl
  by_cases hname : Ident.bare ident = name
  · simp [hname]
  · simp [hname]

theorem layFields_written (fields : List Field) (names idents : Names) (parent : String) :
    (layFields names idents parent fields).1.map FieldDecl.writtenName =
      List.zipWith Field.writtenAs fields (claimIdents idents fields) := by
  induction fields generalizing names idents with
  | nil => rfl
  | cons f fields ih =>
    obtain ⟨name, node, required, description⟩ := f
    simp only [layFields, List.map_cons, fieldDecl_writtenName, ih]
    rfl

theorem StandsFor.written {fields : List Field} {r : RecordDecl} (h : StandsFor fields r)
    (hsane : r.Sanitised) : writtenNames r = namesFor fields := by
  obtain ⟨names, hfields⟩ := h
  rw [writtenNames_eq hsane, hfields, layFields_written, namesFor]

theorem ofModule_written (m : TypedModule) :
    List.Forall₂ (fun fields r => writtenNames r = namesFor fields)
      m.objects (ofModule m).records := by
  have hrecords := List.forall₂_iff_zip.mp (ofModule_records m)
  refine List.forall₂_iff_zip.mpr ⟨hrecords.1, ?_⟩
  intro fields r hzip
  have hitem := mem_records.mp (List.of_mem_zip hzip).2
  exact (hrecords.2 hzip).written (ofModule_sanitised m (.record r) hitem)

/-- A name under which a field is written: the field's own, unless that is empty. -/
def WrittenFor (f : Field) (name : String) : Prop := name = f.name ↔ f.name ≠ ""

theorem WrittenFor.of_nonempty {f : Field} {name : String} (h : WrittenFor f name)
    (hne : f.name ≠ "") : name = f.name := h.mpr hne

theorem WrittenFor.of_empty {f : Field} {name : String} (h : WrittenFor f name)
    (hempty : f.name = "") : name ≠ "" := by
  intro hname
  exact h.mp (hname.trans hempty.symm) hempty

theorem claimIdents_isField (fields : List Field) :
    ∀ ident ∈ claimIdents .empty fields, Ident.IsField ident := by
  apply Names.claimAll_of_claim Names.claim_isField
  intro wanted hwanted
  obtain ⟨f, -, rfl⟩ := List.mem_map.mp hwanted
  exact Ident.field_isField f.name

theorem writtenAs_written (f : Field) {ident : String} (h : Ident.IsField ident) :
    WrittenFor f (f.writtenAs ident) := by
  unfold WrittenFor Field.writtenAs
  split
  · rename_i hempty
    rw [hempty]
    exact iff_of_false h.nonempty (not_not_intro rfl)
  · rename_i hne
    exact iff_of_true rfl hne

theorem namesFor_written (fields : List Field) :
    List.Forall₂ WrittenFor fields (namesFor fields) := by
  have hlength : (claimIdents .empty fields).length = fields.length := by
    rw [claimIdents, Names.claimAll_length, List.length_map]
  have hidents := claimIdents_isField fields
  rw [namesFor]
  generalize claimIdents .empty fields = idents at hlength hidents
  induction fields generalizing idents with
  | nil => exact .nil
  | cons f fields ih =>
    cases idents with
    | nil => cases hlength
    | cons ident idents =>
      refine .cons (writtenAs_written f (hidents ident List.mem_cons_self)) ?_
      exact ih idents (Nat.succ.inj hlength) fun i hi => hidents i (List.mem_cons_of_mem _ hi)

theorem written_eq_names {fields : List Field} {names : List String}
    (h : List.Forall₂ WrittenFor fields names) (hne : "" ∉ fields.map Field.name) :
    names = fields.map Field.name := by
  induction h with
  | nil => rfl
  | @cons f name fields names hwritten hrest ih =>
    rw [List.map_cons, List.mem_cons, not_or] at hne
    rw [List.map_cons, ih hne.2, hwritten.of_nonempty (Ne.symm hne.1)]

/-- A name that is no property's is only written for the empty one. -/
theorem mem_written {fields : List Field} {names : List String}
    (h : List.Forall₂ WrittenFor fields names) {name : String}
    (hname : name ∉ fields.map Field.name) :
    name ∈ names ↔ ∃ p ∈ fields.zip names, p.1.name = "" ∧ p.2 = name := by
  induction h with
  | nil => simp
  | @cons f written fields names hwritten hrest ih =>
    rw [List.map_cons, List.mem_cons, not_or] at hname
    rw [List.mem_cons, ih hname.2, List.zip_cons_cons]
    constructor
    · rintro (rfl | ⟨p, hp, hempty⟩)
      · refine ⟨(f, name), List.mem_cons_self, ?_, rfl⟩
        by_contra hne
        exact hname.1 (hwritten.of_nonempty hne)
      · exact ⟨p, List.mem_cons_of_mem _ hp, hempty⟩
    · rintro ⟨p, hp, hempty, hp2⟩
      rcases List.mem_cons.mp hp with rfl | hp
      · exact .inl hp2.symm
      · exact .inr ⟨p, hp, hempty, hp2⟩

/-- The names written for properties that differ differ too, unless what is written for an empty
property is another one. -/
theorem written_nodup_iff {fields : List Field} {names : List String}
    (h : List.Forall₂ WrittenFor fields names) (hdistinct : (fields.map Field.name).Nodup) :
    names.Nodup ↔
      ∀ p ∈ fields.zip names, p.1.name = "" → p.2 ∉ fields.map Field.name := by
  induction h with
  | nil => simp
  | @cons f name fields names hwritten hrest ih =>
    rw [List.map_cons, List.nodup_cons] at hdistinct
    rw [List.nodup_cons, ih hdistinct.2, List.zip_cons_cons, List.forall_mem_cons, List.map_cons]
    by_cases hempty : f.name = ""
    · have hnone : "" ∉ fields.map Field.name := hempty ▸ hdistinct.1
      have hnames := written_eq_names hrest hnone
      have hne := hwritten.of_empty hempty
      have hothers : ∀ p ∈ fields.zip names, p.1.name ≠ "" := by
        intro p hp he
        exact hnone (he ▸ List.mem_map_of_mem (List.of_mem_zip hp).1)
      constructor
      · rintro ⟨hmem, -⟩
        refine ⟨?_, fun p hp he => absurd he (hothers p hp)⟩
        intro _ hmem'
        rw [hempty, ← hnames] at hmem'
        exact (List.mem_cons.mp hmem').elim hne hmem
      · rintro ⟨hhead, -⟩
        refine ⟨?_, fun p hp he => absurd he (hothers p hp)⟩
        intro hmem
        rw [hnames] at hmem
        exact hhead hempty (List.mem_cons_of_mem _ hmem)
    · have hname := hwritten.of_nonempty hempty
      have hmem := mem_written hrest (hname ▸ hdistinct.1)
      constructor
      · rintro ⟨hfresh, htail⟩
        refine ⟨fun he => absurd he hempty, ?_⟩
        intro p hp he hmem'
        rcases List.mem_cons.mp hmem' with hp2 | hp2
        · exact hfresh (hmem.mpr ⟨p, hp, he, hp2.trans hname.symm⟩)
        · exact htail p hp he hp2
      · rintro ⟨-, htail⟩
        refine ⟨?_, fun p hp he hp2 => htail p hp he (List.mem_cons_of_mem _ hp2)⟩
        intro hfresh
        obtain ⟨p, hp, he, hp2⟩ := hmem.mp hfresh
        exact htail p hp he (List.mem_cons.mpr (.inl (hp2.trans hname)))

theorem textOf_append (ls ms : List Line) :
    Line.textOf (ls ++ ms) = Line.textOf ls ++ Line.textOf ms := by
  rw [Line.textOf, List.map_append, String.join_append, Line.textOf, Line.textOf]

/-- The text of every record stands in the file. -/
theorem recordText_of_mem {l : Layout} {r : RecordDecl} (h : r ∈ l.records) :
    ∃ before after, l.render = before ++ recordText r ++ after := by
  obtain ⟨front, back, hitems⟩ := List.append_of_mem (mem_records.mp h)
  let separated : Item → List Line := fun item => code "" :: itemLines l.apiVersion item
  refine ⟨Line.textOf (l.headerLines ++ front.flatMap separated ++ [code ""]),
    Line.textOf (back.flatMap separated), ?_⟩
  rw [recordText, ← textOf_append, ← textOf_append, render, lines, hitems]
  simp only [List.flatMap_append, List.flatMap_cons, List.append_assoc]
  rfl

/-- Every record of a rendered file stands for an object of the module, in order, and its fields are
written under the names of the properties; all but the empty one, for which the identifier stands
in. In the modules of definitions without repeated keys, as all definitions of a bundle are, the
names of a record differ, unless the stand-in for an empty property is the name of another one. -/
theorem render_writes_names (m : TypedModule) :
    List.Forall₂ (fun fields r =>
      (∃ before after, (ofModule m).render = before ++ recordText r ++ after) ∧
        writtenNames r = namesFor fields ∧ List.Forall₂ WrittenFor fields (writtenNames r))
      m.objects (ofModule m).records ∧
    (∀ definitions modules, (∀ d ∈ definitions, Definition.DistinctKeys d) →
      TypedModule.ofDefinitions definitions = .ok modules → m ∈ modules →
      List.Forall₂ (fun fields r => (writtenNames r).Nodup ↔
        ∀ p ∈ fields.zip (writtenNames r), p.1.name = "" → p.2 ∉ fields.map Field.name)
        m.objects (ofModule m).records) ∧
    ∀ text definitions, Bundle.ofText text = .ok definitions →
      ∀ d ∈ definitions, Definition.DistinctKeys d := by
  have hwritten := List.forall₂_iff_zip.mp (ofModule_written m)
  refine ⟨?_, ?_, fun text definitions => Bundle.ofText_distinct⟩
  · refine List.forall₂_iff_zip.mpr ⟨hwritten.1, ?_⟩
    intro fields r hzip
    have hnames := hwritten.2 hzip
    refine ⟨recordText_of_mem (List.of_mem_zip hzip).2, hnames, ?_⟩
    rw [hnames]
    exact namesFor_written fields
  · intro definitions modules hdistinct hok hm
    refine List.forall₂_iff_zip.mpr ⟨hwritten.1, ?_⟩
    intro fields r hzip
    have hfields := TypedModule.objects_distinct hdistinct hok hm fields (List.of_mem_zip hzip).1
    rw [hwritten.2 hzip]
    exact written_nodup_iff (namesFor_written fields) hfields

/-- The empty property is written under the name of another one. -/
theorem empty_property_repeats :
    ∃ m : TypedModule, (ofModule m).records.map writtenNames = [["field", "field"]] ∧
      m.objects.map (·.map Field.name) = [["", "field"]] := by
  let spec : Node := .object [.mk "" .string false none, .mk "field" .string false none]
  let m : TypedModule := ⟨"example.com", "v1",
    [⟨"Widget", "widgets", .namespaced, none, [⟨"WidgetSpec", "spec", false, none, spec⟩]⟩]⟩
  have hwritten : (ofModule m).records.map writtenNames = m.objects.map namesFor := by
    rw [← List.forall₂_eq_eq_eq, List.forall₂_map_left_iff, List.forall₂_map_right_iff]
    exact (ofModule_written m).flip
  refine ⟨m, hwritten.trans ?_, rfl⟩
  decide +kernel

end Layout
end CrdBindings
