import CrdBindings.Layout.Rendering
import CrdBindings.Proofs.Ident
import CrdBindings.Proofs.Layout.Laid
import CrdBindings.Proofs.Layout.Line

/-!
What the layout of a module may hold where no literal and no comment protects it: identifiers, and
type texts made of them. All code of its lines is plain.
-/

namespace CrdBindings
set_option autoImplicit false

namespace Layout

/-- A type text has the characters of type identifiers and those that put types together. -/
def IsTypeText (text : String) : Prop :=
  ∀ c ∈ text.toList, Ident.isWord c ∨ c ∈ ['<', '>', ',', ' ', ':']

/-- Documentation lines end where they end. -/
def IsDoc (doc : List String) : Prop := ∀ line ∈ doc, '\n' ∉ line.toList

theorem isTypeText_of_isType {text : String} (h : Ident.IsType text) : IsTypeText text :=
  fun c hc => .inl (h c hc)

theorem IsTypeText.append {a b : String} (ha : IsTypeText a) (hb : IsTypeText b) :
    IsTypeText (a ++ b) := by
  intro c hc
  rw [String.toList_append] at hc
  exact (List.mem_append.mp hc).elim (ha c) (hb c)

instance (text : String) : Decidable (IsTypeText text) := List.decidableBAll _ text.toList

theorem isPlain_of_isPart {c : Char} (h : Ident.isPart c) : isPlain c := by
  rw [isPlain_iff]
  refine ⟨?_, ?_, ?_⟩
  · rintro rfl
    exact absurd h (by decide)
  · rintro rfl
    exact absurd h (by decide)
  · rintro rfl
    exact absurd h (by decide)

theorem isPlain_of_isType {text : String} (h : Ident.IsType text) : IsPlain text :=
  fun c hc => isPlain_of_isPart (Ident.isPart_of_isWord (h c hc))

theorem isPlain_of_isTypeText {text : String} (h : IsTypeText text) : IsPlain text := by
  intro c hc
  rcases h c hc with hword | hmark
  · exact isPlain_of_isPart (Ident.isPart_of_isWord hword)
  · exact List.all_eq_true.mp (by decide : ['<', '>', ',', ' ', ':'].all isPlain) c hmark

theorem isPlain_of_isField {ident : String} (h : Ident.IsField ident) : IsPlain ident := by
  intro c hc
  rcases Ident.mem_of_mem_dropRaw hc with rfl | rfl | hbare
  · rfl
  · rfl
  · exact isPlain_of_isPart (h.parts c (by rwa [Ident.bare, String.toList_ofList]))

end Layout

structure FieldDecl.Sanitised (f : FieldDecl) : Prop where
  ident : Ident.IsField f.ident
  innerType : Layout.IsTypeText f.innerType
  doc : Layout.IsDoc f.doc

structure ResourceDecl.Sanitised (r : ResourceDecl) : Prop where
  name : Ident.IsType r.name
  doc : Layout.IsDoc r.doc
  spec : ∀ f ∈ r.spec, f.Sanitised
  status : ∀ f ∈ r.status, f.Sanitised

structure RecordDecl.Sanitised (r : RecordDecl) : Prop where
  name : Ident.IsType r.name
  doc : Layout.IsDoc r.doc
  fields : ∀ f ∈ r.fields, f.Sanitised

structure ChoiceDecl.Sanitised (c : ChoiceDecl) : Prop where
  name : Ident.IsType c.name
  doc : Layout.IsDoc c.doc
  variants : ∀ v ∈ c.variants, Ident.IsType v.ident

/-- An item whose identifiers and type texts are clean, and whose documentation is in lines. -/
def Item.Sanitised : Item → Prop
  | .resource decl => decl.Sanitised
  | .record decl => decl.Sanitised
  | .choice decl => decl.Sanitised

namespace Layout

def Sanitised (l : Layout) : Prop := ∀ item ∈ l.items, item.Sanitised

theorem feed_not_mem_linesFrom (line cs : List Char) (h : '\n' ∉ line) :
    ∀ l ∈ Text.linesFrom line cs, '\n' ∉ l := by
  induction line, cs using Text.linesFrom.induct with
  | case1 line hempty =>
    simp [Text.linesFrom, hempty]
  | case2 line hempty =>
    simpa [Text.linesFrom, hempty] using h
  | case3 line cs ih =>
    intro l hl
    rcases List.mem_cons.mp hl with rfl | hl
    · intro hmem
      have hdrop : '\n' ∈ Text.dropReturn line := List.mem_reverse.mp hmem
      unfold Text.dropReturn at hdrop
      split at hdrop
      · exact h (List.mem_cons_of_mem _ hdrop)
      · exact h hdrop
    · exact ih List.not_mem_nil l hl
  | case4 line c cs hc ih =>
    rw [Text.linesFrom.eq_3 line c cs hc]
    have hfeed : c ≠ '\n' := hc
    exact ih fun hmem => (List.mem_cons.mp hmem).elim (fun he => hfeed he.symm) h

theorem docLines_isDoc (description : Option String) : IsDoc (docLines description) := by
  cases description with
  | none => exact fun _ h => absurd h List.not_mem_nil
  | some text =>
    intro line hline
    obtain ⟨l, hl, rfl⟩ := List.mem_map.mp hline
    rw [String.toList_ofList]
    intro hmem
    have hfront := (List.dropWhile_suffix _).subset (List.mem_reverse.mp hmem)
    have hmid := (List.dropWhile_suffix _).subset (List.mem_reverse.mp hfront)
    exact feed_not_mem_linesFrom [] text.toList List.not_mem_nil l hl hmid

theorem fieldDecl_sanitised {ident innerType : String} (name : String) (required : Bool)
    (description : Option String) (hident : Ident.IsField ident) (htype : IsTypeText innerType) :
    (fieldDecl ident name innerType required description).Sanitised :=
  ⟨hident, htype, docLines_isDoc description⟩

theorem variants_sanitised (idents : Names) (values : List String) :
    ∀ v ∈ variants idents values, Ident.IsType v.ident := by
  induction values generalizing idents with
  | nil => exact fun _ h => absurd h List.not_mem_nil
  | cons value values ih =>
    intro v hv
    rcases List.mem_cons.mp hv with rfl | hv
    · exact Names.claim_isType idents (Ident.type_isType value)
    · exact ih _ v hv

structure Laid.Sanitised (laid : Laid) : Prop where
  type : IsTypeText laid.type
  items : ∀ item ∈ laid.items, item.Sanitised

theorem layEnumeration_sanitised (names : Names) {candidate : String}
    (description : Option String) (values : List Json) (h : Ident.IsType candidate) :
    (layEnumeration names candidate description values).Sanitised := by
  unfold layEnumeration
  split
  · have hname := Names.claim_isType names h
    refine ⟨isTypeText_of_isType hname, ?_⟩
    intro item hitem
    obtain rfl := List.mem_singleton.mp hitem
    exact ⟨hname, docLines_isDoc description, variants_sanitised _ _⟩
  · refine ⟨?_, fun _ hitem => absurd hitem List.not_mem_nil⟩
    show IsTypeText (if values.all isSmallInt then "i64" else "serde_json::Value")
    split
    · decide
    · decide

theorem listType_isTypeText {type : String} (h : IsTypeText type) : IsTypeText (listType type) := by
  have hopen : IsTypeText "Vec<" := by decide
  have hclose : IsTypeText ">" := by decide
  exact (hopen.append h).append hclose

theorem mapType_isTypeText {type : String} (h : IsTypeText type) : IsTypeText (mapType type) := by
  have hopen : IsTypeText "BTreeMap<String, " := by decide
  have hclose : IsTypeText ">" := by decide
  exact (hopen.append h).append hclose

theorem layNode_and_layFields_sanitised :
    (∀ (node : Node) (names : Names) (candidate : String) (description : Option String),
      Ident.IsType candidate → (layNode names candidate description node).Sanitised) ∧
    ∀ (fields : List Field) (names idents : Names) (parent : String), Ident.IsType parent →
      (∀ f ∈ (layFields names idents parent fields).1, f.Sanitised) ∧
        ∀ item ∈ (layFields names idents parent fields).2.1, item.Sanitised := by
  apply Node.tree_induction
  case object =>
    intro fields ih names candidate description h
    have hname := Names.claim_isType names h
    obtain ⟨hdecls, hitems⟩ := ih (names.claim candidate).2 .empty _ hname
    refine ⟨isTypeText_of_isType hname, ?_⟩
    intro item hitem
    rcases List.mem_cons.mp hitem with rfl | hitem
    · exact ⟨hname, docLines_isDoc description, hdecls⟩
    · exact hitems item hitem
  case array =>
    intro inner ih names candidate description h
    have hinner := ih names candidate none h
    exact ⟨listType_isTypeText hinner.type, hinner.items⟩
  case map =>
    intro inner ih names candidate description h
    have hinner := ih names candidate none h
    exact ⟨mapType_isTypeText hinner.type, hinner.items⟩
  case enumeration =>
    intro values names candidate description h
    exact layEnumeration_sanitised names description values h
  case leaf =>
    intro node hleaf names candidate description h
    have htype : IsTypeText (layNode names candidate description node).type := by
      cases hleaf <;> simp only [layNode] <;> decide
    have hitems : (layNode names candidate description node).items = [] := by
      cases hleaf <;> rfl
    exact ⟨htype, fun item hitem => absurd (hitems ▸ hitem) List.not_mem_nil⟩
  case nil =>
    intro names idents parent h
    exact ⟨fun _ hf => absurd hf List.not_mem_nil, fun _ hitem => absurd hitem List.not_mem_nil⟩
  case cons =>
    intro name node required description fields ihNode ihFields names idents parent h
    have hnode := ihNode names (parent ++ Ident.type name) description
      (h.append (Ident.type_isType name))
    obtain ⟨hdecls, hitems⟩ := ihFields (layNode names (parent ++ Ident.type name) description
      node).names (idents.claim (Ident.field name)).2 parent h
    refine ⟨?_, ?_⟩
    · intro f hf
      rcases List.mem_cons.mp hf with rfl | hf
      · exact fieldDecl_sanitised name required description
          (Names.claim_isField idents (Ident.field_isField name)) hnode.type
      · exact hdecls f hf
    · intro item hitem
      exact (List.mem_append.mp hitem).elim (hnode.items item) (hitems item)

theorem layTypes_sanitised (ts : List NamedType) (names : Names) :
    (∀ d ∈ (layTypes names ts).1, d.2.Sanitised) ∧
      ∀ item ∈ (layTypes names ts).2.1, item.Sanitised := by
  induction ts generalizing names with
  | nil =>
    exact ⟨fun _ hd => absurd hd List.not_mem_nil, fun _ hitem => absurd hitem List.not_mem_nil⟩
  | cons t ts ih =>
    have hnode := layNode_and_layFields_sanitised.1 t.node names (Ident.type t.name) t.description
      (Ident.type_isType t.name)
    obtain ⟨hdecls, hitems⟩ := ih (layNode names (Ident.type t.name) t.description t.node).names
    refine ⟨?_, ?_⟩
    · intro d hd
      rcases List.mem_cons.mp hd with rfl | hd
      · exact fieldDecl_sanitised t.property t.required t.description
          (Ident.field_isField t.property) hnode.type
      · exact hdecls d hd
    · intro item hitem
      exact (List.mem_append.mp hitem).elim (hnode.items item) (hitems item)

theorem lastField?_mem {test : String → Bool} {decls : List (String × FieldDecl)} {f : FieldDecl}
    (h : lastField? test decls = some f) : ∃ d ∈ decls, d.2 = f := by
  obtain ⟨d, hd, rfl⟩ := Option.map_eq_some_iff.mp h
  exact ⟨d, List.mem_of_mem_filter (List.mem_of_getLast? hd), rfl⟩

theorem layResources_sanitised (rs : List (String × Resource)) (names : Names)
    (h : ∀ entry ∈ rs, Ident.IsType entry.1) :
    ∀ item ∈ (layResources names rs).1, item.Sanitised := by
  induction rs generalizing names with
  | nil => exact fun _ hitem => absurd hitem List.not_mem_nil
  | cons entry rs ih =>
    obtain ⟨name, r⟩ := entry
    obtain ⟨hdecls, hitems⟩ := layTypes_sanitised r.types names
    have hfield : ∀ test, ∀ f ∈ lastField? test (layTypes names r.types).1, f.Sanitised := by
      intro test f hf
      obtain ⟨d, hd, rfl⟩ := lastField?_mem hf
      exact hdecls d hd
    intro item hitem
    rcases List.mem_cons.mp hitem with rfl | hitem
    · exact ⟨h _ List.mem_cons_self, docLines_isDoc r.description, hfield (· == "spec"),
        hfield (· != "spec")⟩
    · rcases List.mem_append.mp hitem with hitem | hitem
      · exact hitems item hitem
      · exact ih _ (fun e he => h e (List.mem_cons_of_mem _ he)) item hitem

/-- Whatever its texts are, a module has a layout with clean identifiers. -/
theorem ofModule_sanitised (m : TypedModule) : (ofModule m).Sanitised := by
  have hnames : ∀ name ∈ (kindNames m).1, Ident.IsType name := by
    apply Names.claimAll_of_claim Names.claim_isType
    intro wanted hwanted
    obtain ⟨r, -, rfl⟩ := List.mem_map.mp hwanted
    exact Ident.type_isType r.kind
  intro item hitem
  rw [ofModule_eq] at hitem
  refine layResources_sanitised _ _ ?_ item hitem
  intro entry hentry
  exact hnames _ (List.of_mem_zip hentry).1

end Layout
end CrdBindings
