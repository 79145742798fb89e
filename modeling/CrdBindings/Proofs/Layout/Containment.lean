import CrdBindings.Proofs.Layout.Plain

/-!
Where the texts of a module go in its file. Only the group, the version and the kinds are written
into comments as they are; a line feed in one of them ends the comment, and nothing else does.
-/

namespace CrdBindings
set_option autoImplicit false

namespace Layout

/-- A text that tells no more than whether it is empty. -/
def blank (text : String) : String := if text.isEmpty then "" else "_"

end Layout

namespace FieldDecl

/-- A field without the texts that were written for it in a schema. -/
def redacted (f : FieldDecl) : FieldDecl :=
  { f with rename := f.rename.map Layout.blank, doc := f.doc.map fun _ => "" }

def anonymous (f : FieldDecl) : FieldDecl := { f with ident := "", innerType := "" }

def relaxed (f : FieldDecl) : FieldDecl := { f with required := false }

end FieldDecl

/-- A resource without the texts of the document that it comes from, under its name. -/
def ResourceDecl.redacted (r : ResourceDecl) : ResourceDecl :=
  { r with
    kind := "", plural := "", doc := r.doc.map fun _ => ""
    spec := r.spec.map FieldDecl.redacted, status := r.status.map FieldDecl.redacted }

def ResourceDecl.anonymous (r : ResourceDecl) : ResourceDecl :=
  { r with
    name := "", namespaced := true
    spec := r.spec.map FieldDecl.anonymous, status := r.status.map FieldDecl.anonymous }

namespace RecordDecl

def redacted (r : RecordDecl) : RecordDecl :=
  { r with doc := r.doc.map fun _ => "", fields := r.fields.map FieldDecl.redacted }

def anonymous (r : RecordDecl) : RecordDecl :=
  { r with name := "", fields := r.fields.map FieldDecl.anonymous }

theorem redacted_required (r : RecordDecl) :
    r.redacted.required = r.required.map FieldDecl.redacted := by
  simp only [required, redacted, List.filter_map]
  rfl

theorem anonymous_required (r : RecordDecl) :
    r.anonymous.required = r.required.map FieldDecl.anonymous := by
  simp only [required, anonymous, List.filter_map]
  rfl

@[simp] theorem redacted_isDefaultable (r : RecordDecl) :
    r.redacted.isDefaultable = r.isDefaultable := by
  simp only [isDefaultable, redacted_required, List.isEmpty_map]

@[simp] theorem anonymous_isDefaultable (r : RecordDecl) :
    r.anonymous.isDefaultable = r.isDefaultable := by
  simp only [isDefaultable, anonymous_required, List.isEmpty_map]

end RecordDecl

def ChoiceDecl.redacted (c : ChoiceDecl) : ChoiceDecl :=
  { c with
    doc := c.doc.map fun _ => ""
    variants := c.variants.map fun v => { v with value := "" } }

def ChoiceDecl.anonymous (c : ChoiceDecl) : ChoiceDecl :=
  { c with name := "", variants := c.variants.map fun v => { v with ident := "" } }

namespace Item

def redacted : Item → Item
  | resource d => resource d.redacted
  | record d => record d.redacted
  | choice d => choice d.redacted

def anonymous : Item → Item
  | resource d => resource d.anonymous
  | record d => record d.anonymous
  | choice d => choice d.anonymous

/-- An item with nothing left but its shape. -/
def skeleton (item : Item) : Item := item.redacted.anonymous

/-- An item that does not tell which fields of a record are required. -/
def relaxed : Item → Item
  | record d => record { d with fields := d.fields.map FieldDecl.relaxed }
  | item => item

def requiredCount : Item → Nat
  | record d => d.required.length
  | _ => 0

def fieldCount : Item → Nat
  | record d => d.fields.length
  | _ => 0

/-- The line feeds in the texts of an item that are written into a comment as they are. -/
def exposed : Item → Nat
  | resource d => Layout.feeds d.kind
  | _ => 0

end Item

namespace Layout

def redacted (l : Layout) : Layout :=
  { l with group := "", version := "", items := l.items.map Item.redacted }

def skeleton (l : Layout) : Layout :=
  { l with group := "", version := "", items := l.items.map Item.skeleton }

/-- The layouts have the same items, with as many documentation lines, fields, required fields and
variants each, the same types and names present or absent, and the same imports. -/
structure SameOutline (l₁ l₂ : Layout) : Prop where
  items : l₁.items.map (·.skeleton.relaxed) = l₂.items.map (·.skeleton.relaxed)
  required : l₁.items.map Item.requiredCount = l₂.items.map Item.requiredCount
  usesMap : l₁.usesMap = l₂.usesMap
  usesIntOrString : l₁.usesIntOrString = l₂.usesIntOrString

def exposed (l : Layout) : Nat :=
  feeds l.group + feeds l.version + (l.items.map Item.exposed).sum

theorem sum_flatMap {α : Type} (f : Line → Nat) (g : α → List Line) (as : List α) :
    ((as.flatMap g).map f).sum = (as.map fun a => ((g a).map f).sum).sum := by
  induction as with
  | nil => rfl
  | cons a as ih =>
    simp only [List.flatMap_cons, List.map_append, List.sum_append, ih, List.map_cons,
      List.sum_cons]

@[simp] theorem feeds_code (pieces : List Piece) : (Line.code pieces).feeds = 0 := rfl

theorem feeds_docLines (indent : String) {doc : List String} (h : IsDoc doc) :
    ((doc.map (docLine indent)).map Line.feeds).sum = 0 := by
  induction doc with
  | nil => rfl
  | cons line doc ih =>
    have hline : feeds line = 0 := List.count_eq_zero.mpr (h line List.mem_cons_self)
    have hmark : feeds "/" = 0 ∧ feeds "/ " = 0 := by decide
    have hfeeds : (docLine indent line).feeds = 0 := by
      unfold docLine
      split
      · exact hmark.1
      · rw [Line.feeds, feeds_append, hmark.2, hline]
    rw [List.map_cons, List.map_cons, List.sum_cons, hfeeds,
      ih fun l hl => h l (List.mem_cons_of_mem line hl)]

theorem feeds_newResourceLines (r : ResourceDecl) :
    ((newResourceLines r).map Line.feeds).sum = feeds r.kind := by
  have hhead : feeds "/ Create a `" = 0 ∧ feeds "` named `name`" = 0 := by decide
  have hspec : ((r.spec.elim [] fun f => [code (if f.required then "            spec,"
      else "            spec: Some(spec),")]).map Line.feeds).sum = 0 := by
    cases r.spec <;> rfl
  have hstatus : ((if r.status.isSome then [code "            status: None,"] else []).map
      Line.feeds).sum = 0 := by
    cases r.status <;> rfl
  have hfixed : (commonValues.map Line.feeds).sum = 0 ∧ (closingLines.map Line.feeds).sum = 0 :=
    ⟨rfl, rfl⟩
  simp only [newResourceLines, List.map_append, List.sum_append, hspec, hstatus, hfixed,
    List.map_cons, List.map_nil, List.sum_cons, List.sum_nil, Line.feeds, feeds_append, hhead,
    Nat.add_zero, Nat.zero_add]

theorem feeds_resourceLines (v : String) {r : ResourceDecl} (h : r.Sanitised) :
    ((resourceLines v r).map Line.feeds).sum = feeds r.kind := by
  have hspec : ((r.spec.elim [] specField).map Line.feeds).sum = 0 := by
    cases r.spec with
    | none => rfl
    | some f => cases hrequired : f.required <;> simp [specField, hrequired, absentAttribute]
  have hstatus : ((r.status.elim [] statusField).map Line.feeds).sum = 0 := by
    cases r.status <;> rfl
  have hfixed : (commonFields.map Line.feeds).sum = 0 ∧
      ((constantLines v r).map Line.feeds).sum = 0 := ⟨rfl, rfl⟩
  simp only [resourceLines, List.map_append, List.sum_append, feeds_docLines "" h.doc, hspec,
    hstatus, hfixed, feeds_newResourceLines, code, List.map_cons, List.map_nil, List.sum_cons,
    List.sum_nil, feeds_code, Nat.add_zero, Nat.zero_add]

theorem feeds_fieldLines {f : FieldDecl} (h : f.Sanitised) :
    ((fieldLines f).map Line.feeds).sum = 0 := by
  have hrename : ((renameLines f.rename).map Line.feeds).sum = 0 := by
    cases f.rename with
    | none => rfl
    | some name =>
      simp only [renameLines, Option.elim]
      split <;> rfl
  have habsent : ((if f.required then [] else [absentAttribute]).map Line.feeds).sum = 0 := by
    cases f.required <;> rfl
  simp only [fieldLines, List.map_append, List.sum_append, feeds_docLines "    " h.doc, hrename,
    habsent, List.map_cons, List.map_nil, List.sum_cons, List.sum_nil, feeds_code,
    Nat.add_zero]

theorem feeds_recordLines {r : RecordDecl} (h : r.Sanitised) :
    ((recordLines r).map Line.feeds).sum = 0 := by
  have hfields : ((r.fields.flatMap fieldLines).map Line.feeds).sum = 0 := by
    rw [sum_flatMap, List.sum_eq_zero_iff_forall_eq_nat]
    intro n hn
    obtain ⟨f, hf, rfl⟩ := List.mem_map.mp hn
    exact feeds_fieldLines (h.fields f hf)
  have hnew : ((if r.isDefaultable then [] else newRecordLines r).map Line.feeds).sum = 0 := by
    split
    · rfl
    · have hvalues : ((r.fields.map fun f =>
          Line.code ["            ", f.ident, if f.required then "," else ": None,"]).map
            Line.feeds).sum = 0 := by
        simp [Function.comp_def]
      have hclosing : (closingLines.map Line.feeds).sum = 0 := rfl
      simp only [newRecordLines, List.map_append, List.sum_append, hvalues, hclosing, code,
        List.map_cons, List.map_nil, List.sum_cons, List.sum_nil, feeds_code, Nat.add_zero]
  simp only [recordLines, List.map_append, List.sum_append, feeds_docLines "" h.doc, hfields, hnew,
    code, List.map_cons, List.map_nil, List.sum_cons, List.sum_nil, feeds_code,
    Nat.add_zero]

theorem feeds_choiceLines {c : ChoiceDecl} (h : c.Sanitised) :
    ((choiceLines c).map Line.feeds).sum = 0 := by
  have hvariants : ((c.variants.flatMap fun v =>
      [renameAttribute v.value, .code ["    ", v.ident, ","]]).map Line.feeds).sum = 0 := by
    rw [sum_flatMap, List.sum_eq_zero_iff_forall_eq_nat]
    intro n hn
    obtain ⟨v, -, rfl⟩ := List.mem_map.mp hn
    rfl
  simp only [choiceLines, List.map_append, List.sum_append, feeds_docLines "" h.doc, hvariants,
    code, List.map_cons, List.map_nil, List.sum_cons, List.sum_nil, feeds_code,
    Nat.add_zero]

theorem feeds_itemLines (v : String) {item : Item} (h : item.Sanitised) :
    ((itemLines v item).map Line.feeds).sum = item.exposed := by
  cases item with
  | resource d => exact feeds_resourceLines v h
  | record d => exact feeds_recordLines h
  | choice d => exact feeds_choiceLines h

theorem feeds_headerLines (l : Layout) :
    (l.headerLines.map Line.feeds).sum = feeds l.group + feeds l.version := by
  have hhead : feeds "! Types for the `" = 0 ∧ feeds "` API group/version." = 0 ∧
      feeds "/" = 0 := by decide
  have hversion : feeds l.apiVersion = feeds l.group + feeds l.version := by
    show feeds (l.group ++ "/" ++ l.version) = _
    rw [feeds_append, feeds_append, hhead.2.2, Nat.add_zero]
  have hfixed : feeds "!" = 0 ∧ feeds "! Generated by crdgen. Do not edit by hand." = 0 := by decide
  have hmap : ((if l.usesMap then [Line.code ["use std::collections::BTreeMap;"]] else []).map
      Line.feeds).sum = 0 := by
    cases l.usesMap <;> rfl
  simp only [headerLines, List.map_append, List.sum_append, hmap, code, List.map_cons,
    List.map_nil, List.sum_cons, List.sum_nil, Line.feeds, feeds_append, hhead, hfixed, hversion,
    Nat.add_zero, Nat.zero_add]

/-- The comments of a rendering have as many line feeds inside as the exposed texts. -/
theorem feeds_lines {l : Layout} (h : l.Sanitised) : (l.lines.map Line.feeds).sum = l.exposed := by
  have hitems : l.items.map (fun item => ((code "" :: itemLines l.apiVersion item).map
      Line.feeds).sum) = l.items.map Item.exposed := by
    apply List.map_congr_left
    intro item hitem
    rw [List.map_cons, List.sum_cons, feeds_itemLines _ (h item hitem), code, feeds_code,
      Nat.zero_add]
  rw [lines, List.map_append, List.sum_append, feeds_headerLines, sum_flatMap, hitems, exposed]

theorem blank_isEmpty (text : String) : (blank text).isEmpty = text.isEmpty := by
  unfold blank
  split
  · rename_i h
    exact h.symm
  · rename_i h
    rw [Bool.not_eq_true] at h
    rw [h]
    rfl

theorem redacted_isDoc (doc : List String) : IsDoc (doc.map fun _ => "") := by
  intro line hline
  obtain ⟨_, -, rfl⟩ := List.mem_map.mp hline
  exact List.not_mem_nil

theorem redacted_fieldSanitised {f : FieldDecl} (h : f.Sanitised) : f.redacted.Sanitised :=
  ⟨h.ident, h.innerType, redacted_isDoc f.doc⟩

theorem redacted_itemSanitised {item : Item} (h : item.Sanitised) : item.redacted.Sanitised := by
  cases item with
  | resource d =>
    refine ⟨h.name, redacted_isDoc d.doc, ?_, ?_⟩
    · intro f hf
      obtain ⟨g, hg, rfl⟩ := Option.map_eq_some_iff.mp hf
      exact redacted_fieldSanitised (h.spec g hg)
    · intro f hf
      obtain ⟨g, hg, rfl⟩ := Option.map_eq_some_iff.mp hf
      exact redacted_fieldSanitised (h.status g hg)
  | record d =>
    refine ⟨h.name, redacted_isDoc d.doc, ?_⟩
    intro f hf
    obtain ⟨g, hg, rfl⟩ := List.mem_map.mp hf
    exact redacted_fieldSanitised (h.fields g hg)
  | choice d =>
    refine ⟨h.name, redacted_isDoc d.doc, ?_⟩
    intro v hv
    obtain ⟨w, hw, rfl⟩ := List.mem_map.mp hv
    exact h.variants w hw

theorem redacted_sanitised {l : Layout} (h : l.Sanitised) : l.redacted.Sanitised := by
  intro item hitem
  obtain ⟨i, hi, rfl⟩ := List.mem_map.mp hitem
  exact redacted_itemSanitised (h i hi)

theorem redacted_exposed (l : Layout) : l.redacted.exposed = 0 := by
  have hitems : ∀ items : List Item, ((items.map Item.redacted).map Item.exposed).sum = 0 := by
    intro items
    induction items with
    | nil => rfl
    | cons item items ih =>
      rw [List.map_cons, List.map_cons, List.sum_cons, ih]
      cases item <;> rfl
  have hempty : feeds "" = 0 := rfl
  show feeds "" + feeds "" + _ = 0
  rw [hempty, Nat.zero_add]
  exact hitems l.items

section Redacted

/-!
A view of lines that sees neither what is in a comment nor what is in a literal cannot tell a
layout from one without the texts of its document.
-/

variable {β : Type} {view : Line → β}
  (hcomment : ∀ indent a b, view (.comment indent a) = view (.comment indent b))
  (hliteral : ∀ x y a b, view (.code [x, .literal a, y]) = view (.code [x, .literal b, y]))

include hliteral in
theorem constantLines_redacted (v v' : String) (r : ResourceDecl) :
    (constantLines v' r.redacted).map view = (constantLines v r).map view := by
  simp only [constantLines, ResourceDecl.redacted, List.map_cons]
  rw [hliteral _ _ v' v, hliteral _ _ "" r.kind, hliteral _ _ "" r.plural]
  rfl

include hcomment

theorem docLines_redacted (indent : String) (doc : List String) :
    ((doc.map fun _ => "").map (docLine indent)).map view =
      (doc.map (docLine indent)).map view := by
  simp only [List.map_map]
  exact List.map_congr_left fun line _ => hcomment indent _ _

theorem newResourceLines_redacted (r : ResourceDecl) :
    (newResourceLines r.redacted).map view = (newResourceLines r).map view := by
  obtain ⟨name, kind, plural, namespaced, doc, spec, status⟩ := r
  have hkind := hcomment "    " ("/ Create a `" ++ "" ++ "` named `name`")
    ("/ Create a `" ++ kind ++ "` named `name`")
  cases spec <;> cases status <;>
    · simp only [newResourceLines, ResourceDecl.redacted, List.map_append, List.map_cons, hkind]
      rfl

include hliteral

theorem resourceLines_redacted (v v' : String) (r : ResourceDecl) :
    (resourceLines v' r.redacted).map view = (resourceLines v r).map view := by
  have hspec : r.redacted.spec.elim [] specField = r.spec.elim [] specField := by
    cases hspec : r.spec <;> simp only [ResourceDecl.redacted, hspec] <;> rfl
  have hstatus : r.redacted.status.elim [] statusField = r.status.elim [] statusField := by
    cases hstatus : r.status <;> simp only [ResourceDecl.redacted, hstatus] <;> rfl
  have hdoc := docLines_redacted hcomment "" r.doc
  have hconstants := constantLines_redacted hliteral v v' r
  have hnew := newResourceLines_redacted hcomment r
  simp only [resourceLines, List.map_append, hspec, hstatus, hconstants, hnew]
  simp only [ResourceDecl.redacted, hdoc]

theorem fieldLines_redacted (f : FieldDecl) :
    (fieldLines f.redacted).map view = (fieldLines f).map view := by
  have hdoc := docLines_redacted hcomment "    " f.doc
  have hrename : (renameLines (f.rename.map blank)).map view = (renameLines f.rename).map view := by
    cases f.rename with
    | none => rfl
    | some name =>
      simp only [renameLines, Option.map_some, Option.elim, blank_isEmpty]
      split
      · rfl
      · exact congrArg (fun line => [line]) (hliteral _ _ _ _)
  simp only [fieldLines, FieldDecl.redacted, List.map_append, hdoc, hrename]
  rfl

theorem recordLines_redacted (r : RecordDecl) :
    (recordLines r.redacted).map view = (recordLines r).map view := by
  have hdoc := docLines_redacted hcomment "" r.doc
  have hfields : (r.redacted.fields.flatMap fieldLines).map view =
      (r.fields.flatMap fieldLines).map view := by
    simp only [RecordDecl.redacted, List.flatMap_map, List.map_flatMap,
      fieldLines_redacted hcomment hliteral]
  have hnew : newRecordLines r.redacted = newRecordLines r := by
    simp only [newRecordLines, RecordDecl.redacted_required, List.map_map]
    simp only [RecordDecl.redacted, List.map_map]
    rfl
  simp only [recordLines, List.map_append, hfields, RecordDecl.redacted_isDefaultable, hnew]
  simp only [RecordDecl.redacted, hdoc]

theorem choiceLines_redacted (c : ChoiceDecl) :
    (choiceLines c.redacted).map view = (choiceLines c).map view := by
  have hdoc := docLines_redacted hcomment "" c.doc
  have hvalue : ∀ a b, view (renameAttribute a) = view (renameAttribute b) := hliteral _ _
  have hvariants : ∀ vs : List Variant,
      ((vs.map fun v => { v with value := "" }).flatMap fun v =>
        [renameAttribute v.value, .code ["    ", v.ident, ","]]).map view =
      (vs.flatMap fun v => [renameAttribute v.value, .code ["    ", v.ident, ","]]).map view := by
    intro vs
    induction vs with
    | nil => rfl
    | cons v vs ih =>
      simp only [List.map_cons, List.flatMap_cons, List.map_append, List.map_nil, ih,
        hvalue "" v.value]
  simp only [choiceLines, ChoiceDecl.redacted, List.map_append, hdoc, hvariants]

theorem itemLines_redacted (v v' : String) (item : Item) :
    (itemLines v' item.redacted).map view = (itemLines v item).map view := by
  cases item with
  | resource d => exact resourceLines_redacted hcomment hliteral v v' d
  | record d => exact recordLines_redacted hcomment hliteral d
  | choice d => exact choiceLines_redacted hcomment hliteral d

theorem lines_redacted (l : Layout) : l.redacted.lines.map view = l.lines.map view := by
  have hheader : l.redacted.headerLines.map view = l.headerLines.map view := by
    simp only [headerLines, List.map_append, List.map_cons, hcomment "" _ ("! Types for the `" ++
      l.apiVersion ++ "` API group/version.")]
    rfl
  have hitems : ∀ items : List Item,
      ((items.map Item.redacted).flatMap fun item =>
        code "" :: itemLines l.redacted.apiVersion item).map view =
      (items.flatMap fun item => code "" :: itemLines l.apiVersion item).map view := by
    intro items
    induction items with
    | nil => rfl
    | cons item items ih =>
      simp only [List.map_cons, List.flatMap_cons, List.map_append, ih,
        itemLines_redacted hcomment hliteral l.apiVersion]
  rw [lines, lines, List.map_append, List.map_append, hheader]
  exact congrArg (l.headerLines.map view ++ ·) (hitems l.items)

end Redacted

theorem feeds_eq_zero {l : Layout} (h : l.Sanitised) (hexposed : l.exposed = 0) :
    ∀ line ∈ l.lines, line.feeds = 0 := by
  intro line hline
  have hsum := (feeds_lines h).trans hexposed
  exact List.sum_eq_zero_iff_forall_eq_nat.mp hsum _ (List.mem_map_of_mem hline)

/-- The code of a rendering is what it would be without the texts of the document. -/
theorem codeText_render {l : Layout} (h : l.Sanitised) (hexposed : l.exposed = 0) :
    codeText l.render = codeText l.redacted.render := by
  have hredacted := redacted_sanitised h
  have hbare : l.redacted.lines.map Line.bare = l.lines.map Line.bare :=
    lines_redacted (fun _ _ _ => rfl) (fun _ _ _ _ => rfl) l
  have htext : ∀ ls : List Line,
      Line.bareText ls = String.join ((ls.map Line.bare).map (· ++ "\n")) := by
    intro ls
    rw [List.map_map]
    rfl
  rw [render, render, Line.codeText_textOf (lines_plain h) (feeds_eq_zero h hexposed),
    Line.codeText_textOf (lines_plain hredacted)
      (feeds_eq_zero hredacted (redacted_exposed l)), htext, htext, hbare]

theorem resourceLines_anonymous (v : String) (r : ResourceDecl) :
    (resourceLines v r.anonymous).map Line.isComment = (resourceLines v r).map Line.isComment := by
  obtain ⟨name, kind, plural, namespaced, doc, spec, status⟩ := r
  have hspec : ∀ f : FieldDecl, (specField f.anonymous).map Line.isComment =
      (specField f).map Line.isComment := by
    intro f
    cases hrequired : f.required <;> simp only [specField, FieldDecl.anonymous, hrequired] <;> rfl
  cases spec <;> cases status <;>
    · simp only [resourceLines, ResourceDecl.anonymous, List.map_append, Option.map_some,
        Option.elim, hspec]
      rfl

theorem recordLines_anonymous (r : RecordDecl) :
    (recordLines r.anonymous).map Line.isComment = (recordLines r).map Line.isComment := by
  have hfield : ∀ f : FieldDecl, (fieldLines f.anonymous).map Line.isComment =
      (fieldLines f).map Line.isComment := by
    intro f
    simp only [fieldLines, FieldDecl.anonymous, List.map_append]
    rfl
  have hfields : (r.anonymous.fields.flatMap fieldLines).map Line.isComment =
      (r.fields.flatMap fieldLines).map Line.isComment := by
    simp only [RecordDecl.anonymous, List.flatMap_map, List.map_flatMap, hfield]
  have hnew : (newRecordLines r.anonymous).map Line.isComment =
      (newRecordLines r).map Line.isComment := by
    simp only [newRecordLines, RecordDecl.anonymous, List.map_append, List.map_map]
    rfl
  simp only [recordLines, List.map_append, hfields, RecordDecl.anonymous_isDefaultable]
  split
  · rfl
  · rw [hnew]
    rfl

theorem choiceLines_anonymous (c : ChoiceDecl) :
    (choiceLines c.anonymous).map Line.isComment = (choiceLines c).map Line.isComment := by
  have hvariants : ∀ vs : List Variant,
      ((vs.map fun v => { v with ident := "" }).flatMap fun v =>
        [renameAttribute v.value, .code ["    ", v.ident, ","]]).map Line.isComment =
      (vs.flatMap fun v =>
        [renameAttribute v.value, .code ["    ", v.ident, ","]]).map Line.isComment := by
    intro vs
    induction vs with
    | nil => rfl
    | cons v vs ih =>
      simp only [List.map_cons, List.flatMap_cons, List.map_append, List.map_nil, ih]
      rfl
  simp only [choiceLines, ChoiceDecl.anonymous, List.map_append, hvariants]
  rfl

theorem itemLines_skeleton (v v' : String) (item : Item) :
    (itemLines v' item.skeleton).map Line.isComment = (itemLines v item).map Line.isComment := by
  rw [← @itemLines_redacted Bool Line.isComment (fun _ _ _ => rfl) (fun _ _ _ _ => rfl) v v' item]
  cases item with
  | resource d => exact resourceLines_anonymous v' d.redacted
  | record d => exact recordLines_anonymous d.redacted
  | choice d => exact choiceLines_anonymous d.redacted

theorem lines_skeleton (l : Layout) :
    l.skeleton.lines.map Line.isComment = l.lines.map Line.isComment := by
  have hitems : ∀ items : List Item,
      ((items.map Item.skeleton).flatMap fun item =>
        code "" :: itemLines l.skeleton.apiVersion item).map Line.isComment =
      (items.flatMap fun item => code "" :: itemLines l.apiVersion item).map Line.isComment := by
    intro items
    induction items with
    | nil => rfl
    | cons item items ih =>
      simp only [List.map_cons, List.flatMap_cons, List.map_append, ih,
        itemLines_skeleton l.apiVersion]
  rw [lines, lines, List.map_append, List.map_append]
  exact congrArg (l.headerLines.map Line.isComment ++ ·) (hitems l.items)

theorem length_fieldLines (f : FieldDecl) :
    (fieldLines f).length + (if f.required then 1 else 0) = (fieldLines f.relaxed).length := by
  cases hrequired : f.required
  · simp [fieldLines, FieldDecl.relaxed, hrequired]
  · simp only [fieldLines, FieldDecl.relaxed, hrequired, if_true, Bool.false_eq_true, if_false,
      List.length_append, List.length_map, List.length_cons, List.length_nil]

theorem length_flatMap_fieldLines (fields : List FieldDecl) :
    (fields.flatMap fieldLines).length + (fields.filter (·.required)).length =
      ((fields.map FieldDecl.relaxed).flatMap fieldLines).length := by
  induction fields with
  | nil => rfl
  | cons f fields ih =>
    have hf := length_fieldLines f
    simp only [List.flatMap_cons, List.map_cons, List.length_append, List.filter_cons] at ih ⊢
    split at hf
    · rename_i hrequired
      rw [if_pos hrequired, List.length_cons]
      omega
    · rename_i hrequired
      rw [if_neg hrequired]
      omega

/-- How long a record is depends on how many of its fields are required, not on which ones. -/
theorem length_recordLines (r : RecordDecl) :
    (recordLines r).length + r.required.length =
      (recordLines { r with fields := r.fields.map FieldDecl.relaxed }).length +
        (if r.required.length = 0 then 0 else 7 + r.fields.length) := by
  have hfields := length_flatMap_fieldLines r.fields
  have hrelaxed : ({ r with fields := r.fields.map FieldDecl.relaxed } : RecordDecl).isDefaultable
      = true := by
    simp [RecordDecl.isDefaultable, RecordDecl.required, FieldDecl.relaxed]
  have hdefault : r.isDefaultable = true ↔ r.required.length = 0 := by
    rw [RecordDecl.isDefaultable, List.isEmpty_iff_length_eq_zero]
  simp only [recordLines, hrelaxed, if_true, List.length_append, List.length_map, List.length_cons,
    List.length_nil]
  change _ + r.required.length = _ at hfields
  split
  · rename_i hnone
    rw [if_pos (hdefault.mp hnone), List.length_nil]
    omega
  · rename_i hsome
    rw [if_neg (fun h => hsome (hdefault.mpr h))]
    simp only [newRecordLines, closingLines, List.length_append, List.length_map, List.length_cons,
      List.length_nil]
    omega

theorem skeleton_requiredCount (item : Item) : item.skeleton.requiredCount = item.requiredCount := by
  cases item with
  | resource d => rfl
  | record d =>
    show d.redacted.anonymous.required.length = d.required.length
    rw [RecordDecl.anonymous_required, List.length_map, RecordDecl.redacted_required,
      List.length_map]
  | choice d => rfl

theorem length_itemLines (v v' : String) (item : Item) :
    (itemLines v item).length + item.requiredCount =
      (itemLines v' item.skeleton.relaxed).length +
        (if item.requiredCount = 0 then 0 else 7 + item.skeleton.relaxed.fieldCount) := by
  have hskeleton : (itemLines v' item.skeleton).length = (itemLines v item).length := by
    have h := congrArg List.length (itemLines_skeleton v v' item)
    simpa only [List.length_map] using h
  cases item with
  | resource d => exact hskeleton.symm
  | record d =>
    have hrequired : d.redacted.anonymous.required.length = d.required.length :=
      skeleton_requiredCount (.record d)
    have hrecord := length_recordLines d.redacted.anonymous
    rw [hrequired] at hrecord
    have hcount : (Item.record d).skeleton.relaxed.fieldCount = d.redacted.anonymous.fields.length :=
      List.length_map _
    rw [← hskeleton, hcount]
    exact hrecord
  | choice d => exact hskeleton.symm

/-- The number of lines of an item, given its skeleton without the required fields. -/
def lineCount (outline : Item) (required : Nat) : Nat :=
  (itemLines "" outline).length + (if required = 0 then 0 else 7 + outline.fieldCount) - required

theorem length_lines (l : Layout) :
    l.lines.length = l.headerLines.length +
      (List.zipWith lineCount (l.items.map (·.skeleton.relaxed))
        (l.items.map Item.requiredCount)).sum + l.items.length := by
  have hitems : ∀ items : List Item,
      (items.flatMap fun item => code "" :: itemLines l.apiVersion item).length =
        (List.zipWith lineCount (items.map (·.skeleton.relaxed))
          (items.map Item.requiredCount)).sum + items.length := by
    intro items
    induction items with
    | nil => rfl
    | cons item items ih =>
      have hitem := length_itemLines l.apiVersion "" item
      simp only [List.flatMap_cons, List.length_append, List.length_cons, ih, List.map_cons,
        List.zipWith_cons_cons, List.sum_cons, lineCount]
      omega
  rw [lines, List.length_append, hitems, Nat.add_assoc]

theorem SameOutline.length_lines {l₁ l₂ : Layout} (h : SameOutline l₁ l₂) :
    l₁.lines.length = l₂.lines.length := by
  have hlength := congrArg List.length h.items
  simp only [List.length_map] at hlength
  have hheader : l₁.headerLines.length = l₂.headerLines.length := by
    simp only [headerLines, List.length_append, h.usesMap]
    rfl
  rw [Layout.length_lines, Layout.length_lines, h.items, h.required, hlength, hheader]

/-- Layouts without a difference in their shapes have the same outline. -/
theorem sameOutline_of_skeleton {l₁ l₂ : Layout} (h : l₁.skeleton = l₂.skeleton) :
    SameOutline l₁ l₂ := by
  have hitems : l₁.items.map Item.skeleton = l₂.items.map Item.skeleton :=
    congrArg Layout.items h
  have hmap := congrArg Layout.usesMap h
  have hint := congrArg Layout.usesIntOrString h
  refine ⟨?_, ?_, hmap, hint⟩
  · have hrelaxed := congrArg (List.map Item.relaxed) hitems
    simpa only [List.map_map, Function.comp_def] using hrelaxed
  · have hrequired := congrArg (List.map Item.requiredCount) hitems
    simpa only [List.map_map, Function.comp_def, skeleton_requiredCount] using hrequired

theorem exposed_of_countP {items : List Item} (h : items.countP Item.isResource = 0) :
    (items.map Item.exposed).sum = 0 := by
  rw [List.sum_eq_zero_iff_forall_eq_nat]
  intro n hn
  obtain ⟨item, hitem, rfl⟩ := List.mem_map.mp hn
  have hnone := List.countP_eq_zero.mp h item hitem
  cases item with
  | resource d => exact absurd rfl hnone
  | record d => rfl
  | choice d => rfl

theorem layResources_exposed (rs : List (String × Resource)) (names : Names) :
    ((layResources names rs).1.map Item.exposed).sum = (rs.map fun e => feeds e.2.kind).sum := by
  induction rs generalizing names with
  | nil => rfl
  | cons entry rs ih =>
    obtain ⟨name, r⟩ := entry
    simp only [layResources, List.map_cons, List.map_append, List.cons_append, List.sum_cons,
      List.sum_append, ih, exposed_of_countP (countP_layTypes r.types names), Nat.zero_add]
    rfl

end Layout

/-- The line feeds in the group, the version and the kinds of a module. -/
def TypedModule.exposed (m : TypedModule) : Nat :=
  Layout.feeds m.group + Layout.feeds m.version +
    (m.resources.map fun r => Layout.feeds r.kind).sum

namespace Layout

theorem ofModule_exposed (m : TypedModule) : (ofModule m).exposed = m.exposed := by
  have hkinds : ((kindNames m).1.zip m.resources).map (fun e => feeds e.2.kind) =
      m.resources.map fun r => feeds r.kind := by
    have hsnd := List.map_snd_zip (Nat.le_of_eq (kindNames_length m).symm)
    rw [← hsnd, List.map_map, List.map_snd_zip (Nat.le_of_eq (kindNames_length m).symm)]
    rfl
  rw [ofModule_eq, exposed, TypedModule.exposed, layResources_exposed, hkinds]

theorem feeds_render (m : TypedModule) :
    feeds (ofModule m).render = (ofModule m).lines.length + m.exposed := by
  have hsane := ofModule_sanitised m
  rw [render, Line.feeds_textOf (lines_plain hsane), feeds_lines hsane, ofModule_exposed]

/-- Layouts with the same outline agree on their line feeds exactly if their modules do on those of
the exposed texts. -/
theorem feeds_render_iff {m₁ m₂ : TypedModule} (h : SameOutline (ofModule m₁) (ofModule m₂)) :
    feeds (ofModule m₁).render = feeds (ofModule m₂).render ↔ m₁.exposed = m₂.exposed := by
  have hlength := h.length_lines
  rw [feeds_render, feeds_render]
  omega

theorem commentMarks_render {m : TypedModule} (h : m.exposed = 0) :
    commentMarks (ofModule m).render =
      (ofModule m).skeleton.lines.map Line.isComment ++ [false] := by
  have hsane := ofModule_sanitised m
  have hclean := (ofModule_exposed m).trans h
  rw [render, Line.commentMarks_textOf (lines_plain hsane) (feeds_eq_zero hsane hclean),
    lines_skeleton]

/-- The texts of a module are written into identifiers, literals and comments, and they stay there as
long as the group, the version and the kinds have no line feed. These three are written into
comments as they are, and each line feed in them adds one to the file: two modules with the same
outline agree on their line feeds exactly if they agree on those, and next to a module without any,
one of the same shape has the same comment lines exactly if it has none either. -/
theorem render_contains_texts (m₁ m₂ : TypedModule) :
    (ofModule m₁).Sanitised ∧
    (m₁.exposed = 0 →
      codeText (ofModule m₁).render = codeText (ofModule m₁).redacted.render) ∧
    (SameOutline (ofModule m₁) (ofModule m₂) →
      (feeds (ofModule m₁).render = feeds (ofModule m₂).render ↔ m₁.exposed = m₂.exposed)) ∧
    ((ofModule m₁).skeleton = (ofModule m₂).skeleton → m₁.exposed = 0 →
      (commentMarks (ofModule m₁).render = commentMarks (ofModule m₂).render ↔
        m₂.exposed = 0)) := by
  have hsane := ofModule_sanitised m₁
  refine ⟨hsane, ?_, feeds_render_iff, ?_⟩
  · intro hexposed
    exact codeText_render hsane ((ofModule_exposed m₁).trans hexposed)
  · intro hskeleton hexposed
    constructor
    · intro hmarks
      have hcount := congrArg List.length hmarks
      rw [commentMarks_length, commentMarks_length] at hcount
      have hfeeds := (feeds_render_iff (sameOutline_of_skeleton hskeleton)).mp (by omega)
      exact hfeeds.symm.trans hexposed
    · intro hother
      rw [commentMarks_render hexposed, commentMarks_render hother, hskeleton]

/-- A line feed in a kind ends the comment above the constructor. -/
theorem kind_ends_comment :
    ∃ m₁ m₂ : TypedModule, (ofModule m₁).skeleton = (ofModule m₂).skeleton ∧
      feeds (ofModule m₁).render ≠ feeds (ofModule m₂).render := by
  have hskeleton :
      (ofModule ⟨"example.com", "v1",
        [⟨"Widget", "widgets", .namespaced, none, []⟩]⟩).skeleton =
      (ofModule ⟨"example.com", "v1",
        [⟨"Widget\npub struct Injected;", "widgets", .namespaced, none, []⟩]⟩).skeleton := by
    decide +kernel
  refine ⟨_, _, hskeleton, ?_⟩
  intro hfeeds
  have hexposed := (feeds_render_iff (sameOutline_of_skeleton hskeleton)).mp hfeeds
  exact absurd hexposed (by decide)

/-- The comment lines of a file also depend on which of the fields are required, as an optional field
has a line more, and not only on how many are. -/
theorem required_moves_comment :
    ∃ m₁ m₂ : TypedModule, m₁.exposed = 0 ∧ m₂.exposed = 0 ∧
      SameOutline (ofModule m₁) (ofModule m₂) ∧
      commentMarks (ofModule m₁).render ≠ commentMarks (ofModule m₂).render := by
  let module (required : Bool) : TypedModule := ⟨"example.com", "v1",
    [⟨"Widget", "widgets", .namespaced, none, [⟨"WidgetSpec", "spec", false, none, .object
      [.mk "size" .integer required (some "The size"),
        .mk "color" .string (!required) (some "The color")]⟩]⟩]⟩
  have hclean : ∀ required, (module required).exposed = 0 := by decide
  refine ⟨module true, module false, hclean true, hclean false, ?_, ?_⟩
  · exact ⟨by decide +kernel, by decide +kernel, by decide +kernel, by decide +kernel⟩
  · rw [commentMarks_render (hclean true), commentMarks_render (hclean false)]
    decide +kernel

end Layout
end CrdBindings
