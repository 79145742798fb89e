import CrdBindings.Definition.OfJson
import Mathlib.Data.List.Nodup

/-!
The shape of documents. Each field has a type, and a value fits a record if it is an object or a short
enough array in which every field that is not null fits its own type. Values that fit are exactly the
ones that are read, and from them each field is read where it stands.
-/

namespace CrdBindings.Shape
set_option autoImplicit false

inductive FieldType where
  | text
  | flag
  | any
  | list (item : FieldType)
  | record (fields : List (String × FieldType))

/-- Fields with their names, in the order in which an array gives them. -/
abbrev Fields := List (String × FieldType)

def present : Json → Option Json
  | .null => none
  | v => some v

/-- A field of a record, unless it is absent or null: by name in an object, by position in an array. -/
def field? (fields : Fields) (name : String) : Json → Option Json
  | .obj members => (Keyed.find? name members).bind present
  | .arr items => items[(fields.map Prod.fst).idxOf name]?.bind present
  | _ => none

/-- The values that give the fields of a record. -/
def IsRecord (fields : Fields) : Json → Prop
  | .obj _ => True
  | .arr items => items.length ≤ fields.length
  | _ => False

inductive Fits : FieldType → Json → Prop where
  | text (s : String) : Fits .text (.str s)
  | flag (b : Bool) : Fits .flag (.bool b)
  | any (v : Json) : Fits .any v
  | list {item : FieldType} {items : List Json} (hitems : ∀ v ∈ items, Fits item v) :
      Fits (.list item) (.arr items)
  | record {fields : Fields} {v : Json} (hv : IsRecord fields v)
      (hfields : ∀ field ∈ fields, ∀ w ∈ field? fields field.1 v, Fits field.2 w) :
      Fits (.record fields) v

theorem fits_record_iff {fields : Fields} {v : Json} : Fits (.record fields) v ↔
    IsRecord fields v ∧ ∀ field ∈ fields, ∀ w ∈ field? fields field.1 v, Fits field.2 w := by
  constructor
  · rintro ⟨⟩
    exact ⟨‹_›, ‹_›⟩
  · rintro ⟨hv, hfields⟩
    exact .record hv hfields

theorem join_map {α β : Type} (f : α → Option β) (o : Option α) : (o.map f).join = o.bind f := by
  cases o <;> rfl

theorem present_getD (v : Option Json) : (v.bind present).getD .null = v.getD .null := by
  cases v with
  | none => rfl
  | some v => cases v <;> rfl

theorem bind_present_ne_null (v : Option Json) : v.bind present ≠ some .null := by
  cases v with
  | none => exact nofun
  | some v => cases v <;> exact nofun

theorem field?_ne_null (fields : Fields) (name : String) (v : Json) :
    field? fields name v ≠ some .null := by
  unfold field?
  split
  · exact bind_present_ne_null _
  · exact bind_present_ne_null _
  · exact nofun

theorem padded_eq_map {names : List String} (hnames : names.Nodup) {items : List Json}
    (hitems : items.length ≤ names.length) :
    items ++ List.replicate (names.length - items.length) .null =
      names.map fun name => (items[names.idxOf name]?).getD .null := by
  apply List.ext_getElem
  · rw [List.length_append, List.length_replicate, List.length_map]
    omega
  · intro i hi hi'
    rw [List.getElem_map, hnames.idxOf_getElem, List.getElem_append]
    split
    · rename_i hshort
      rw [List.getElem?_eq_getElem hshort, Option.getD_some]
    · rename_i hlong
      rw [List.getElem?_eq_none (by omega), Option.getD_none, List.getElem_replicate]

theorem slots?_eq_some_iff {fields : Fields} (hfields : (fields.map Prod.fst).Nodup) {v : Json}
    {slots : List Json} : slots? (fields.map Prod.fst) v = some slots ↔ IsRecord fields v ∧
      slots = fields.map fun field => (field? fields field.1 v).getD .null := by
  cases v with
  | obj members =>
    simp only [slots?, IsRecord, field?, present_getD, List.map_map, Option.some.injEq, true_and]
    exact eq_comm
  | arr items =>
    simp only [slots?, IsRecord, field?, present_getD, List.length_map,
      Option.ite_none_right_eq_some, Option.some.injEq]
    refine and_congr_right fun hitems => ?_
    -- As no name comes twice, the position of a name is that of its field.
    have hlength : items.length ≤ (fields.map Prod.fst).length := by rwa [List.length_map]
    rw [← List.length_map (f := Prod.fst), padded_eq_map hfields hlength, List.map_map]
    exact eq_comm
  | _ => simp [slots?, IsRecord]

section Reading

variable {α : Type} {read : Json → Option α} {value : Json → α} {type : FieldType}

/-- A reader reads exactly the values of a type. -/
def Reads (read : Json → Option α) (type : FieldType) : Prop :=
  ∀ v, Fits type v ↔ ∃ a, read v = some a

/-- A reader gives what a value of the type has, and reads no other value. -/
def Gives (read : Json → Option α) (type : FieldType) (value : Json → α) : Prop :=
  ∀ v a, read v = some a ↔ Fits type v ∧ a = value v

theorem Gives.reads (h : Gives read type value) : Reads read type := by
  intro v
  simp only [h v, exists_and_left, exists_eq, and_true]

theorem text_reads : Reads Json.asString? .text := by
  intro v
  constructor
  · rintro ⟨⟩
    exact ⟨_, rfl⟩
  · rintro ⟨s, hs⟩
    cases v with
    | str => exact .text _
    | _ => cases hs

theorem flag_reads : Reads bool? .flag := by
  intro v
  constructor
  · rintro ⟨⟩
    exact ⟨_, rfl⟩
  · rintro ⟨b, hb⟩
    cases v with
    | bool => exact .flag _
    | _ => cases hb

theorem any_gives : Gives some .any id := by
  intro v w
  rw [Option.some.injEq, eq_comm]
  exact (and_iff_right (.any v)).symm

theorem mapM_eq_some_iff (h : Gives read type value) {items : List Json} {as : List α} :
    items.mapM read = some as ↔ (∀ v ∈ items, Fits type v) ∧ as = items.map value := by
  induction items generalizing as with
  | nil => simp [eq_comm]
  | cons v items ih =>
    rw [eq_comm (a := as)]
    simp only [List.mapM_cons, Option.bind_eq_bind, Option.bind_eq_some_iff, h v, ih,
      Option.pure_def, Option.some.injEq, and_assoc, exists_and_left, exists_eq_left,
      List.forall_mem_cons, List.map_cons]

def items : Json → List Json
  | .arr items => items
  | _ => []

theorem list_gives (h : Gives read type value) :
    Gives (list? read) (.list type) fun v => (items v).map value := by
  intro v as
  have hlist {vs : List Json} : Fits (.list type) (.arr vs) ↔ ∀ v ∈ vs, Fits type v :=
    ⟨fun hfits => by cases hfits; assumption, .list⟩
  cases v with
  | arr vs => exact (mapM_eq_some_iff h).trans (and_congr_left' hlist.symm)
  | _ => exact iff_of_false nofun fun hfits => nomatch hfits.1

variable {fields : Fields} {name : String} {v : Json}

/-- An optional field is read if it is missing or of its type. -/
theorem Reads.optional (h : Reads read type) {a : Option α} :
    optional read ((field? fields name v).getD .null) = some a ↔
      (∀ w ∈ field? fields name v, Fits type w) ∧ a = (field? fields name v).bind read := by
  have hnull := field?_ne_null fields name v
  cases hfield : field? fields name v with
  | none => simp [Shape.optional, eq_comm]
  | some w =>
    have hoptional : Shape.optional read w = (read w).map some := by
      unfold Shape.optional
      split
      · exact absurd hfield hnull
      · rfl
    simp only [Option.getD_some, hoptional, Option.mem_def, Option.some.injEq, forall_eq',
      Option.bind_some, h w, Option.map_eq_some_iff]
    constructor
    · rintro ⟨b, hb, rfl⟩
      exact ⟨⟨b, hb⟩, hb.symm⟩
    · rintro ⟨⟨b, hb⟩, rfl⟩
      exact ⟨b, hb, hb.symm⟩

theorem Gives.optional (h : Gives read type value) {a : Option α} :
    optional read ((field? fields name v).getD .null) = some a ↔
      (∀ w ∈ field? fields name v, Fits type w) ∧ a = (field? fields name v).map value := by
  rw [h.reads.optional]
  refine and_congr_right fun hfits => ?_
  cases hfield : field? fields name v with
  | none => rfl
  | some w => rw [Option.bind_some, Option.map_some, (h w _).mpr ⟨hfits w hfield, rfl⟩]

/-- A record is read slot by slot. -/
theorem gives_record (fields : Fields) (hfields : (fields.map Prod.fst).Nodup) {readSlots : List Json → Option α}
    (h : ∀ v a, readSlots (fields.map fun field => (field? fields field.1 v).getD .null) = some a ↔
      (∀ field ∈ fields, ∀ w ∈ field? fields field.1 v, Fits field.2 w) ∧ value v = a) :
    Gives (fun v => (slots? (fields.map Prod.fst) v).bind readSlots) (.record fields) value := by
  intro v a
  rw [eq_comm (a := a)]
  simp only [Option.bind_eq_some_iff, slots?_eq_some_iff hfields, and_assoc, exists_and_left,
    exists_eq_left, h, fits_record_iff]

end Reading

def metadataFields : Fields := [("name", .text)]

def holderFields : Fields := [("openAPIV3Schema", .any)]

def namesFields : Fields :=
  [("kind", .text), ("plural", .text), ("singular", .text), ("listKind", .text)]

def entryFields : Fields :=
  [("name", .text), ("served", .flag), ("storage", .flag), ("deprecated", .flag),
    ("schema", .record holderFields)]

def specFields : Fields :=
  [("group", .text), ("names", .record namesFields), ("scope", .text),
    ("versions", .list (.record entryFields)), ("validation", .record holderFields)]

def documentFields : Fields := [("metadata", .record metadataFields), ("spec", .record specFields)]

def text? (fields : Fields) (name : String) (v : Json) : Option String :=
  (field? fields name v).bind Json.asString?

def flag? (fields : Fields) (name : String) (v : Json) : Option Bool :=
  (field? fields name v).bind bool?

def schema? (fields : Fields) (name : String) (v : Json) : Option Json :=
  (field? fields name v).bind (field? holderFields "openAPIV3Schema")

theorem metadata_gives : Gives metadata? (.record metadataFields) (text? metadataFields "name") := by
  refine gives_record metadataFields (by decide) fun v name => ?_
  simp [metadataFields, text?, text_reads.optional, eq_comm]

theorem holder_gives : Gives schemaHolder? (.record holderFields)
    (field? holderFields "openAPIV3Schema") := by
  refine gives_record holderFields (by decide) fun v schema => ?_
  simp [holderFields, any_gives.optional, eq_comm]

def namesAt (v : Json) : Names :=
  ⟨text? namesFields "kind" v, text? namesFields "plural" v, text? namesFields "singular" v,
    text? namesFields "listKind" v⟩

theorem names_gives : Gives names? (.record namesFields) namesAt := by
  refine gives_record namesFields (by decide) fun v names => ?_
  simp [namesFields, namesAt, text?, Option.bind_eq_some_iff, text_reads.optional, and_assoc]

def entryAt (v : Json) : Entry :=
  ⟨text? entryFields "name" v, flag? entryFields "served" v, flag? entryFields "storage" v,
    flag? entryFields "deprecated" v, schema? entryFields "schema" v⟩

theorem entry_gives : Gives entry? (.record entryFields) entryAt := by
  refine gives_record entryFields (by decide) fun v e => ?_
  simp [entryFields, entryAt, text?, flag?, schema?, Option.bind_eq_some_iff, text_reads.optional,
    flag_reads.optional, holder_gives.optional, join_map, and_assoc]

def specAt (v : Json) : Spec :=
  ⟨text? specFields "group" v, (field? specFields "names" v).map namesAt,
    text? specFields "scope" v, (field? specFields "versions" v).map fun w => (items w).map entryAt,
    schema? specFields "validation" v⟩

theorem spec_gives : Gives spec? (.record specFields) specAt := by
  refine gives_record specFields (by decide) fun v spec => ?_
  simp [specFields, specAt, text?, schema?, Option.bind_eq_some_iff, text_reads.optional,
    names_gives.optional, (list_gives entry_gives).optional, holder_gives.optional, join_map,
    and_assoc]

def documentAt (v : Json) : Document :=
  ⟨(field? documentFields "metadata" v).bind (text? metadataFields "name"),
    (field? documentFields "spec" v).map specAt⟩

theorem document_gives : Gives document? (.record documentFields) documentAt := by
  refine gives_record documentFields (by decide) fun v document => ?_
  simp [documentFields, documentAt, Option.bind_eq_some_iff, metadata_gives.optional,
    spec_gives.optional, join_map, and_assoc]

end CrdBindings.Shape
