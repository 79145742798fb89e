import CrdBindings.Bundle.OfText
import CrdBindings.Proofs.Depth

/-!
Which definitions a bundle holds. A value is met at an address: the number of its document, and then
the position in each list of documents on the way to it. The definitions of a bundle are those of the
values met, in the order of their addresses; a document that cannot be read leaves none.
-/

namespace CrdBindings
set_option autoImplicit false

namespace Yaml

/-- The documents of a text in order, each with its value if it can be read. A fault between documents
stands for one that cannot. -/
def documents (text : String) : List (Option Json) :=
  (readDocuments text).roots.map (readRoot (value · maxDepth)) ++
    if (readDocuments text).broken then [none] else []

def FirstFault (documents : List (Option Json)) (n : Nat) : Prop :=
  documents[n]? = some none ∧ ∀ k < n, documents[k]? ≠ some none

theorem FirstFault.cons {documents : List (Option Json)} {n : Nat} (h : FirstFault documents n)
    (v : Json) : FirstFault (some v :: documents) (n + 1) := by
  refine ⟨h.1, ?_⟩
  intro k hk
  cases k with
  | zero => exact nofun
  | succ k => exact h.2 k (by omega)

theorem FirstFault.append {documents : List (Option Json)} {n : Nat} (h : FirstFault documents n)
    (others : List (Option Json)) : FirstFault (documents ++ others) n := by
  have hlt : n < documents.length := (List.getElem?_eq_some_iff.mp h.1).1
  constructor
  · rw [List.getElem?_append_left hlt]
    exact h.1
  · intro k hk
    rw [List.getElem?_append_left (by omega)]
    exact h.2 k hk

theorem FirstFault.unique {documents : List (Option Json)} {n k : Nat} (hn : FirstFault documents n)
    (hk : FirstFault documents k) : n = k := by
  rcases Nat.lt_trichotomy n k with hlt | heq | hlt
  · exact absurd hn.1 (hk.2 n hlt)
  · exact heq
  · exact absurd hk.1 (hn.2 k hlt)

theorem firstFault_behind (values : List Json) :
    FirstFault (values.map some ++ [none]) values.length := by
  induction values with
  | nil => exact ⟨rfl, fun k hk => absurd hk (Nat.not_lt_zero k)⟩
  | cons v values ih => exact ih.cons v

theorem rootValues_cases (n : Nat) (roots : List Tree) :
    (∃ values, roots.map (readRoot (value · maxDepth)) = values.map some ∧
        rootValues n roots = .ok values) ∨
      ∃ k, FirstFault (roots.map (readRoot (value · maxDepth))) k ∧
        rootValues n roots = .error (n + k) := by
  induction roots generalizing n with
  | nil => exact .inl ⟨[], rfl, rfl⟩
  | cons root roots ih =>
    rw [rootValues, List.map_cons]
    cases readRoot (value · maxDepth) root with
    | none => exact .inr ⟨0, ⟨rfl, fun k hk => absurd hk (Nat.not_lt_zero k)⟩, rfl⟩
    | some v =>
      rcases ih (n + 1) with ⟨values, hvalues, hok⟩ | ⟨k, hk, herror⟩
      · exact .inl ⟨v :: values, by rw [hvalues, List.map_cons], by simp only [hok]; rfl⟩
      · refine .inr ⟨k + 1, hk.cons v, ?_⟩
        simp only [herror]
        exact congrArg Except.error (by omega)

theorem values_cases (text : String) :
    (∃ vs, documents text = vs.map some ∧ values text = .ok vs) ∨
      ∃ n, FirstFault (documents text) n ∧ values text = .error (n + 1) := by
  rw [values, documents]
  rcases rootValues_cases 1 (readDocuments text).roots with ⟨vs, hvs, hok⟩ | ⟨k, hk, herror⟩
  · simp only [hvs, hok]
    cases (readDocuments text).broken with
    | false => exact .inl ⟨vs, List.append_nil _, rfl⟩
    | true =>
      have hlength : (readDocuments text).roots.length = vs.length := by
        simpa using congrArg List.length hvs
      exact .inr ⟨vs.length, firstFault_behind vs, by rw [hlength]; rfl⟩
  · simp only [herror]
    exact .inr ⟨k, hk.append _, congrArg Except.error (Nat.add_comm 1 k)⟩

end Yaml

namespace Bundle

open Definition (definitionKind kindOf? ofJson?)

/-- The items of a list of documents. Any other value has none. -/
def listItems (v : Json) : List Json :=
  match v.get? "kind", v.get? "items" with
  | some (.str "List"), some (.arr items) => items
  | _, _ => []

/-- The value met in a document behind the given positions. -/
def metAt? (v : Json) : List Nat → Option Json
  | [] => some v
  | n :: address => (listItems v)[n]?.bind fun item => metAt? item address

/-- The value met at an address in a row of documents. -/
def metIn? (documents : List Json) : List Nat → Option Json
  | [] => none
  | n :: address => documents[n]?.bind fun v => metAt? v address

/-- The definitions of the values that are met, each beside its address. -/
structure Found (met? : List Nat → Option Json) (found : List (List Nat × Definition)) : Prop where
  ordered : found.Pairwise fun a b => a.1 < b.1
  mem_iff : ∀ address d, (address, d) ∈ found ↔ ∃ v, met? address = some v ∧ ofJson? v = some d

theorem listed_eq (members : List (String × Json)) :
    listed members = match Keyed.find? "items" members with
      | some (.arr items) => all items
      | _ => [] := by
  induction members with
  | nil => rfl
  | cons member members ih =>
    obtain ⟨key, v⟩ := member
    by_cases hkey : key = "items"
    · subst hkey
      cases v <;> simp [listed, Keyed.find?]
    · rw [Keyed.find?, if_neg hkey, ← ih]
      cases v <;> simp [listed, hkey]

theorem kindOf?_eq_some_iff {v : Json} {kind : String} :
    kindOf? v = some kind ↔ v.get? "kind" = some (.str kind) := by
  rw [kindOf?]
  cases v.get? "kind" with
  | none => simp
  | some w => cases w <;> simp [Json.asString?]

theorem listItems_eq_nil {v : Json} (h : kindOf? v ≠ some listKind) : listItems v = [] := by
  unfold listItems
  split
  · rename_i hkind _
    exact absurd (kindOf?_eq_some_iff.mpr hkind) h
  · rfl

theorem definitions_eq (v : Json) :
    definitions v =
      if kindOf? v = some definitionKind then (ofJson? v).toList else all (listItems v) := by
  cases v with
  | obj members =>
    rw [definitions]
    by_cases hdefinition : kindOf? (.obj members) = some definitionKind
    · rw [if_pos hdefinition, if_pos hdefinition]
    · rw [if_neg hdefinition, if_neg hdefinition]
      by_cases hlist : kindOf? (.obj members) = some listKind
      · rw [if_pos hlist, listed_eq, listItems, kindOf?_eq_some_iff.mp hlist, listKind, Json.get?]
        cases Keyed.find? "items" members with
        | none => rfl
        | some w => cases w <;> rfl
      · rw [if_neg hlist, listItems_eq_nil hlist, all]
  | _ => rfl

theorem sizeOf_lt_of_mem_listItems {v item : Json} (h : item ∈ listItems v) :
    sizeOf item < sizeOf v := by
  unfold listItems at h
  split at h
  · rename_i hitems
    have hsize := Schema.sizeOf_lt_of_get? hitems
    have hmem := List.sizeOf_lt_of_mem h
    simp only [Json.arr.sizeOf_spec] at hsize
    omega
  · cases h

theorem ofJson?_eq_none {v : Json} (h : kindOf? v ≠ some definitionKind) : ofJson? v = none := by
  rw [ofJson?, if_pos h]
  rfl

/-- The address of the same value with one more document in front. -/
def further : List Nat → List Nat
  | [] => []
  | n :: address => (n + 1) :: address

theorem further_lt {a b : List Nat} (h : a < b) : further a < further b := by
  cases a with
  | nil =>
    cases b with
    | nil => exact absurd h (List.lt_irrefl _)
    | cons n b => exact List.nil_lt_cons _ _
  | cons m a =>
    cases b with
    | nil => exact absurd h (List.not_lt_nil _)
    | cons n b =>
      rcases List.cons_lt_cons_iff.mp h with hlt | ⟨rfl, hlt⟩
      · exact List.cons_lt_cons_iff.mpr (.inl (by omega))
      · exact List.cons_lt_cons_iff.mpr (.inr ⟨rfl, hlt⟩)

section
variable {v : Json} {vs : List Json} {found others : List (List Nat × Definition)}

theorem Found.address_ne_nil (h : Found (metIn? vs) found) {e : List Nat × Definition}
    (he : e ∈ found) : ∃ n address, e.1 = n :: address := by
  obtain ⟨address, d⟩ := e
  obtain ⟨w, hw, -⟩ := (h.mem_iff address d).mp he
  cases address with
  | nil => cases hw
  | cons n address => exact ⟨n, address, rfl⟩

theorem Found.cons (hv : Found (metAt? v) found) (hvs : Found (metIn? vs) others) :
    Found (metIn? (v :: vs))
      (found.map (fun e => (0 :: e.1, e.2)) ++ others.map fun e => (further e.1, e.2)) := by
  constructor
  · rw [List.pairwise_append, List.pairwise_map, List.pairwise_map]
    refine ⟨?_, ?_, ?_⟩
    · apply hv.ordered.imp
      intro a b hab
      exact List.cons_lt_cons_iff.mpr (.inr ⟨rfl, hab⟩)
    · exact hvs.ordered.imp further_lt
    · intro a ha b hb
      obtain ⟨_, -, rfl⟩ := List.mem_map.mp ha
      obtain ⟨e, he, rfl⟩ := List.mem_map.mp hb
      obtain ⟨n, address, heq⟩ := hvs.address_ne_nil he
      rw [heq]
      exact List.cons_lt_cons_iff.mpr (.inl (Nat.succ_pos n))
  · intro address d
    rw [List.mem_append, List.mem_map, List.mem_map]
    constructor
    · rintro (⟨e, he, heq⟩ | ⟨e, he, heq⟩)
      · obtain ⟨rfl, rfl⟩ := Prod.mk.inj heq
        exact (hv.mem_iff e.1 e.2).mp he
      · obtain ⟨n, rest, hrest⟩ := hvs.address_ne_nil he
        obtain ⟨rfl, rfl⟩ := Prod.mk.inj heq
        rw [hrest]
        have hmet := (hvs.mem_iff e.1 e.2).mp he
        rw [hrest] at hmet
        exact hmet
    · rintro ⟨w, hw, hd⟩
      cases address with
      | nil => cases hw
      | cons n rest =>
        cases n with
        | zero => exact .inl ⟨(rest, d), (hv.mem_iff rest d).mpr ⟨w, hw, hd⟩, rfl⟩
        | succ n => exact .inr ⟨(n :: rest, d), (hvs.mem_iff (n :: rest) d).mpr ⟨w, hw, hd⟩, rfl⟩

end

/-- The values met in a row of documents are those met in each, behind its number. -/
theorem all_found {vs : List Json}
    (h : ∀ v ∈ vs, ∃ found, definitions v = found.map Prod.snd ∧ Found (metAt? v) found) :
    ∃ found, all vs = found.map Prod.snd ∧ Found (metIn? vs) found := by
  induction vs with
  | nil =>
    refine ⟨[], rfl, .nil, ?_⟩
    intro address d
    cases address <;> simp [metIn?]
  | cons v vs ih =>
    obtain ⟨found, hfound, hv⟩ := h v List.mem_cons_self
    obtain ⟨others, hothers, hvs⟩ := ih fun w hw => h w (List.mem_cons_of_mem v hw)
    refine ⟨_, ?_, hv.cons hvs⟩
    rw [all, hfound, hothers, List.map_append, List.map_map, List.map_map]
    rfl

/-- A value that is no list is met alone. -/
theorem found_of_no_items {v : Json} (h : listItems v = []) :
    Found (metAt? v) ((ofJson? v).toList.map fun d => ([], d)) := by
  constructor
  · cases ofJson? v with
    | none => exact .nil
    | some d => exact List.pairwise_singleton _ _
  · intro address d
    cases address with
    | nil => simp [metAt?]
    | cons n address => simp [metAt?, h]

/-- A list of documents holds no definition itself, and what is met in it is met in its items. -/
theorem found_of_no_definition {v : Json} (h : ofJson? v = none)
    {found : List (List Nat × Definition)} (hitems : Found (metIn? (listItems v)) found) :
    Found (metAt? v) found := by
  refine ⟨hitems.ordered, ?_⟩
  intro address d
  rw [hitems.mem_iff]
  cases address with
  | nil => simp [metAt?, metIn?, h]
  | cons n address => rfl

theorem definitions_found (v : Json) :
    ∃ found, definitions v = found.map Prod.snd ∧ Found (metAt? v) found := by
  rw [definitions_eq]
  by_cases hdefinition : kindOf? v = some definitionKind
  · rw [if_pos hdefinition]
    have hlist : kindOf? v ≠ some listKind := by
      rw [hdefinition]
      decide
    refine ⟨_, ?_, found_of_no_items (listItems_eq_nil hlist)⟩
    rw [List.map_map]
    exact (List.map_id _).symm
  · rw [if_neg hdefinition]
    have hitems : ∀ item ∈ listItems v,
        ∃ found, definitions item = found.map Prod.snd ∧ Found (metAt? item) found := by
      intro item hitem
      have hsmaller := sizeOf_lt_of_mem_listItems hitem
      exact definitions_found item
    obtain ⟨found, hfound, hmet⟩ := all_found hitems
    exact ⟨found, hfound, found_of_no_definition (ofJson?_eq_none hdefinition) hmet⟩
termination_by sizeOf v

theorem Found.unique {met? : List Nat → Option Json} {found others : List (List Nat × Definition)}
    (h : Found met? found) (h' : Found met? others) : found = others := by
  have hnodup : ∀ {found}, Found met? found → found.Nodup := by
    intro found h
    apply h.ordered.imp
    rintro a b hab rfl
    exact List.lt_irrefl _ hab
  have hperm : found.Perm others := by
    rw [List.perm_ext_iff_of_nodup (hnodup h) (hnodup h')]
    intro e
    exact (h.mem_iff e.1 e.2).trans (h'.mem_iff e.1 e.2).symm
  apply hperm.eq_of_pairwise _ h.ordered h'.ordered
  intro a b _ _ hab hba
  exact absurd (List.lt_trans hab hba) (List.lt_irrefl _)

theorem ofText_cases (text : String) :
    (∃ values found, Yaml.documents text = values.map some ∧ Found (metIn? values) found ∧
        ofText text = .ok (found.map Prod.snd)) ∨
      ∃ n, Yaml.FirstFault (Yaml.documents text) n ∧
        ofText text = .error (.parse s!"Invalid YAML in document {n + 1}") := by
  rw [ofText]
  rcases Yaml.values_cases text with ⟨values, hvalues, hok⟩ | ⟨n, hn, herror⟩
  · obtain ⟨found, hall, hfound⟩ := all_found fun v (_ : v ∈ values) => definitions_found v
    refine .inl ⟨values, found, hvalues, hfound, ?_⟩
    rw [hok, ← hall]
  · exact .inr ⟨n, hn, by rw [herror]⟩

theorem not_firstFault_map (values : List Json) (n : Nat) :
    ¬ Yaml.FirstFault (values.map some) n := by
  intro h
  obtain ⟨v, -, hv⟩ := List.mem_map.mp (List.mem_of_getElem? h.1)
  cases hv

/-- A bundle is refused just for the first of its documents that cannot be read. Else it has the
definitions of the values met in its documents, each once and in the order of their addresses: what a
list holds comes in the place of the list, and no other value is opened. -/
theorem ofText_collects (text : String) :
    (∀ failure, ofText text = .error failure ↔ ∃ n, Yaml.FirstFault (Yaml.documents text) n ∧
      failure = .parse s!"Invalid YAML in document {n + 1}") ∧
    ∀ ds, ofText text = .ok ds ↔ ∃ values found, Yaml.documents text = values.map some ∧
      Found (metIn? values) found ∧ ds = found.map Prod.snd := by
  rcases ofText_cases text with ⟨values, found, hvalues, hfound, hok⟩ | ⟨n, hn, herror⟩
  · rw [hok, hvalues]
    constructor
    · intro failure
      constructor
      · exact nofun
      · rintro ⟨n, hn, -⟩
        exact absurd hn (not_firstFault_map values n)
    · intro ds
      constructor
      · intro hds
        exact ⟨values, found, rfl, hfound, (Except.ok.inj hds).symm⟩
      · rintro ⟨values', found', hvalues', hfound', rfl⟩
        obtain rfl := List.map_injective_iff.mpr (fun _ _ => Option.some.inj) hvalues'
        rw [hfound.unique hfound']
  · rw [herror]
    constructor
    · intro failure
      constructor
      · intro hfailure
        exact ⟨n, hn, (Except.error.inj hfailure).symm⟩
      · rintro ⟨k, hk, rfl⟩
        rw [hn.unique hk]
    · intro ds
      constructor
      · exact nofun
      · rintro ⟨values, found, hvalues, -, -⟩
        rw [hvalues] at hn
        exact absurd hn (not_firstFault_map values n)

/-- A document that declares one version of a kind, and no schema. -/
def gadgetText : String :=
  "\x7bkind: CustomResourceDefinition, spec: \x7bgroup: example.com, " ++
    "names: \x7bkind: Gadget, plural: gadgets\x7d, versions: [\x7bname: v1\x7d]\x7d\x7d"

def gadget : Definition :=
  ⟨none, "example.com", ⟨"Gadget", "gadgets", none, none⟩, .namespaced,
    [⟨"v1", true, false, false, none⟩]⟩

def isGadget : Except Failure (List Definition) → Bool
  | .ok [⟨none, "example.com", ⟨"Gadget", "gadgets", none, none⟩, .namespaced,
      [⟨"v1", true, false, false, none⟩]⟩] => true
  | _ => false

theorem eq_of_isGadget {read : Except Failure (List Definition)} (h : isGadget read = true) :
    read = .ok [gadget] := by
  unfold isGadget at h
  split at h
  · rfl
  · cases h

set_option maxRecDepth 4000 in
theorem ofText_gadgetText : ofText gadgetText = .ok [gadget] :=
  eq_of_isGadget (by decide +kernel)

end Bundle
end CrdBindings
