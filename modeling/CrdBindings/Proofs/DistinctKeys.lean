import CrdBindings.Bundle.OfText
import Mathlib.Data.List.Nodup

/-!
Values without repeated keys. The values of a YAML text are such values, and so are the schemas of
the definitions in it.
-/

namespace CrdBindings
set_option autoImplicit false

namespace Keyed

variable {κ α : Type} [DecidableEq κ]

theorem mem_put {key : κ} {value : α} {entries : List (κ × α)} {entry : κ × α}
    (h : entry ∈ put key value entries) : entry = (key, value) ∨ entry ∈ entries := by
  induction entries with
  | nil => exact .inl (List.mem_singleton.mp h)
  | cons first entries ih =>
    obtain ⟨k, v⟩ := first
    rw [put] at h
    split at h
    · rename_i hk
      rcases List.mem_cons.mp h with rfl | h
      · exact .inl (by rw [hk])
      · exact .inr (List.mem_cons_of_mem _ h)
    · rcases List.mem_cons.mp h with rfl | h
      · exact .inr List.mem_cons_self
      · exact (ih h).imp_right (List.mem_cons_of_mem _)

theorem put_keys_nodup {entries : List (κ × α)} (h : (entries.map Prod.fst).Nodup) (key : κ)
    (value : α) : ((put key value entries).map Prod.fst).Nodup := by
  induction entries with
  | nil => exact List.nodup_singleton key
  | cons first entries ih =>
    obtain ⟨k, v⟩ := first
    rw [put]
    split
    · exact h
    · rename_i hk
      obtain ⟨hfresh, hrest⟩ := List.nodup_cons.mp h
      refine List.nodup_cons.mpr ⟨?_, ih hrest⟩
      intro hmem
      obtain ⟨entry, hentry, hkey⟩ := List.mem_map.mp hmem
      rcases mem_put hentry with rfl | hentry
      · exact hk hkey.symm
      · exact hfresh (hkey ▸ List.mem_map_of_mem hentry)

end Keyed

namespace Json

mutual

/-- A value in which no object has a key twice. -/
def DistinctKeys : Json → Prop
  | .obj members => (members.map Prod.fst).Nodup ∧ MembersDistinct members
  | .arr items => ItemsDistinct items
  | _ => True

def ItemsDistinct : List Json → Prop
  | [] => True
  | v :: vs => DistinctKeys v ∧ ItemsDistinct vs

def MembersDistinct : List (String × Json) → Prop
  | [] => True
  | (_, v) :: members => DistinctKeys v ∧ MembersDistinct members

end

theorem itemsDistinct_iff {items : List Json} :
    ItemsDistinct items ↔ ∀ v ∈ items, v.DistinctKeys := by
  induction items with
  | nil => simp [ItemsDistinct]
  | cons v items ih => rw [ItemsDistinct, ih, List.forall_mem_cons]

theorem membersDistinct_iff {members : List (String × Json)} :
    MembersDistinct members ↔ ∀ member ∈ members, member.2.DistinctKeys := by
  induction members with
  | nil => simp [MembersDistinct]
  | cons member members ih => rw [MembersDistinct, ih, List.forall_mem_cons]

theorem DistinctKeys.of_get? {v w : Json} (h : v.DistinctKeys) {key : String}
    (hget : v.get? key = some w) : w.DistinctKeys := by
  cases v with
  | obj members =>
    rw [DistinctKeys] at h
    exact membersDistinct_iff.mp h.2 _ (Keyed.mem_of_find? hget)
  | _ => cases hget

end Json

def Definition.DistinctKeys (d : Definition) : Prop :=
  ∀ v ∈ d.versions, ∀ schema ∈ v.schema, schema.DistinctKeys

namespace Yaml

theorem members_distinct {pairs : List (String × Json)} (h : ∀ p ∈ pairs, p.2.DistinctKeys) :
    (Json.obj (members pairs)).DistinctKeys := by
  rw [Json.DistinctKeys, Json.membersDistinct_iff, members]
  refine List.foldlRecOn (motive := fun ms : List (String × Json) =>
    (ms.map Prod.fst).Nodup ∧ ∀ m ∈ ms, m.2.DistinctKeys) pairs _ ?_ ?_
  · exact ⟨List.nodup_nil, fun _ hm => absurd hm List.not_mem_nil⟩
  · rintro ms ⟨hkeys, hvalues⟩ pair hpair
    refine ⟨Keyed.put_keys_nodup hkeys pair.1 pair.2, ?_⟩
    intro m hm
    rcases Keyed.mem_put hm with rfl | hm
    · exact h pair hpair
    · exact hvalues m hm

theorem real?_distinct {text : String} {v : Json} (h : Scalar.real? text = some v) :
    v.DistinctKeys := by
  unfold Scalar.real? at h
  split at h
  · cases h
    trivial
  · dsimp only at h
    split at h
    · split at h
      · cases h
      · obtain ⟨r, -, rfl⟩ := Option.map_eq_some_iff.mp h
        trivial
    · cases h

theorem plainValue?_distinct {text : String} {v : Json} (h : Scalar.plainValue? text = some v) :
    v.DistinctKeys := by
  unfold Scalar.plainValue? at h
  split at h
  · cases h
    trivial
  · split at h
    · cases h
      trivial
    · split at h
      · cases h
        trivial
      · cases h
      · obtain rfl := Option.some.inj h
        split
        · trivial
        · cases hreal : Scalar.real? text with
          | none => trivial
          | some r => exact real?_distinct hreal

theorem taggedValue?_distinct {tag text : String} {v : Json}
    (h : Scalar.taggedValue? tag text = some v) : v.DistinctKeys := by
  unfold Scalar.taggedValue? at h
  split at h
  · obtain ⟨b, -, rfl⟩ := Option.map_eq_some_iff.mp h
    trivial
  · split at h
    · split at h
      · cases h
        trivial
      · cases h
    · split at h
      · exact real?_distinct h
      · split at h
        · split at h
          · cases h
            trivial
          · cases h
        · cases h
          trivial

theorem scalar_distinct {tag : Option String} {plain : Bool} {text : String} {v : Json}
    (h : Scalar.value? tag plain text = some v) : v.DistinctKeys := by
  unfold Scalar.value? at h
  split at h
  · split at h
    · exact plainValue?_distinct h
    · cases h
      trivial
  · split at h
    · cases h
    · exact taggedValue?_distinct h

/-- A reading whose results are all of one sort. -/
def Gives {α : Type} (p : α → Prop) (reading : Bounded α) : Prop :=
  ∀ jumps result, reading jumps = some result → p result.1

variable {α β : Type}

theorem Gives.bind {p : α → Prop} {q : β → Prop} {reading : Bounded α} {next : α → Bounded β}
    (h : Gives p reading) (hnext : ∀ a, p a → Gives q (next a)) : Gives q (reading >>= next) := by
  intro jumps result hresult
  obtain ⟨first, hfirst, hrest⟩ := Option.bind_eq_some_iff.mp hresult
  exact hnext first.1 (h jumps first hfirst) first.2 result hrest

theorem Gives.pure {p : α → Prop} {a : α} (h : p a) : Gives p (Pure.pure a) := by
  intro jumps result hresult
  cases hresult
  exact h

theorem Gives.lift {p : α → Prop} {a? : Option α} (h : ∀ a, a? = some a → p a) :
    Gives p (liftM a? : Bounded α) := by
  intro jumps result hresult
  obtain ⟨a, ha, hpure⟩ := Option.bind_eq_some_iff.mp hresult
  cases hpure
  exact h a ha

theorem Gives.failure {p : α → Prop} : Gives p (Alternative.failure : Bounded α) := by
  intro jumps result hresult
  cases hresult

theorem gives_any (reading : Bounded α) : Gives (fun _ => True) reading :=
  fun _ _ _ => trivial

theorem Gives.mapM {p : β → Prop} {read : α → Bounded β} (h : ∀ a, Gives p (read a))
    (as : List α) : Gives (fun bs => ∀ b ∈ bs, p b) (as.mapM read) := by
  induction as with
  | nil => exact .pure fun _ hb => absurd hb List.not_mem_nil
  | cons a as ih =>
    rw [List.mapM_cons]
    refine (h a).bind fun b hb => ih.bind fun bs hbs => .pure ?_
    exact List.forall_mem_cons.mpr ⟨hb, hbs⟩

/-- Whatever is read of a node has no key twice. -/
theorem value_distinct (targets : Targets) (depth : Nat) (t : Tree) :
    Gives Json.DistinctKeys (value targets depth t) := by
  induction depth generalizing t with
  | zero =>
    refine (gives_any _).bind fun node _ => ?_
    split
    · exact .lift fun v hv => scalar_distinct hv
    · exact .failure
  | succ depth ih =>
    refine (gives_any _).bind fun node _ => ?_
    split
    · exact .lift fun v hv => scalar_distinct hv
    · split
      · exact .failure
      · refine (Gives.mapM ih _).bind fun items hitems => .pure ?_
        rw [Json.DistinctKeys]
        exact Json.itemsDistinct_iff.mpr hitems
    · split
      · exact .failure
      · dsimp only
        refine (Gives.mapM (p := fun pair : String × Json => pair.2.DistinctKeys) ?_ _).bind
          fun pairs hpairs => .pure (members_distinct hpairs)
        intro pair
        exact (gives_any _).bind fun key _ => (ih pair.2).bind fun v hv => .pure hv
    · exact .failure

theorem readRoot_value_distinct {depth : Nat} {root : Tree} {v : Json}
    (h : readRoot (value · depth) root = some v) : v.DistinctKeys := by
  obtain ⟨result, hresult, rfl⟩ := Option.map_eq_some_iff.mp h
  exact value_distinct _ depth root _ result hresult

theorem rootValues_distinct {n : Nat} {roots : List Tree} {vs : List Json}
    (h : rootValues n roots = .ok vs) : ∀ v ∈ vs, v.DistinctKeys := by
  induction roots generalizing n vs with
  | nil =>
    cases h
    exact fun _ hv => absurd hv List.not_mem_nil
  | cons root roots ih =>
    rw [rootValues] at h
    split at h
    · cases h
    · rename_i v hroot
      cases hrest : rootValues (n + 1) roots with
      | error e =>
        rw [hrest] at h
        cases h
      | ok rest =>
        rw [hrest] at h
        cases h
        exact List.forall_mem_cons.mpr ⟨readRoot_value_distinct hroot, ih hrest⟩

theorem values_distinct {text : String} {vs : List Json} (h : values text = .ok vs) :
    ∀ v ∈ vs, v.DistinctKeys := by
  unfold values at h
  dsimp only at h
  split at h
  · rename_i vs' hroots
    split at h
    · cases h
    · cases h
      exact rootValues_distinct hroots
  · cases h

end Yaml

namespace Shape

theorem slots?_distinct {names : List String} {v : Json} (hv : v.DistinctKeys) {slots : List Json}
    (h : slots? names v = some slots) : ∀ slot ∈ slots, slot.DistinctKeys := by
  unfold slots? at h
  split at h
  · rename_i members
    cases h
    intro slot hslot
    obtain ⟨name, -, rfl⟩ := List.mem_map.mp hslot
    cases hfind : Keyed.find? name members with
    | none => trivial
    | some w => exact hv.of_get? hfind
  · split at h
    · rename_i items _
      cases h
      rw [Json.DistinctKeys, Json.itemsDistinct_iff] at hv
      intro slot hslot
      rcases List.mem_append.mp hslot with hslot | hslot
      · exact hv slot hslot
      · rw [List.eq_of_mem_replicate hslot]
        trivial
    · cases h
  · cases h

theorem optional_eq_some {α : Type} {read : Json → Option α} {v : Json} {a : α}
    (h : optional read v = some (some a)) : read v = some a := by
  unfold optional at h
  split at h
  · cases h
  · obtain ⟨b, hb, hab⟩ := Option.map_eq_some_iff.mp h
    rw [hb, hab]

theorem schemaHolder?_distinct {v schema : Json} (hv : v.DistinctKeys)
    (h : schemaHolder? v = some (some schema)) : schema.DistinctKeys := by
  obtain ⟨slots, hslots, h⟩ := Option.bind_eq_some_iff.mp h
  have hdistinct := slots?_distinct hv hslots
  split at h
  · cases optional_eq_some h
    exact hdistinct _ List.mem_cons_self
  · cases h

theorem holder_distinct {v schema : Json} (hv : v.DistinctKeys) {holder : Option (Option Json)}
    (h : optional schemaHolder? v = some holder) (hschema : holder.join = some schema) :
    schema.DistinctKeys := by
  obtain rfl := Option.join_eq_some_iff.mp hschema
  exact schemaHolder?_distinct hv (optional_eq_some h)

theorem entry?_distinct {v : Json} (hv : v.DistinctKeys) {e : Entry} (h : entry? v = some e) :
    ∀ schema ∈ e.schema, schema.DistinctKeys := by
  obtain ⟨slots, hslots, h⟩ := Option.bind_eq_some_iff.mp h
  have hdistinct := slots?_distinct hv hslots
  split at h
  · simp only [Option.bind_eq_bind, Option.bind_eq_some_iff] at h
    obtain ⟨name, -, served, -, storage, -, deprecated, -, holder, hholder, h⟩ := h
    cases h
    intro schema hschema
    exact holder_distinct (hdistinct _ (by simp)) hholder hschema
  · cases h

structure Spec.DistinctKeys (spec : Spec) : Prop where
  versions : ∀ entries ∈ spec.versions, ∀ e ∈ entries, ∀ schema ∈ e.schema, schema.DistinctKeys
  sharedSchema : ∀ schema ∈ spec.sharedSchema, schema.DistinctKeys

theorem list?_entry?_distinct {v : Json} (hv : v.DistinctKeys) {entries : List Entry}
    (h : list? entry? v = some entries) :
    ∀ e ∈ entries, ∀ schema ∈ e.schema, schema.DistinctKeys := by
  cases v with
  | arr items =>
    rw [Json.DistinctKeys, Json.itemsDistinct_iff] at hv
    rw [list?] at h
    induction items generalizing entries with
    | nil =>
      cases h
      exact fun _ he => absurd he List.not_mem_nil
    | cons item items ih =>
      simp only [List.mapM_cons, Option.bind_eq_bind, Option.bind_eq_some_iff] at h
      obtain ⟨e, he, rest, hrest, h⟩ := h
      cases h
      obtain ⟨hitem, hitems⟩ := List.forall_mem_cons.mp hv
      exact List.forall_mem_cons.mpr ⟨entry?_distinct hitem he, ih hitems hrest⟩
  | _ => cases h

theorem spec?_distinct {v : Json} (hv : v.DistinctKeys) {spec : Spec} (h : spec? v = some spec) :
    spec.DistinctKeys := by
  obtain ⟨slots, hslots, h⟩ := Option.bind_eq_some_iff.mp h
  have hdistinct := slots?_distinct hv hslots
  split at h
  · simp only [Option.bind_eq_bind, Option.bind_eq_some_iff] at h
    obtain ⟨group, -, names, -, scope, -, versions, hversions, holder, hholder, h⟩ := h
    cases h
    constructor
    · intro entries hentries
      obtain rfl : versions = some entries := hentries
      exact list?_entry?_distinct (hdistinct _ (by simp)) (optional_eq_some hversions)
    · intro schema hschema
      exact holder_distinct (hdistinct _ (by simp)) hholder hschema
  · cases h

theorem document?_distinct {v : Json} (hv : v.DistinctKeys) {document : Document}
    (h : document? v = some document) : ∀ spec ∈ document.spec, spec.DistinctKeys := by
  obtain ⟨slots, hslots, h⟩ := Option.bind_eq_some_iff.mp h
  have hdistinct := slots?_distinct hv hslots
  split at h
  · simp only [Option.bind_eq_bind, Option.bind_eq_some_iff] at h
    obtain ⟨metadata, -, spec?, hspec, h⟩ := h
    cases h
    intro spec hmem
    obtain rfl : spec? = some spec := hmem
    exact spec?_distinct (hdistinct _ (by simp)) (optional_eq_some hspec)
  · cases h

end Shape

namespace Definition

theorem ofSpec?_distinct {name : Option String} {spec : Shape.Spec} (hspec : spec.DistinctKeys)
    {d : Definition} (h : ofSpec? name spec = some d) : d.DistinctKeys := by
  simp only [ofSpec?, Option.bind_eq_bind, Option.bind_eq_some_iff] at h
  obtain ⟨group, -, names, -, kind, -, h⟩ := h
  split at h
  · cases h
  · cases h
    intro v hv schema hschema
    obtain ⟨e, he, hversion⟩ := List.mem_filterMap.mp hv
    obtain ⟨name, -, rfl⟩ := Option.map_eq_some_iff.mp hversion
    rcases Option.or_eq_some_iff.mp hschema with hown | ⟨-, hshared⟩
    · cases hversions : spec.versions with
      | none =>
        rw [hversions] at he
        exact absurd he List.not_mem_nil
      | some entries =>
        rw [hversions] at he
        exact hspec.versions entries hversions e he schema hown
    · exact hspec.sharedSchema schema hshared

theorem ofJson?_distinct {v : Json} (hv : v.DistinctKeys) {d : Definition}
    (h : ofJson? v = some d) : d.DistinctKeys := by
  unfold ofJson? at h
  split at h
  · cases h
  · obtain ⟨document, hdocument, h⟩ := Option.bind_eq_some_iff.mp h
    obtain ⟨spec, hspec, h⟩ := Option.bind_eq_some_iff.mp h
    exact ofSpec?_distinct (Shape.document?_distinct hv hdocument spec hspec) h

end Definition

namespace Bundle

/-- The definitions in a value without repeated keys have none either, however deep they are. -/
theorem definitions_distinct :
    (∀ v : Json, v.DistinctKeys → ∀ d ∈ definitions v, d.DistinctKeys) ∧
    (∀ members, Json.MembersDistinct members → ∀ d ∈ listed members, d.DistinctKeys) ∧
    ∀ vs, Json.ItemsDistinct vs → ∀ d ∈ all vs, d.DistinctKeys := by
  apply definitions.mutual_induct
    (fun v => v.DistinctKeys → ∀ d ∈ definitions v, d.DistinctKeys)
    (fun members => Json.MembersDistinct members → ∀ d ∈ listed members, d.DistinctKeys)
    (fun vs => Json.ItemsDistinct vs → ∀ d ∈ all vs, d.DistinctKeys)
  case case1 =>
    intro members hkind hv d hd
    rw [definitions, if_pos hkind] at hd
    exact Definition.ofJson?_distinct hv (Option.mem_toList.mp hd)
  case case2 =>
    intro members hkind hlist ih hv d hd
    rw [definitions, if_neg hkind, if_pos hlist] at hd
    rw [Json.DistinctKeys] at hv
    exact ih hv.2 d hd
  case case3 =>
    intro members hkind hlist hv d hd
    rw [definitions, if_neg hkind, if_neg hlist] at hd
    exact absurd hd List.not_mem_nil
  case case4 =>
    intro v hother hv d hd
    rw [definitions] at hd
    · exact absurd hd List.not_mem_nil
    · exact hother
  case case5 =>
    intro hvs d hd
    rw [all] at hd
    exact absurd hd List.not_mem_nil
  case case6 =>
    intro v vs ihValue ihValues hvs d hd
    rw [Json.ItemsDistinct] at hvs
    rw [all] at hd
    rcases List.mem_append.mp hd with hd | hd
    · exact ihValue hvs.1 d hd
    · exact ihValues hvs.2 d hd
  case case7 =>
    intro hmembers d hd
    rw [listed] at hd
    exact absurd hd List.not_mem_nil
  case case8 =>
    intro items members ih hmembers d hd
    rw [Json.MembersDistinct, Json.DistinctKeys] at hmembers
    rw [listed, if_pos rfl] at hd
    exact ih hmembers.1 d hd
  case case9 =>
    intro key items members hkey ih hmembers d hd
    rw [Json.MembersDistinct] at hmembers
    rw [listed, if_neg hkey] at hd
    exact ih hmembers.2 d hd
  case case10 =>
    intro v members hother hmembers d hd
    rw [listed, if_pos rfl] at hd
    · exact absurd hd List.not_mem_nil
    · exact hother
  case case11 =>
    intro key v members hother hkey ih hmembers d hd
    rw [Json.MembersDistinct] at hmembers
    rw [listed, if_neg hkey] at hd
    · exact ih hmembers.2 d hd
    · exact hother

/-- The definitions of a bundle have schemas without repeated keys. -/
theorem ofText_distinct {text : String} {ds : List Definition} (h : ofText text = .ok ds) :
    ∀ d ∈ ds, d.DistinctKeys := by
  unfold ofText at h
  split at h
  · rename_i documents hvalues
    cases h
    have hdocuments := Json.itemsDistinct_iff.mpr (Yaml.values_distinct hvalues)
    exact definitions_distinct.2.2 documents hdocuments
  · cases h

end Bundle
end CrdBindings
