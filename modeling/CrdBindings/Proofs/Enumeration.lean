import CrdBindings.Proofs.DistinctKeys
import CrdBindings.Proofs.Equality
import CrdBindings.Schema
import Mathlib.Data.List.Perm.Subperm

/-!
The values that a schema lists. Of equal values the first is kept, so that no two of those that are kept
are equal, whichever of the two is compared with the other.
-/

namespace CrdBindings
set_option autoImplicit false

theorem Real64.same_symm {a b : Real64} (h : a.same b) : b.same a := by
  simp only [Real64.same, Bool.or_eq_true, Bool.and_eq_true, beq_iff_eq] at *
  rcases h with ⟨ha, hb⟩ | rfl
  · exact .inl ⟨hb, ha⟩
  · exact .inr rfl

/-- Those of some items to which no item in front of them is related, where `earlier` come before them. -/
def firstsBy {α : Type} (rel : α → α → Bool) (earlier : List α) : List α → List α
  | [] => []
  | a :: as =>
    if earlier.any (rel · a) then firstsBy rel (earlier ++ [a]) as
    else a :: firstsBy rel (earlier ++ [a]) as

section Firsts

variable {α : Type} {rel : α → α → Bool}

theorem firstsBy_sublist (earlier as : List α) : (firstsBy rel earlier as).Sublist as := by
  induction as generalizing earlier with
  | nil => exact .slnil
  | cons a as ih =>
    rw [firstsBy]
    split
    · exact (ih _).cons _
    · exact (ih _).cons_cons _

theorem not_rel_of_mem_firstsBy {earlier as : List α} {b : α} (h : b ∈ firstsBy rel earlier as) :
    ∀ a ∈ earlier, rel a b = false := by
  induction as generalizing earlier with
  | nil => cases h
  | cons first as ih =>
    have hrest : b ∈ firstsBy rel (earlier ++ [first]) as → ∀ a ∈ earlier, rel a b = false :=
      fun hmem a ha => ih hmem a (List.mem_append_left _ ha)
    rw [firstsBy] at h
    split at h
    · exact hrest h
    · rename_i hnew
      rcases List.mem_cons.mp h with rfl | h
      · intro a ha
        rw [← Bool.not_eq_true]
        exact fun hrel => hnew (List.any_eq_true.mpr ⟨a, ha, hrel⟩)
      · exact hrest h

theorem firstsBy_pairwise (earlier as : List α) :
    (firstsBy rel earlier as).Pairwise fun a b => rel a b = false := by
  induction as generalizing earlier with
  | nil => exact .nil
  | cons a as ih =>
    rw [firstsBy]
    split
    · exact ih _
    · refine List.pairwise_cons.mpr ⟨fun b hb => ?_, ih _⟩
      exact not_rel_of_mem_firstsBy hb a (List.mem_append_right _ List.mem_cons_self)

end Firsts

namespace Json

theorem sameMembers_iff {as bs : List (String × Json)} :
    sameMembers as bs ↔ ∀ m ∈ as, ∃ b, Keyed.find? m.1 bs = some b ∧ m.2.same b := by
  induction as with
  | nil => simp [sameMembers]
  | cons member as ih =>
    obtain ⟨k, a⟩ := member
    rw [sameMembers, Bool.and_eq_true, ih, List.forall_mem_cons]
    apply and_congr_left'
    cases Keyed.find? k bs <;> simp

/-- Of two lists of one length without repeated keys, the second has no further key. -/
theorem keys_subset {as bs : List (String × Json)} (has : (as.map Prod.fst).Nodup)
    (hlength : as.length = bs.length) (h : sameMembers as bs) :
    bs.map Prod.fst ⊆ as.map Prod.fst := by
  have hsub : as.map Prod.fst ⊆ bs.map Prod.fst := by
    intro key hkey
    obtain ⟨m, hm, rfl⟩ := List.mem_map.mp hkey
    obtain ⟨b, hb, -⟩ := sameMembers_iff.mp h m hm
    exact Keyed.mem_keys_iff.mpr ⟨b, hb⟩
  have hperm := (has.subperm hsub).perm_of_length_le (by simp [hlength])
  exact hperm.symm.subset

mutual

theorem same_symm : ∀ {a b : Json}, a.DistinctKeys → b.DistinctKeys → a.same b → b.same a
  | .null, b, _, _, h => by cases b <;> first | rfl | cases h
  | .bool x, b, _, _, h => by
    cases b with
    | bool y =>
      obtain rfl : x = y := by simpa [same] using h
      exact h
    | _ => cases h
  | .int x, b, _, _, h => by
    cases b with
    | int y =>
      obtain rfl : x = y := by simpa [same] using h
      exact h
    | _ => cases h
  | .str x, b, _, _, h => by
    cases b with
    | str y =>
      obtain rfl : x = y := by simpa [same] using h
      exact h
    | _ => cases h
  | .real x, b, _, _, h => by
    cases b with
    | real y =>
      rw [same] at h ⊢
      exact Real64.same_symm h
    | _ => cases h
  | .arr as, b, ha, hb, h => by
    cases b with
    | arr bs =>
      rw [same] at h ⊢
      rw [DistinctKeys] at ha hb
      exact sameItems_symm ha hb h
    | _ => cases h
  | .obj as, b, ha, hb, h => by
    cases b with
    | obj bs =>
      rw [same, Bool.and_eq_true, beq_iff_eq] at h ⊢
      rw [DistinctKeys] at ha hb
      obtain ⟨hlength, hsame⟩ := h
      refine ⟨hlength.symm, sameMembers_iff.mpr fun m hm => ?_⟩
      obtain ⟨k, y⟩ := m
      have hkey := keys_subset ha.1 hlength hsame (List.mem_map_of_mem hm)
      obtain ⟨x, hx⟩ := Keyed.mem_keys_iff.mp hkey
      -- The members of one key are found in each other.
      obtain ⟨y', hy', hxy⟩ := sameMembers_iff.mp hsame (k, x) (Keyed.mem_of_find? hx)
      obtain rfl : y = y' := Option.some.inj ((Keyed.find?_of_mem hb.1 hm).symm.trans hy')
      exact ⟨x, hx, members_symm ha.2 (k, x) (Keyed.mem_of_find? hx)
        (membersDistinct_iff.mp hb.2 _ hm) hxy⟩
    | _ => cases h

theorem sameItems_symm : ∀ {as bs : List Json},
    ItemsDistinct as → ItemsDistinct bs → sameItems as bs → sameItems bs as
  | [], bs, _, _, h => by
    cases bs with
    | nil => rfl
    | cons b bs => cases h
  | a :: as, bs, ha, hb, h => by
    cases bs with
    | nil => cases h
    | cons b bs =>
      rw [sameItems, Bool.and_eq_true] at h ⊢
      rw [ItemsDistinct] at ha hb
      exact ⟨same_symm ha.1 hb.1 h.1, sameItems_symm ha.2 hb.2 h.2⟩

theorem members_symm : ∀ {as : List (String × Json)}, MembersDistinct as → ∀ m ∈ as, ∀ {b : Json},
    b.DistinctKeys → m.2.same b → b.same m.2
  | [], _, _, hm, _, _, _ => absurd hm List.not_mem_nil
  | (k, a) :: as, has, m, hm, b, hb, h => by
    rw [MembersDistinct] at has
    rcases List.mem_cons.mp hm with rfl | hm
    · exact same_symm has.1 hb h
    · exact members_symm has.2 m hm hb h

end

end Json

namespace Schema

/-- The values that were kept stand for all values so far: a value that was dropped equals one of them,
and equality is transitive. -/
theorem addNew_eq_firstsBy {seen earlier : List Json} (values : List Json)
    (h : ∀ v, seen.any (·.same v) = earlier.any (·.same v)) :
    addNew seen values = seen ++ firstsBy Json.same earlier values := by
  induction values generalizing seen earlier with
  | nil => rw [addNew, firstsBy, List.append_nil]
  | cons v vs ih =>
    rw [addNew, firstsBy, ← h v]
    split
    · rename_i hseen
      apply ih
      intro w
      rw [List.any_append, ← h w]
      cases hw : v.same w with
      | false => simp [hw]
      | true =>
        obtain ⟨kept, hkept, hv⟩ := List.any_eq_true.mp hseen
        have hkeptw : seen.any (·.same w) = true :=
          List.any_eq_true.mpr ⟨kept, hkept, Json.same_trans hv hw⟩
        rw [hkeptw]
        rfl
    · rw [ih, List.append_assoc, List.singleton_append]
      intro w
      rw [List.any_append, List.any_append, h w]

/-- Listed values without repetition, in the order in which they first come. -/
structure Enumerates (items values : List Json) : Prop where
  eq_firsts : values = firstsBy Json.same [] items
  nonempty : values ≠ []
  distinct : values.Pairwise fun a b => a.same b = false ∧ b.same a = false

theorem enumValues?_enumerates {schema : Json} (hschema : schema.DistinctKeys) {values : List Json}
    (h : enumValues? schema = some values) :
    ∃ items, list? "enum" schema = some items ∧ Enumerates items values := by
  unfold enumValues? at h
  split at h
  · rename_i v vs hlist
    have hvalues : values = firstsBy Json.same [] (v :: vs) := by
      rw [← Option.some.inj h]
      exact addNew_eq_firstsBy _ fun _ => rfl
    refine ⟨v :: vs, hlist, hvalues, ?_, ?_⟩
    · rw [hvalues]
      exact List.cons_ne_nil v _
    · have hitems : ∀ w ∈ v :: vs, w.DistinctKeys := by
        have hget : schema.get? "enum" = some (.arr (v :: vs)) := by
          unfold list? at hlist
          split at hlist
          · rename_i items hget
            rw [hget, Option.some.inj hlist]
          · cases hlist
        have harray := hschema.of_get? hget
        rw [Json.DistinctKeys] at harray
        exact Json.itemsDistinct_iff.mp harray
      have hsub : ∀ w ∈ firstsBy Json.same [] (v :: vs), w.DistinctKeys := fun w hw =>
        hitems w ((firstsBy_sublist [] (v :: vs)).subset hw)
      rw [hvalues]
      refine (firstsBy_pairwise [] (v :: vs)).imp_of_mem fun {a b} ha hb hab => ⟨hab, ?_⟩
      -- Equality is symmetric where no key comes twice.
      rw [← Bool.not_eq_true] at hab ⊢
      exact fun hba => hab (Json.same_symm (hsub b hb) (hsub a ha) hba)
  · cases h

end Schema
end CrdBindings
