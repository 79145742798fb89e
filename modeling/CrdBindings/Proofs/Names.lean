import CrdBindings.Names
import Mathlib.Data.List.Nodup
import Mathlib.Data.List.Perm.Subperm

/-!
Claims of names. A claim always gives a name that was free, so the names claimed from one registry
differ from each other and from those that were taken before.
-/

namespace CrdBindings.Names
set_option autoImplicit false

theorem numbered_injective (base : String) : Function.Injective (numbered base) := by
  intro n k h
  have hdigits : (toString n).toList = (toString k).toList := by
    have hlist := congrArg String.toList h
    simpa only [numbered, String.toList_append, List.append_cancel_left_eq] using hlist
  have hvalue := congrArg (fun digits => Nat.ofDigitChars 10 digits 0) hdigits
  simpa [Nat.toString_eq_ofList_toDigits] using hvalue

/-- A search that ends in a taken name has tried every number on its way. -/
theorem taken_of_firstFree_mem (taken : List String) (base : String) (tries n : Nat)
    (h : firstFree taken base tries n ∈ taken) :
    ∀ k, n ≤ k → k ≤ n + tries → numbered base k ∈ taken := by
  induction tries generalizing n with
  | zero =>
    intro k hlow hhigh
    have hk : k = n := by omega
    subst hk
    exact h
  | succ tries ih =>
    simp only [firstFree] at h
    split at h
    · rename_i hn
      intro k hlow hhigh
      rcases Nat.eq_or_lt_of_le hlow with rfl | hlt
      · exact hn
      · exact ih (n + 1) h k hlt (by omega)
    · rename_i hn
      exact absurd h hn

/-- With as many tries as there are taken names, one of the numbers is free. -/
theorem firstFree_not_mem (taken : List String) (base : String) (n : Nat) :
    firstFree taken base taken.length n ∉ taken := by
  intro h
  have hall := taken_of_firstFree_mem taken base taken.length n h
  have hsub : (List.range' n (taken.length + 1)).map (numbered base) ⊆ taken := by
    intro name hname
    obtain ⟨k, hk, rfl⟩ := List.mem_map.mp hname
    rw [List.mem_range'_1] at hk
    exact hall k hk.1 (by omega)
  have hnodup : ((List.range' n (taken.length + 1)).map (numbered base)).Nodup :=
    (List.nodup_range').map (numbered_injective base)
  have hle := (hnodup.subperm hsub).length_le
  simp only [List.length_map, List.length_range'] at hle
  omega

theorem nameFor_not_mem (names : Names) (wanted : String) :
    names.nameFor wanted ∉ names.taken := by
  unfold nameFor
  split
  · exact firstFree_not_mem names.taken (Ident.bare wanted) 2
  · assumption

@[simp] theorem claim_taken (names : Names) (wanted : String) :
    (names.claim wanted).2.taken = (names.claim wanted).1 :: names.taken := rfl

theorem claim_nodup {names : Names} (h : names.taken.Nodup) (wanted : String) :
    (names.claim wanted).2.taken.Nodup :=
  List.nodup_cons.mpr ⟨nameFor_not_mem names wanted, h⟩

theorem claimAll_length (names : Names) (wanted : List String) :
    (names.claimAll wanted).1.length = wanted.length := by
  induction wanted generalizing names with
  | nil => rfl
  | cons w ws ih => simp only [claimAll, List.length_cons, ih]

theorem claimAll_taken (names : Names) (wanted : List String) :
    (names.claimAll wanted).2.taken = (names.claimAll wanted).1.reverse ++ names.taken := by
  induction wanted generalizing names with
  | nil => rfl
  | cons w ws ih => simp [claimAll, ih]

theorem claimAll_nodup {names : Names} (h : names.taken.Nodup) (wanted : List String) :
    (names.claimAll wanted).2.taken.Nodup := by
  induction wanted generalizing names with
  | nil => exact h
  | cons w ws ih => exact ih (claim_nodup h w)

/-- The names of a row of claims are free before it, and differ from each other. -/
theorem claimAll_fresh (names : Names) (wanted : List String) :
    (names.claimAll wanted).1.Nodup ∧ ∀ name ∈ (names.claimAll wanted).1, name ∉ names.taken := by
  induction wanted generalizing names with
  | nil => exact ⟨List.nodup_nil, List.forall_mem_nil _⟩
  | cons w ws ih =>
    obtain ⟨hnodup, hfree⟩ := ih (names.claim w).2
    simp only [claim_taken, List.mem_cons, not_or] at hfree
    constructor
    · exact List.nodup_cons.mpr ⟨fun hmem => (hfree _ hmem).1 rfl, hnodup⟩
    · exact List.forall_mem_cons.mpr
        ⟨nameFor_not_mem names w, fun name hname => (hfree name hname).2⟩

end CrdBindings.Names
