import CrdBindings.Proofs.Ident.Reserved
import CrdBindings.Proofs.Names
import Mathlib.Order.Bounds.Basic

/-!
Which name a claim gives: the wanted one when it is free, and otherwise its plain form with the least
number from 2 on that makes it free. The search for the number has no bound of its own, and ends for
any names that are taken. Claims in a row give names that differ, and names of fields differ without the
mark of their raw form too.
-/

namespace CrdBindings
set_option autoImplicit false

namespace Ident

/-- The marks of raw forms that may stand in front of a name. -/
def rawMarks (n : Nat) : List Char := (List.replicate n "r#".toList).flatten

/-- A name without the marks of raw forms in front of it. -/
structure IsBare (ident base : String) : Prop where
  marked : ∃ n, ident.toList = rawMarks n ++ base.toList
  unmarked : ¬ "r#".toList <+: base.toList

theorem dropRaw_marks (cs : List Char) :
    (∃ n, cs = rawMarks n ++ dropRaw cs) ∧ ¬ "r#".toList <+: dropRaw cs := by
  induction cs using dropRaw.induct with
  | case1 cs ih =>
    obtain ⟨⟨n, hn⟩, hplain⟩ := ih
    rw [dropRaw]
    refine ⟨⟨n + 1, ?_⟩, hplain⟩
    rw [rawMarks, List.replicate_succ, List.flatten_cons, List.append_assoc, ← rawMarks, ← hn]
    rfl
  | case2 cs hraw =>
    rw [dropRaw.eq_2 cs hraw]
    refine ⟨⟨0, rfl⟩, ?_⟩
    rintro ⟨rest, hrest⟩
    exact hraw rest hrest.symm

theorem bare_isBare (ident : String) : IsBare ident (bare ident) := by
  have hlist : (bare ident).toList = dropRaw ident.toList := String.toList_ofList
  obtain ⟨hmarks, hplain⟩ := dropRaw_marks ident.toList
  rw [← hlist] at hmarks hplain
  exact ⟨hmarks, hplain⟩

end Ident

namespace Names

/-- A search from a number on that passes over taken names and ends with a free one. -/
inductive Finds (taken : List String) (base : String) : Nat → String → Prop where
  | free {n : Nat} : numbered base n ∉ taken → Finds taken base n (numbered base n)
  | next {n : Nat} {name : String} : numbered base n ∈ taken → Finds taken base (n + 1) name →
      Finds taken base n name

/-- The bounded search finds what the search without a bound does, if it ends with a free name. -/
theorem finds_firstFree {taken : List String} {base : String} {tries n : Nat}
    (h : firstFree taken base tries n ∉ taken) :
    Finds taken base n (firstFree taken base tries n) := by
  induction tries generalizing n with
  | zero => exact .free h
  | succ tries ih =>
    unfold firstFree at h ⊢
    split
    · rename_i hn
      rw [if_pos hn] at h
      exact .next hn (ih h)
    · rename_i hn
      exact .free hn

theorem Finds.isLeast {taken : List String} {base name : String} {n : Nat}
    (h : Finds taken base n name) :
    ∃ k, name = numbered base k ∧ IsLeast {k | n ≤ k ∧ numbered base k ∉ taken} k := by
  induction h with
  | @free n hfree => exact ⟨n, rfl, ⟨Nat.le_refl n, hfree⟩, fun k hk => hk.1⟩
  | @next n name htaken _ ih =>
    obtain ⟨k, hname, ⟨hle, hfree⟩, hleast⟩ := ih
    refine ⟨k, hname, ⟨Nat.le_of_succ_le hle, hfree⟩, ?_⟩
    rintro j ⟨hj, hjfree⟩
    have hne : n ≠ j := by
      rintro rfl
      exact hjfree htaken
    exact hleast ⟨Nat.lt_of_le_of_ne hj hne, hjfree⟩

theorem claim_of_free {names : Names} {wanted : String} (h : wanted ∉ names.taken) :
    (names.claim wanted).1 = wanted := if_neg h

/-- A claim of a taken name finds the least number for it, in no more tries than names are taken and
one. -/
theorem claim_of_taken {names : Names} {wanted : String} (h : wanted ∈ names.taken) :
    Finds names.taken (Ident.bare wanted) 2 (names.claim wanted).1 ∧
    ∃ n ≤ 2 + names.taken.length, (names.claim wanted).1 = numbered (Ident.bare wanted) n ∧
      IsLeast {n | 2 ≤ n ∧ numbered (Ident.bare wanted) n ∉ names.taken} n := by
  have hname : (names.claim wanted).1 =
      firstFree names.taken (Ident.bare wanted) names.taken.length 2 := if_pos h
  have hfinds := finds_firstFree (firstFree_not_mem names.taken (Ident.bare wanted) 2)
  rw [← hname] at hfinds
  refine ⟨hfinds, ?_⟩
  obtain ⟨n, hn, hleast⟩ := hfinds.isLeast
  obtain ⟨k, hk, hbound⟩ :=
    firstFree_eq_numbered names.taken (Ident.bare wanted) names.taken.length 2
  obtain rfl := numbered_injective _ ((hname.symm.trans hn).symm.trans hbound)
  exact ⟨n, hk, hn, hleast⟩

/-- Names claimed for fields, from any registry, differ in their plain forms. -/
theorem claimAll_field_bare_nodup (names : Names) (properties : List String) :
    ((names.claimAll (properties.map Ident.field)).1.map Ident.bare).Nodup := by
  -- An escaped identifier is known from its plain form.
  have hescaped : ∀ ident ∈ (names.claimAll (properties.map Ident.field)).1,
      Ident.IsField ident ∧ Ident.Escaped ident := by
    apply claimAll_of_claim claim_escaped
    intro wanted hwanted
    obtain ⟨property, -, rfl⟩ := List.mem_map.mp hwanted
    exact ⟨Ident.field_isField property, Ident.field_escaped property⟩
  exact Ident.Escaped.bare_nodup (fun ident h => (hescaped ident h).2) (claimAll_fresh names _).1

/-- A claim gives a free name and takes just that one: the wanted name if it is free, and otherwise its
plain form with the least number from 2 on that no taken name has. The search ends, after no more tries
than names are taken and one. The names of any row of claims differ, and those for fields differ without
the marks of raw forms too. -/
theorem claims_differ (names : Names) :
    (∀ wanted,
      (names.claim wanted).1 ∉ names.taken ∧
      (∀ name, name ∈ (names.claim wanted).2.taken ↔
        name = (names.claim wanted).1 ∨ name ∈ names.taken) ∧
      if wanted ∈ names.taken then
        ∃ base, Ident.IsBare wanted base ∧ Finds names.taken base 2 (names.claim wanted).1 ∧
          ∃ n ≤ 2 + names.taken.length, (names.claim wanted).1 = numbered base n ∧
            IsLeast {n | 2 ≤ n ∧ numbered base n ∉ names.taken} n
      else (names.claim wanted).1 = wanted) ∧
    (∀ wanted, (names.claimAll wanted).1.Nodup ∧
      ∀ name ∈ (names.claimAll wanted).1, name ∉ names.taken) ∧
    ∀ properties : List String,
      ((names.claimAll (properties.map Ident.field)).1.map Ident.bare).Nodup := by
  refine ⟨fun wanted => ⟨nameFor_not_mem names wanted, ?_, ?_⟩, claimAll_fresh names,
    claimAll_field_bare_nodup names⟩
  · intro name
    rw [claim_taken, List.mem_cons]
  · split
    · rename_i htaken
      exact ⟨Ident.bare wanted, Ident.bare_isBare wanted, claim_of_taken htaken⟩
    · rename_i hfree
      exact claim_of_free hfree

/-- The plain form of a claimed name may meet a number that another one has. -/
example : (Names.empty.claimAll ["type2", "r#type", "r#type"]).1 = ["type2", "r#type", "type3"] := by
  decide +kernel

end Names
end CrdBindings
