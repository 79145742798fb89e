import CrdBindings.Json

/-!
Equality of JSON values is transitive, also where an object has a key twice.
-/

namespace CrdBindings
set_option autoImplicit false

theorem Real64.same_trans {a b c : Real64} (hab : a.same b) (hbc : b.same c) : a.same c := by
  simp only [Real64.same, Bool.or_eq_true, Bool.and_eq_true, beq_iff_eq] at *
  rcases hab with ⟨ha, hb⟩ | rfl
  · rcases hbc with ⟨-, hc⟩ | rfl
    · exact .inl ⟨ha, hc⟩
    · exact .inl ⟨ha, hb⟩
  · exact hbc

namespace Json

theorem find?_of_sameMembers {bs cs : List (String × Json)} (h : sameMembers bs cs) {key : String}
    {b : Json} (hfind : Keyed.find? key bs = some b) :
    ∃ c, Keyed.find? key cs = some c ∧ b.same c := by
  induction bs with
  | nil => cases hfind
  | cons member bs ih =>
    obtain ⟨k, v⟩ := member
    rw [sameMembers, Bool.and_eq_true] at h
    rw [Keyed.find?] at hfind
    split at hfind
    · rename_i hk
      obtain rfl := Option.some.inj hfind
      subst hk
      cases hc : Keyed.find? k cs with
      | none => simp [hc] at h
      | some c =>
        rw [hc] at h
        exact ⟨c, rfl, h.1⟩
    · exact ih h.2 hfind

mutual

theorem same_trans : ∀ {a b c : Json}, a.same b → b.same c → a.same c
  | .null, b, c, hab, hbc => by
    cases b with
    | null => exact hbc
    | _ => cases hab
  | .bool x, b, c, hab, hbc => by
    cases b with
    | bool y =>
      obtain rfl : x = y := by simpa [same] using hab
      exact hbc
    | _ => cases hab
  | .int x, b, c, hab, hbc => by
    cases b with
    | int y =>
      obtain rfl : x = y := by simpa [same] using hab
      exact hbc
    | _ => cases hab
  | .str x, b, c, hab, hbc => by
    cases b with
    | str y =>
      obtain rfl : x = y := by simpa [same] using hab
      exact hbc
    | _ => cases hab
  | .real x, b, c, hab, hbc => by
    cases b with
    | real y =>
      cases c with
      | real z =>
        rw [same] at hab hbc ⊢
        exact Real64.same_trans hab hbc
      | _ => cases hbc
    | _ => cases hab
  | .arr as, b, c, hab, hbc => by
    cases b with
    | arr bs =>
      cases c with
      | arr cs =>
        rw [same] at hab hbc ⊢
        exact sameItems_trans hab hbc
      | _ => cases hbc
    | _ => cases hab
  | .obj as, b, c, hab, hbc => by
    cases b with
    | obj bs =>
      cases c with
      | obj cs =>
        rw [same, Bool.and_eq_true, beq_iff_eq] at hab hbc ⊢
        exact ⟨hab.1.trans hbc.1, sameMembers_trans hab.2 hbc.2⟩
      | _ => cases hbc
    | _ => cases hab

theorem sameItems_trans : ∀ {as bs cs : List Json},
    sameItems as bs → sameItems bs cs → sameItems as cs
  | [], bs, cs, hab, hbc => by
    cases bs with
    | nil => exact hbc
    | cons b bs => cases hab
  | a :: as, bs, cs, hab, hbc => by
    cases bs with
    | nil => cases hab
    | cons b bs =>
      cases cs with
      | nil => cases hbc
      | cons c cs =>
        rw [sameItems, Bool.and_eq_true] at hab hbc ⊢
        exact ⟨same_trans hab.1 hbc.1, sameItems_trans hab.2 hbc.2⟩

theorem sameMembers_trans : ∀ {as bs cs : List (String × Json)},
    sameMembers as bs → sameMembers bs cs → sameMembers as cs
  | [], _, _, _, _ => rfl
  | (k, a) :: as, bs, cs, hab, hbc => by
    rw [sameMembers, Bool.and_eq_true] at hab ⊢
    refine ⟨?_, sameMembers_trans hab.2 hbc⟩
    cases hb : Keyed.find? k bs with
    | none => simp [hb] at hab
    | some b =>
      rw [hb] at hab
      obtain ⟨c, hc, hsame⟩ := find?_of_sameMembers hbc hb
      rw [hc]
      exact same_trans hab.1 hsame

end

end Json
end CrdBindings
