import CrdBindings.Definition.OfJson
import CrdBindings.Importer.Merging
import CrdBindings.Proofs.Enumeration

/-!
The modules that are kept of several imports. Modules are told apart by their API versions alone, and
the texts of two of them agree also where a part between slashes ends the group of the one and starts the
version of the other.
-/

namespace CrdBindings
set_option autoImplicit false

section Firsts

variable {α : Type} {fine coarse : α → α → Bool}

theorem any_of_imp (h : ∀ a b, fine a b → coarse a b) {earlier : List α} {a : α}
    (hfine : earlier.any (fine · a)) : earlier.any (coarse · a) := by
  obtain ⟨b, hb, hrel⟩ := List.any_eq_true.mp hfine
  exact List.any_eq_true.mpr ⟨b, hb, h b a hrel⟩

/-- Under a coarser relation fewer items are the first ones. -/
theorem firstsBy_sublist_firstsBy (h : ∀ a b, fine a b → coarse a b) (earlier as : List α) :
    (firstsBy coarse earlier as).Sublist (firstsBy fine earlier as) := by
  induction as generalizing earlier with
  | nil => exact .slnil
  | cons a as ih =>
    rw [firstsBy, firstsBy]
    by_cases hfine : earlier.any (fine · a)
    · rw [if_pos hfine, if_pos (any_of_imp h hfine)]
      exact ih _
    · rw [if_neg hfine]
      split
      · exact (ih _).cons _
      · exact (ih _).cons_cons _

/-- The same items are the first ones unless one is related to an earlier item by the coarser relation
only. -/
theorem firstsBy_eq_iff (h : ∀ a b, fine a b → coarse a b) {earlier as : List α} :
    firstsBy coarse earlier as = firstsBy fine earlier as ↔
      ∀ before a after, as = before ++ a :: after →
        (earlier ++ before).any (coarse · a) → (earlier ++ before).any (fine · a) := by
  induction as generalizing earlier with
  | nil => simp [firstsBy]
  | cons first as ih =>
    have hsplit : (∀ before a after, first :: as = before ++ a :: after →
          (earlier ++ before).any (coarse · a) → (earlier ++ before).any (fine · a)) ↔
        (earlier.any (coarse · first) → earlier.any (fine · first)) ∧
          ∀ before a after, as = before ++ a :: after →
            (earlier ++ [first] ++ before).any (coarse · a) →
            (earlier ++ [first] ++ before).any (fine · a) := by
      constructor
      · intro hall
        refine ⟨by simpa using hall [] first as rfl, fun before a after has => ?_⟩
        rw [List.append_assoc, List.singleton_append]
        exact hall (first :: before) a after (by rw [has, List.cons_append])
      · rintro ⟨hfirst, hrest⟩ (_ | ⟨b, before⟩) a after has
        · obtain ⟨rfl, rfl⟩ := List.cons.inj has
          simpa using hfirst
        · obtain ⟨rfl, htail⟩ := List.cons.inj has
          simpa using hrest before a after htail
    rw [hsplit, ← ih, firstsBy, firstsBy]
    by_cases hfine : earlier.any (fine · first)
    · rw [if_pos hfine, if_pos (any_of_imp h hfine)]
      exact ⟨fun heq => ⟨fun _ => hfine, heq⟩, And.right⟩
    · rw [if_neg hfine]
      by_cases hcoarse : earlier.any (coarse · first)
      -- The item is dropped under the coarser relation, and no other can make up for it.
      · rw [if_pos hcoarse]
        refine ⟨fun heq => ?_, fun hand => absurd (hand.1 hcoarse) hfine⟩
        have hlength := (firstsBy_sublist_firstsBy h (earlier ++ [first]) as).length_le
        rw [heq, List.length_cons] at hlength
        omega
      · rw [if_neg hcoarse, List.cons.injEq]
        exact ⟨fun heq => ⟨fun hany => absurd hany hcoarse, heq.2⟩, fun hand => ⟨rfl, hand.2⟩⟩

end Firsts

namespace TypedModule

def sameText (a b : TypedModule) : Bool := a.apiVersion == b.apiVersion

def sameVersion (a b : TypedModule) : Bool := a.group == b.group && a.version == b.version

/-- The group of `a` goes on behind a slash with what the version of `b` starts with. -/
def Overhangs (a b : TypedModule) : Prop :=
  ∃ middle : String, a.group = b.group ++ "/" ++ middle ∧ b.version = middle ++ "/" ++ a.version

theorem sameVersion_iff {a b : TypedModule} :
    sameVersion a b ↔ a.group = b.group ∧ a.version = b.version := by
  rw [sameVersion, Bool.and_eq_true, beq_iff_eq, beq_iff_eq]

theorem apiVersion_eq (m : TypedModule) : m.apiVersion = m.group ++ "/" ++ m.version := rfl

theorem sameText_of_sameVersion (a b : TypedModule) (h : sameVersion a b) : sameText a b := by
  obtain ⟨hgroup, hversion⟩ := sameVersion_iff.mp h
  rw [sameText, apiVersion_eq, apiVersion_eq, hgroup, hversion, beq_self_eq_true]

theorem Overhangs.apiVersion_eq {a b : TypedModule} (h : Overhangs a b) :
    a.apiVersion = b.apiVersion := by
  obtain ⟨middle, hgroup, hversion⟩ := h
  rw [TypedModule.apiVersion_eq, TypedModule.apiVersion_eq, hgroup, hversion]
  simp only [String.append_assoc]

/-- Two modules share their API version if they are of one group and version, or if one group overhangs
the other. -/
theorem apiVersion_eq_iff {a b : TypedModule} :
    a.apiVersion = b.apiVersion ↔
      (a.group = b.group ∧ a.version = b.version) ∨ Overhangs a b ∨ Overhangs b a := by
  constructor
  · intro h
    rw [apiVersion_eq, apiVersion_eq, ← String.toList_inj] at h
    simp only [String.toList_append, List.append_assoc] at h
    have hslash : "/".toList = ['/'] := rfl
    rw [hslash] at h
    -- One group is a beginning of the other, and the rest of that goes into the version.
    have hover : ∀ {a b : TypedModule} {rest : List Char}, b.group.toList ++ rest = a.group.toList →
        ['/'] ++ b.version.toList = rest ++ (['/'] ++ a.version.toList) →
        (a.group = b.group ∧ a.version = b.version) ∨ Overhangs a b := by
      intro a b rest hgroup hversion
      cases rest with
      | nil =>
        rw [List.append_nil] at hgroup
        rw [List.nil_append, List.append_cancel_left_eq] at hversion
        exact .inl ⟨(String.toList_inj.mp hgroup).symm, (String.toList_inj.mp hversion).symm⟩
      | cons c middle =>
        obtain ⟨rfl, hversion⟩ := List.cons.inj hversion
        refine .inr ⟨String.ofList middle, ?_, ?_⟩
        · rw [← String.toList_inj, ← hgroup]
          simp
        · rw [← String.toList_inj]
          simpa using hversion
    rcases List.append_eq_append_iff.mp h with ⟨rest, hgroup, hversion⟩ | ⟨rest, hgroup, hversion⟩
    · rcases hover hgroup.symm hversion with ⟨hgroup, hversion⟩ | hb
      · exact .inl ⟨hgroup.symm, hversion.symm⟩
      · exact .inr (.inr hb)
    · exact (hover hgroup.symm hversion).imp_right .inl
  · rintro (⟨hgroup, hversion⟩ | h | h)
    · rw [apiVersion_eq, apiVersion_eq, hgroup, hversion]
    · exact h.apiVersion_eq
    · exact h.apiVersion_eq.symm

end TypedModule

namespace Import

open TypedModule (sameText sameVersion sameText_of_sameVersion)

def modulesOf (imports : List Import) : List TypedModule := imports.flatMap (·.modules)

theorem sourced_modules (imports : List Import) : (sourced imports).map Prod.fst = modulesOf imports := by
  rw [sourced, List.map_flatMap, modulesOf]
  congr 1
  funext i
  rw [List.map_map]
  exact List.map_id _

theorem mergeFrom_kept {seen : List String} {earlier : List TypedModule}
    (sourced : List (TypedModule × Source))
    (h : ∀ m : TypedModule, seen.contains m.apiVersion = earlier.any (sameText · m)) :
    (mergeFrom seen sourced).kept = firstsBy sameText earlier (sourced.map Prod.fst) := by
  induction sourced generalizing seen earlier with
  | nil => rfl
  | cons entry rest ih =>
    obtain ⟨m, source⟩ := entry
    rw [mergeFrom, List.map_cons, firstsBy, ← h m]
    split
    · rename_i hseen
      refine ih fun m' => ?_
      rw [List.any_append, ← h m']
      -- A module with an API version that was seen shows no further one.
      by_cases hm : sameText m m'
      · have htext : m.apiVersion = m'.apiVersion := beq_iff_eq.mp hm
        rw [← htext, hseen, Bool.true_or]
      · simp [hm]
    · refine congrArg (m :: ·) (ih fun m' => ?_)
      rw [List.any_append, ← h m', List.contains_cons, Bool.or_comm]
      simp [sameText, Bool.beq_comm]

/-- The modules that are kept of imports are the first of each API version, in order. These are the first
of each group and version if and only if each module with the API version of an earlier one also has
the group and version of an earlier one; and API versions agree for others only where one group overhangs
the other. -/
theorem merge_keeps_firsts (imports : List Import) :
    (merge imports).kept = firstsBy sameText [] (modulesOf imports) ∧
    ((merge imports).kept = firstsBy sameVersion [] (modulesOf imports) ↔
      ∀ before m after, modulesOf imports = before ++ m :: after →
        (∃ b ∈ before, b.apiVersion = m.apiVersion) →
        ∃ b ∈ before, b.group = m.group ∧ b.version = m.version) ∧
    ∀ a b : TypedModule, a.apiVersion = b.apiVersion ↔
      (a.group = b.group ∧ a.version = b.version) ∨ a.Overhangs b ∨ b.Overhangs a := by
  have hkept : (merge imports).kept = firstsBy sameText [] (modulesOf imports) := by
    rw [← sourced_modules]
    exact mergeFrom_kept _ fun _ => rfl
  refine ⟨hkept, ?_, fun a b => TypedModule.apiVersion_eq_iff⟩
  rw [hkept, firstsBy_eq_iff sameText_of_sameVersion]
  simp only [List.nil_append, List.any_eq_true, TypedModule.sameVersion_iff, sameText, beq_iff_eq]

/-- The definition of a kind in one version of a group, as a document gives it. -/
def widgetDocument (group version : String) : Json :=
  .obj [("kind", .str "CustomResourceDefinition"),
    ("spec", .obj [("group", .str group),
      ("names", .obj [("kind", .str "Widget"), ("plural", .str "widgets")]),
      ("versions", .arr [.obj [("name", .str version)]])])]

/-- The version `b/c` of the group `a` is not the version `c` of the group `a/b`, and its module is
dropped. -/
theorem merge_drops_overhanging :
    ∃ i₁ i₂ : Import,
      (Definition.ofJson? (widgetDocument "a/b" "c")).toList = i₁.definitions ∧
      TypedModule.ofDefinitions i₁.definitions = .ok i₁.modules ∧
      (Definition.ofJson? (widgetDocument "a" "b/c")).toList = i₂.definitions ∧
      TypedModule.ofDefinitions i₂.definitions = .ok i₂.modules ∧
      (firstsBy sameVersion [] (modulesOf [i₁, i₂])).map (fun m => (m.group, m.version)) =
        [("a/b", "c"), ("a", "b/c")] ∧
      (merge [i₁, i₂]).kept.map (fun m => (m.group, m.version)) = [("a/b", "c")] := by
  let definition : String → String → Definition := fun group version =>
    ⟨none, group, ⟨"Widget", "widgets", none, none⟩, .namespaced, [⟨version, true, false, false, none⟩]⟩
  let made : String → String → TypedModule := fun group version =>
    ⟨group, version, [⟨"Widget", "widgets", .namespaced, none, []⟩]⟩
  let of : String → String → String → Import := fun path group version =>
    ⟨.file path, path, [definition group version], [made group version]⟩
  exact ⟨of "one.yaml" "a/b" "c", of "two.yaml" "a" "b/c", rfl, rfl, rfl, rfl, rfl, rfl⟩

end Import
end CrdBindings
