import CrdBindings.Catalog.OfText
import CrdBindings.Catalog.Session
import Mathlib.Data.List.Basic

/-!
What catalogs recall. After any run of registrations a repository has the versions of all tags that were
registered for it, in their order, and a registration is refused only for a tag that is no version.
-/

namespace CrdBindings
set_option autoImplicit false

namespace Registration

/-- The versions of the tags, if each of them is the tag of a release. -/
def versions? (r : Registration) : Option (List Version) := r.tags.mapM Version.ofTag?

def badTag? (r : Registration) : Option String :=
  r.tags.find? fun tag => (Version.ofTag? tag).isNone

/-- What a registration is answered with, whatever the catalog holds. -/
def answer (r : Registration) : Except Failure Unit :=
  match r.badTag? with
  | some tag => .error (.parse s!"Invalid release tag '{tag}' for {r.repository}")
  | none => .ok ()

/-- The versions of each registration for a repository, without those that were refused. -/
def accepted (history : List Registration) (repository : String) : List (List Version) :=
  history.filterMap fun r => if r.repository = repository then r.versions? else none

theorem accepted_concat (history : List Registration) (r : Registration) (repository : String) :
    accepted (history ++ [r]) repository =
      accepted history repository ++
        (if r.repository = repository then r.versions? else none).toList := by
  rw [accepted, List.filterMap_append]
  congr 1

theorem accepted_concat_of_none {r : Registration} (h : r.versions? = none)
    (history : List Registration) (repository : String) :
    accepted (history ++ [r]) repository = accepted history repository := by
  rw [accepted_concat, h, ite_self, Option.toList_none, List.append_nil]

end Registration

namespace Catalog

open Registration (accepted accepted_concat accepted_concat_of_none)

theorem readTags_cases (tags : List String) :
    (∃ versions, tags.mapM Version.ofTag? = some versions ∧
        tags.find? (fun tag => (Version.ofTag? tag).isNone) = none ∧
        readTags tags = .ok versions) ∨
      ∃ tag, tags.mapM Version.ofTag? = none ∧
        tags.find? (fun tag => (Version.ofTag? tag).isNone) = some tag ∧
        readTags tags = .error tag := by
  induction tags with
  | nil => exact .inl ⟨[], rfl, rfl, rfl⟩
  | cons tag tags ih =>
    rw [List.mapM_cons, List.find?_cons, readTags]
    cases htag : Version.ofTag? tag with
    | none => exact .inr ⟨tag, rfl, rfl, rfl⟩
    | some v =>
      rcases ih with ⟨versions, hversions, hfind, hread⟩ | ⟨bad, hversions, hfind, hread⟩
      · exact .inl ⟨v :: versions, by rw [hversions]; rfl, hfind, by simp only [hread]; rfl⟩
      · exact .inr ⟨bad, by rw [hversions]; rfl, hfind, by simp only [hread]; rfl⟩

/-- A registration adds the versions of all its tags, or is refused for one of them. -/
theorem insert_cases (c : Catalog) (r : Registration) :
    (∃ versions, r.versions? = some versions ∧ r.answer = .ok () ∧
        c.insert r.repository r.tags = .ok (c.add r.repository versions)) ∨
      ∃ failure, r.versions? = none ∧ r.answer = .error failure ∧
        c.insert r.repository r.tags = .error failure := by
  rcases readTags_cases r.tags with ⟨versions, hversions, hfind, hread⟩ | ⟨tag, hversions, hfind, hread⟩
  · refine .inl ⟨versions, hversions, ?_, ?_⟩
    · rw [Registration.answer, Registration.badTag?, hfind]
    · rw [insert, hread]
  · refine .inr ⟨.parse s!"Invalid release tag '{tag}' for {r.repository}", hversions, ?_, ?_⟩
    · rw [Registration.answer, Registration.badTag?, hfind]
    · rw [insert, hread]

theorem register_fst (c : Catalog) (r : Registration) : (c.register r).1 = r.answer := by
  rcases insert_cases c r with ⟨versions, -, hanswer, hinsert⟩ | ⟨failure, -, hanswer, hinsert⟩
  · rw [register, hinsert, hanswer]
  · rw [register, hinsert, hanswer]

/-- A registration for a new catalog gives the catalog that one in place leaves behind. -/
theorem insert_eq (c : Catalog) (r : Registration) :
    c.insert r.repository r.tags = r.answer.map fun _ => (c.register r).2 := by
  rcases insert_cases c r with ⟨versions, -, hanswer, hinsert⟩ | ⟨failure, -, hanswer, hinsert⟩
  · rw [register, hinsert, hanswer]
    rfl
  · rw [hinsert, hanswer]
    rfl

theorem releases?_add_self (c : Catalog) (repository : String) (versions : List Version) :
    (c.add repository versions).releases? repository =
      some ((c.releases? repository).getD [] ++ versions) :=
  Keyed.find?_put_self _ _ _

theorem releases?_add_of_ne {repository other : String} (h : other ≠ repository) (c : Catalog)
    (versions : List Version) :
    (c.add repository versions).releases? other = c.releases? other :=
  Keyed.find?_put_of_ne h _ _

/-- A catalog holds the versions of the registrations that were accepted, and no others. -/
def Recalls (c : Catalog) (history : List Registration) : Prop :=
  ∀ repository, c.releases? repository =
    if accepted history repository = [] then none else some (accepted history repository).flatten

theorem empty_recalls : empty.Recalls [] := fun _ => rfl

theorem Recalls.getD {c : Catalog} {history : List Registration} (h : c.Recalls history)
    (repository : String) :
    (c.releases? repository).getD [] = (accepted history repository).flatten := by
  rw [h repository]
  split
  · rename_i hnone
    rw [hnone]
    rfl
  · rfl

theorem Recalls.add {c : Catalog} {history : List Registration} (h : c.Recalls history)
    {r : Registration} {versions : List Version} (hversions : r.versions? = some versions) :
    (c.add r.repository versions).Recalls (history ++ [r]) := by
  intro repository
  rw [accepted_concat]
  by_cases hkey : r.repository = repository
  · subst hkey
    rw [if_pos rfl, hversions, releases?_add_self, h.getD]
    simp
  · rw [if_neg hkey, releases?_add_of_ne (Ne.symm hkey), h repository, Option.toList_none,
      List.append_nil]

theorem Recalls.register {c : Catalog} {history : List Registration} (h : c.Recalls history)
    (r : Registration) : (c.register r).2.Recalls (history ++ [r]) := by
  rcases insert_cases c r with ⟨versions, hversions, -, hinsert⟩ | ⟨failure, hversions, -, hinsert⟩
  · rw [Catalog.register, hinsert]
    exact h.add hversions
  · rw [Catalog.register, hinsert]
    intro repository
    rw [accepted_concat_of_none hversions]
    exact h repository

theorem registerAll_fst (c : Catalog) (rs : List Registration) :
    (c.registerAll rs).1 = rs.map Registration.answer := by
  induction rs generalizing c with
  | nil => rfl
  | cons r rs ih => rw [registerAll, ih, register_fst, List.map_cons]

theorem Recalls.registerAll {c : Catalog} {history : List Registration} (h : c.Recalls history)
    (rs : List Registration) : (c.registerAll rs).2.Recalls (history ++ rs) := by
  induction rs generalizing c history with
  | nil =>
    rw [List.append_nil]
    exact h
  | cons r rs ih =>
    have hall := ih (h.register r)
    rw [List.append_assoc, List.singleton_append] at hall
    exact hall

theorem Recalls.insertAll {c c' : Catalog} {history : List Registration} (h : c.Recalls history)
    {entries : List (String × List String)} (hok : c.insertAll entries = .ok c') :
    c'.Recalls (history ++ entries.map fun entry => ⟨entry.1, entry.2⟩) := by
  induction entries generalizing c history with
  | nil =>
    cases hok
    rw [List.map_nil, List.append_nil]
    exact h
  | cons entry entries ih =>
    rw [Catalog.insertAll, List.foldlM_cons] at hok
    rcases insert_cases c ⟨entry.1, entry.2⟩ with
      ⟨versions, hversions, -, hinsert⟩ | ⟨failure, -, -, hinsert⟩
    · rw [hinsert] at hok
      have hall := ih (h.add hversions) hok
      rw [List.append_assoc, List.singleton_append] at hall
      exact hall
    · rw [hinsert] at hok
      cases hok

/-- A catalog to start from, with the registrations that it stands for: the empty one, or one that is
spelled by a text. -/
inductive Initial : List Registration → Catalog → Prop where
  | empty : Initial [] .empty
  | ofText {text : String} {entries : List (String × List String)} {c : Catalog} :
      listed? text = some entries → ofText text = .ok c →
      Initial (entries.map fun entry => ⟨entry.1, entry.2⟩) c

theorem Initial.recalls {given : List Registration} {c : Catalog} (h : Initial given c) :
    c.Recalls given := by
  cases h with
  | empty => exact empty_recalls
  | ofText hlisted hok =>
    rw [Catalog.ofText, hlisted] at hok
    exact empty_recalls.insertAll hok

/-- Registrations go on from a catalog that is empty or spelled by a text. Each is answered by its own
tags: it is refused for the first that is no version. Behind them a repository has the versions of
the registrations that named it and were accepted, those of the text first, and none are known if
there was no such registration. A refused one changes nothing of any repository, and to ask for a new
catalog comes to the same as to register in place. -/
theorem registrations_recalled {given : List Registration} {start : Catalog}
    (h : Initial given start) (steps : List Registration) :
    (start.registerAll steps).1 = steps.map Registration.answer ∧
    (∀ account repo : String, (start.registerAll steps).2.releases? s!"{account}/{repo}" =
      if accepted (given ++ steps) s!"{account}/{repo}" = [] then none
      else some (accepted (given ++ steps) s!"{account}/{repo}").flatten) ∧
    (∀ r failure, r.answer = .error failure → ∀ repository,
      (start.registerAll (steps ++ [r])).2.releases? repository =
        (start.registerAll steps).2.releases? repository) ∧
    ∀ (c : Catalog) (r : Registration),
      c.insert r.repository r.tags = r.answer.map fun _ => (c.register r).2 := by
  have hall := h.recalls.registerAll steps
  refine ⟨registerAll_fst start steps, fun account repo => hall _, ?_, insert_eq⟩
  intro r failure hanswer repository
  have hnone : r.versions? = none := by
    rcases insert_cases start r with ⟨-, -, hok, -⟩ | ⟨-, hnone, -, -⟩
    · rw [hanswer] at hok
      cases hok
    · exact hnone
  have hmore := h.recalls.registerAll (steps ++ [r]) repository
  rw [← List.append_assoc, accepted_concat_of_none hnone] at hmore
  exact hmore.trans (hall repository).symm

/-- Behind the release of a text, a registration that is refused for its second tag, one of the same
release again, and one without tags. -/
theorem registrations_recalled_refused :
    let steps : List Registration :=
      [⟨"a/b", ["1.1.0", "next"]⟩, ⟨"a/b", ["V1.0.0"]⟩, ⟨"a/c", []⟩]
    ∃ start, Initial [⟨"a/b", ["v1.0.0"]⟩] start ∧
      (start.registerAll steps).1 =
        [.error (.parse "Invalid release tag 'next' for a/b"), .ok (), .ok ()] ∧
      (start.registerAll steps).2.releases? "a/b" =
        some [.ofNumbers 1 0 0, .ofNumbers 1 0 0] ∧
      (start.registerAll steps).2.releases? "a/c" = some [] ∧
      (start.registerAll steps).2.releases? "a/d" = none := by
  intro steps
  have hlisted : listed? "releases:\n  a/b: [v1.0.0]\n" = some [("a/b", ["v1.0.0"])] := by
    decide +kernel
  have hok : ofText "releases:\n  a/b: [v1.0.0]\n" = .ok ⟨[("a/b", [.ofNumbers 1 0 0])]⟩ := by
    rw [ofText, hlisted]
    rfl
  have hinitial := Initial.ofText hlisted hok
  obtain ⟨hanswers, hreleases, -, -⟩ := registrations_recalled hinitial steps
  exact ⟨_, hinitial, hanswers, hreleases "a" "b", hreleases "a" "c", hreleases "a" "d"⟩

end Catalog
end CrdBindings
