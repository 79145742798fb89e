import CrdBindings.Proofs.Registration
import CrdBindings.Proofs.Resolution
import Mathlib.Data.List.Forall2

/-!
Releases in another order. An exact version is found wherever it stands, and a line selects a release
with the highest patch number. Where several releases of a line share that number, they differ in
their builds alone, and the last of them is taken.
-/

namespace CrdBindings
set_option autoImplicit false

namespace Version

/-- Versions that differ in their builds at most. -/
structure SameRelease (v w : Version) : Prop where
  major : v.major = w.major
  minor : v.minor = w.minor
  patch : v.patch = w.patch
  pre : v.pre = w.pre

/-- A highest release of a line behind which no other one is listed. -/
structure IsLastHighest (v : Version) (major minor : Nat) (releases : List Version) : Prop where
  highest : v.IsHighest major minor releases
  last : ∃ before after, releases = before ++ v :: after ∧
    ∀ w ∈ after, ¬ w.IsHighest major minor releases

theorem SameRelease.refl (v : Version) : v.SameRelease v := ⟨rfl, rfl, rfl, rfl⟩

theorem SameRelease.eq_of_build {v w : Version} (h : v.SameRelease w) (hbuild : v.build = w.build) :
    v = w := by
  obtain ⟨hmajor, hminor, hpatch, hpre⟩ := h
  cases v
  cases w
  simp only at hmajor hminor hpatch hpre hbuild
  rw [hmajor, hminor, hpatch, hpre, hbuild]

section
variable {v w : Version} {major minor : Nat} {releases others : List Version}

theorem IsHighest.sameRelease (hv : v.IsHighest major minor releases)
    (hw : w.IsHighest major minor releases) : v.SameRelease w := by
  constructor
  · exact hv.onLine.major.trans hw.onLine.major.symm
  · exact hv.onLine.minor.trans hw.onLine.minor.symm
  · exact Nat.le_antisymm (hw.patch_le v hv.mem hv.onLine) (hv.patch_le w hw.mem hw.onLine)
  · exact hv.onLine.release.trans hw.onLine.release.symm

theorem IsHighest.of_perm (h : releases.Perm others) (hv : v.IsHighest major minor releases) :
    v.IsHighest major minor others := by
  constructor
  · exact h.mem_iff.mp hv.mem
  · exact hv.onLine
  · intro w hw honLine
    exact hv.patch_le w (h.mem_iff.mpr hw) honLine

/-- Of two highest releases the one with more behind it is not the last. -/
theorem IsLastHighest.unique (hv : v.IsLastHighest major minor releases)
    (hw : w.IsLastHighest major minor releases) : v = w := by
  obtain ⟨before, after, hv_at, hv_last⟩ := hv.last
  obtain ⟨before', after', hw_at, hw_last⟩ := hw.last
  rcases List.append_eq_append_iff.mp (hv_at.symm.trans hw_at) with
    ⟨middle, -, hrest⟩ | ⟨middle, -, hrest⟩
  · cases middle with
    | nil => exact (List.cons.inj hrest).1
    | cons u middle =>
      have hmem : w ∈ after := by
        rw [(List.cons.inj hrest).2]
        exact List.mem_append_right _ List.mem_cons_self
      exact absurd hw.highest (hv_last w hmem)
  · cases middle with
    | nil => exact (List.cons.inj hrest).1.symm
    | cons u middle =>
      have hmem : v ∈ after' := by
        rw [(List.cons.inj hrest).2]
        exact List.mem_append_right _ List.mem_cons_self
      exact absurd hv.highest (hw_last v hmem)

end

end Version

/-- Outcomes of one kind: results that are alike, or refusals for the same reason, which may list the
known releases in another order. -/
inductive Alike {α : Type} (same : α → α → Prop) : Except Failure α → Except Failure α → Prop where
  | ok {a b : α} (h : same a b) : Alike same (.ok a) (.ok b)
  | ambiguous (version : String) :
      Alike same (.error (.ambiguousVersion version)) (.error (.ambiguousVersion version))
  | noMatch (version known known' : String) :
      Alike same (.error (.noMatch version known)) (.error (.noMatch version known'))

theorem Alike.map {α β : Type} {same : α → α → Prop} {same' : β → β → Prop} {f : α → β}
    (hf : ∀ a b, same a b → same' (f a) (f b)) {x y : Except Failure α} (h : Alike same x y) :
    Alike same' (x.map f) (y.map f) := by
  cases h with
  | ok h => exact .ok (hf _ _ h)
  | ambiguous version => exact .ambiguous version
  | noMatch version known known' => exact .noMatch version known known'

namespace Fragment

open Version (IsHighest IsLastHighest SameRelease)

/-- The highest releases of a line have one build. -/
def BuildsAgree (fragment : Fragment) (releases : List Version) : Prop :=
  ∀ major minor, fragment = line major minor → ∀ v w : Version,
    v.IsHighest major minor releases → w.IsHighest major minor releases → v.build = w.build

/-- Behind the one that is taken all releases have a lower patch number. -/
theorem foldl_later_last (vs : List Version) (v : Version) :
    ∃ before after, v :: vs = before ++ vs.foldl later v :: after ∧
      ∀ w ∈ after, w.patch < (vs.foldl later v).patch := by
  induction vs generalizing v with
  | nil => exact ⟨[], [], rfl, fun w hw => absurd hw List.not_mem_nil⟩
  | cons u us ih =>
    obtain ⟨before, after, hat, hlow⟩ := ih (later v u)
    rw [List.foldl_cons]
    by_cases hpatch : u.patch < v.patch
    · rw [show later v u = v from if_pos hpatch] at hat hlow ⊢
      cases before with
      | nil =>
        obtain ⟨hfirst, rfl⟩ := List.cons.inj hat
        rw [← hfirst] at hlow ⊢
        refine ⟨[], u :: us, rfl, ?_⟩
        intro w hw
        rcases List.mem_cons.mp hw with rfl | hw
        · exact hpatch
        · exact hlow w hw
      | cons b before =>
        rw [List.cons_append] at hat
        refine ⟨v :: u :: before, after, ?_, hlow⟩
        rw [List.cons_append, List.cons_append, ← (List.cons.inj hat).2]
    · rw [show later v u = u from if_neg hpatch] at hat hlow ⊢
      exact ⟨v :: before, after, by rw [hat]; rfl, hlow⟩

theorem latest?_last {vs : List Version} {v : Version} (h : latest? vs = some v) :
    ∃ before after, vs = before ++ v :: after ∧ ∀ w ∈ after, w.patch < v.patch := by
  cases vs with
  | nil => cases h
  | cons u us =>
    obtain rfl := Option.some.inj h
    exact foldl_later_last us u

theorem isLastHighest_of_select {major minor : Nat} {releases : List Version} {v : Version}
    (h : (line major minor).select releases = .ok v) : v.IsLastHighest major minor releases := by
  have hhighest : v.IsHighest major minor releases := by
    rcases select_line major minor releases with ⟨w, hw, hselect⟩ | ⟨-, hselect⟩
    · obtain rfl := Except.ok.inj (h.symm.trans hselect)
      exact hw
    · exact nomatch h.symm.trans hselect
  refine ⟨hhighest, ?_⟩
  unfold select at h
  cases hlatest : latest? (releases.filter (covers major minor)) with
  | none =>
    simp only [hlatest] at h
    cases h
  | some w =>
    simp only [hlatest] at h
    obtain rfl := Except.ok.inj h
    obtain ⟨before, after, hfilter, hlow⟩ := latest?_last hlatest
    obtain ⟨front, rest, rfl, -, hrest⟩ := List.filter_eq_append_iff.mp hfilter
    obtain ⟨skipped, behind, rfl, -, -, rfl⟩ := List.filter_eq_cons_iff.mp hrest
    refine ⟨front ++ skipped, behind, by rw [List.append_assoc], ?_⟩
    intro u hu hu_highest
    -- A highest release behind it would be one of the line with a lower patch number.
    have hcovers := (covers_iff major minor u).mpr hu_highest.onLine
    have hlower := hlow u (List.mem_filter.mpr ⟨hu, hcovers⟩)
    have hle := hu_highest.patch_le w hhighest.mem hhighest.onLine
    omega

theorem select_line_eq_ok_iff {major minor : Nat} {releases : List Version} {v : Version} :
    (line major minor).select releases = .ok v ↔ v.IsLastHighest major minor releases := by
  refine ⟨isLastHighest_of_select, ?_⟩
  intro hv
  rcases select_line major minor releases with ⟨w, -, hselect⟩ | ⟨hnone, -⟩
  · rw [hselect, (isLastHighest_of_select hselect).unique hv]
  · exact absurd hv.highest.onLine (hnone v hv.highest.mem)

section
variable {releases others : List Version}

theorem select_alike (h : releases.Perm others) (fragment : Fragment) {same : Version → Version → Prop}
    (hsame : ∀ v, same v v)
    (hline : ∀ major minor, fragment = line major minor → ∀ v w : Version,
      v.IsHighest major minor releases → w.IsHighest major minor releases → same v w) :
    Alike same (fragment.select releases) (fragment.select others) := by
  cases fragment with
  | major m => exact .ambiguous _
  | exact v =>
    rw [select_exact, select_exact]
    by_cases hv : v ∈ releases
    · rw [if_pos hv, if_pos (h.mem_iff.mp hv)]
      exact .ok (hsame v)
    · rw [if_neg hv, if_neg (mt h.mem_iff.mpr hv)]
      exact .noMatch _ _ _
  | line m n =>
    rcases select_line m n releases with ⟨v, hv, hselect⟩ | ⟨hnone, hselect⟩
    · rcases select_line m n others with ⟨w, hw, hselect'⟩ | ⟨hnone', -⟩
      · rw [hselect, hselect']
        exact .ok (hline m n rfl v w hv (hw.of_perm h.symm))
      · exact absurd hv.onLine (hnone' v (h.mem_iff.mp hv.mem))
    · rcases select_line m n others with ⟨w, hw, -⟩ | ⟨-, hselect'⟩
      · exact absurd hw.onLine (hnone w (h.mem_iff.mpr hw.mem))
      · rw [hselect, hselect']
        exact .noMatch _ _ _

theorem select_sameRelease (h : releases.Perm others) (fragment : Fragment) :
    Alike SameRelease (fragment.select releases) (fragment.select others) := by
  apply select_alike h fragment SameRelease.refl
  intro m n _ v w hv hw
  exact hv.sameRelease hw

theorem select_eq_of_buildsAgree (h : releases.Perm others) {fragment : Fragment}
    (hbuilds : fragment.BuildsAgree releases) :
    Alike (· = ·) (fragment.select releases) (fragment.select others) := by
  apply select_alike h fragment fun _ => rfl
  intro m n hline v w hv hw
  exact (hv.sameRelease hw).eq_of_build (hbuilds m n hline v w hv hw)

/-- A highest release is the one that is taken where it is listed last. -/
theorem exists_perm_select {m n : Nat} {v : Version} (hv : v.IsHighest m n releases) :
    ∃ others, releases.Perm others ∧ (line m n).select others = .ok v := by
  have hperm : releases.Perm (releases.erase v ++ [v]) :=
    (List.perm_cons_erase hv.mem).trans (List.perm_append_singleton v _).symm
  refine ⟨_, hperm, select_line_eq_ok_iff.mpr ⟨hv.of_perm hperm, releases.erase v, [], rfl, ?_⟩⟩
  exact fun w hw => absurd hw List.not_mem_nil

theorem buildsAgree_of_select_eq {fragment : Fragment}
    (h : ∀ others, releases.Perm others →
      Alike (· = ·) (fragment.select releases) (fragment.select others)) :
    fragment.BuildsAgree releases := by
  rintro m n rfl v w hv hw
  obtain ⟨first, hfirst, hselect_v⟩ := exists_perm_select hv
  obtain ⟨second, hsecond, hselect_w⟩ := exists_perm_select hw
  have hv_eq := h first hfirst
  have hw_eq := h second hsecond
  rw [hselect_v] at hv_eq
  rw [hselect_w] at hw_eq
  generalize (line m n).select releases = selected at hv_eq hw_eq
  cases hv_eq with
  | ok hv_eq =>
    cases hw_eq with
    | ok hw_eq => rw [← hv_eq, ← hw_eq]

end

end Fragment

structure Registration.SameTags (r s : Registration) : Prop where
  repository : r.repository = s.repository
  tags : r.tags.Perm s.tags

/-- The same registrations in some order, each with its tags in some order. -/
def Registration.Reordered (history others : List Registration) : Prop :=
  ∃ between, List.Forall₂ SameTags history between ∧ between.Perm others

namespace Catalog

open Registration (SameTags Reordered accepted)

/-- The same releases in some order, if any are known. -/
abbrev SameReleases : Option (List Version) → Option (List Version) → Prop := Option.Rel List.Perm

theorem SameReleases.trans {x y z : Option (List Version)} (hxy : SameReleases x y)
    (hyz : SameReleases y z) : SameReleases x z := by
  cases hxy with
  | none => exact hyz
  | some h =>
    cases hyz with
    | some h' => exact .some (h.trans h')

theorem mapM_ofTag?_perm {tags others : List String} (h : tags.Perm others) :
    SameReleases (tags.mapM Version.ofTag?) (others.mapM Version.ofTag?) := by
  induction h with
  | nil => exact .some (.refl [])
  | cons tag _ ih =>
    rw [List.mapM_cons, List.mapM_cons]
    cases Version.ofTag? tag with
    | none => exact .none
    | some v =>
      generalize List.mapM Version.ofTag? _ = x at ih ⊢
      generalize List.mapM Version.ofTag? _ = y at ih ⊢
      cases ih with
      | none => exact .none
      | some h => exact .some (h.cons v)
  | swap tag tag' tags =>
    simp only [List.mapM_cons]
    cases Version.ofTag? tag with
    | none => cases Version.ofTag? tag' <;> exact .none
    | some v =>
      cases Version.ofTag? tag' with
      | none => exact .none
      | some v' =>
        cases tags.mapM Version.ofTag? with
        | none => exact .none
        | some vs => exact .some (.swap v v' vs)
  | trans _ _ ih ih' => exact ih.trans ih'

theorem accepted_sameTags {history others : List Registration}
    (h : List.Forall₂ SameTags history others) (repository : String) :
    List.Forall₂ List.Perm (accepted history repository) (accepted others repository) := by
  induction h with
  | nil => exact .nil
  | @cons r s _ _ hrs _ ih =>
    have hversions : SameReleases r.versions? s.versions? := mapM_ofTag?_perm hrs.tags
    rw [accepted, accepted, List.filterMap_cons, List.filterMap_cons, hrs.repository]
    by_cases hkey : s.repository = repository
    · rw [if_pos hkey, if_pos hkey]
      generalize r.versions? = x at hversions ⊢
      generalize s.versions? = y at hversions ⊢
      cases hversions with
      | none => exact ih
      | some h => exact .cons h ih
    · rw [if_neg hkey, if_neg hkey]
      exact ih

theorem flatten_perm {lists others : List (List Version)} (h : List.Forall₂ List.Perm lists others) :
    lists.flatten.Perm others.flatten := by
  induction h with
  | nil => exact .refl []
  | cons hfirst _ ih => exact hfirst.append ih

theorem Recalls.sameReleases {c c' : Catalog} {history others : List Registration}
    (hc : c.Recalls history) (hc' : c'.Recalls others) (h : Reordered history others)
    (repository : String) : SameReleases (c.releases? repository) (c'.releases? repository) := by
  obtain ⟨between, htags, hperm⟩ := h
  have hlists := accepted_sameTags htags repository
  have hmoved : (accepted between repository).Perm (accepted others repository) := hperm.filterMap _
  have hall := (flatten_perm hlists).trans hmoved.flatten
  have hlength := hlists.length_eq.trans hmoved.length_eq
  rw [hc repository, hc' repository]
  by_cases hnone : accepted history repository = []
  · have hnone' : accepted others repository = [] := by
      rw [← List.length_eq_zero_iff, ← hlength, hnone, List.length_nil]
    rw [if_pos hnone, if_pos hnone']
    exact .none
  · have hsome' : accepted others repository ≠ [] := by
      rw [← List.length_pos_iff, ← hlength, List.length_pos_iff]
      exact hnone
    rw [if_neg hnone, if_neg hsome']
    exact .some hall

end Catalog

namespace Reference

open Version (SameRelease)
open Catalog (SameReleases)

/-- Addresses of one release, but for its build. -/
def SameAddress (r : Reference) (a b : Option String) : Prop :=
  a = b ∨ ∃ v w : Version, v.SameRelease w ∧
    a = some (r.gitHubAddressAt v) ∧ b = some (r.gitHubAddressAt w)

/-- The builds agree of the releases between which a reference leaves the choice. -/
def BuildsAgree (r : Reference) (c : Catalog) : Prop :=
  ∀ fragment releases, r.version = some fragment → c.releases? r.repository = some releases →
    fragment.BuildsAgree releases

theorem pin_alike {fragment : Fragment} {known known' : Option (List Version)}
    (h : SameReleases known known') {same : Version → Version → Prop} (hsame : ∀ v, same v v)
    (hselect : ∀ releases releases', known = some releases → releases.Perm releases' →
      Alike same (fragment.select releases) (fragment.select releases')) :
    Alike same (Provider.pin fragment known) (Provider.pin fragment known') := by
  cases h with
  | some h => exact hselect _ _ rfl h
  | none =>
    cases fragment with
    | major m => exact .ambiguous _
    | line m n => exact .ok (hsame _)
    | exact v => exact .ok (hsame v)

theorem resolve_alike (r : Reference) {c c' : Catalog}
    (h : SameReleases (c.releases? r.repository) (c'.releases? r.repository))
    {same : Version → Version → Prop} {same' : Option String → Option String → Prop}
    (hsame : ∀ v, same v v) (hsame' : ∀ a, same' a a)
    (haddress : ∀ v w, same v w → same' (some (r.gitHubAddressAt v)) (some (r.gitHubAddressAt w)))
    (hselect : ∀ fragment releases releases', r.version = some fragment →
      c.releases? r.repository = some releases → releases.Perm releases' →
      Alike same (fragment.select releases) (fragment.select releases')) :
    Alike same' (r.resolve c) (r.resolve c') := by
  by_cases hprovider : Text.lowerAscii r.provider = "github"
  · rw [resolve_gitHub hprovider, resolve_gitHub hprovider]
    cases hversion : r.version with
    | none =>
      simp only [Provider.address, hversion]
      exact .ok (hsame' _)
    | some fragment =>
      rw [address_of_version hversion, address_of_version hversion]
      have hpin := pin_alike h hsame fun releases releases' =>
        hselect fragment releases releases' hversion
      have haddresses := hpin.map (f := fun v => some (r.gitHubAddressAt v)) haddress
      have hmap : ∀ x : Except Failure Version,
          (x.map r.gitHubAddressAt).map some = x.map fun v => some (r.gitHubAddressAt v) := by
        intro x
        cases x <;> rfl
      rwa [hmap, hmap]
  · simp only [resolve, Provider.ofName?, if_neg hprovider]
    exact .ok (hsame' none)

end Reference

namespace Fragment

open Version (IsHighest IsLastHighest SameRelease)
open Catalog (Initial)
open Registration (Reordered)

/-- The order of the releases decides nothing but the build of the release that a line selects. Whatever
the order, a fragment is refused for the same reason or selects one release but for its build; it
is answered alike in every order if and only if it leaves no choice between builds, and a line selects
the last of its highest releases. So the address of a reference does not depend on the order of the
tags in a catalog either, where the builds agree of the releases that it may stand for. -/
theorem select_reordered {releases others : List Version} (h : releases.Perm others)
    (fragment : Fragment) :
    Alike SameRelease (fragment.select releases) (fragment.select others) ∧
    ((∀ any, releases.Perm any → Alike (· = ·) (fragment.select releases) (fragment.select any)) ↔
      fragment.BuildsAgree releases) ∧
    (∀ m n v, (line m n).select releases = .ok v ↔ v.IsLastHighest m n releases) ∧
    ∀ {given given' : List Registration} {start start' : Catalog} (steps steps' : List Registration),
      Initial given start → Initial given' start' → Reordered (given ++ steps) (given' ++ steps') →
      ∀ r : Reference,
        Alike r.SameAddress (r.resolve (start.registerAll steps).2)
          (r.resolve (start'.registerAll steps').2) ∧
        (r.BuildsAgree (start.registerAll steps).2 →
          Alike (· = ·) (r.resolve (start.registerAll steps).2)
            (r.resolve (start'.registerAll steps').2)) := by
  refine ⟨select_sameRelease h fragment, ⟨buildsAgree_of_select_eq, ?_⟩, fun m n v =>
    select_line_eq_ok_iff, ?_⟩
  · exact fun hbuilds any hperm => select_eq_of_buildsAgree hperm hbuilds
  · intro given given' start start' steps steps' hstart hstart' hreordered r
    have hreleases := (hstart.recalls.registerAll steps).sameReleases
      (hstart'.recalls.registerAll steps') hreordered r.repository
    constructor
    · apply r.resolve_alike hreleases SameRelease.refl (fun _ => .inl rfl)
      · exact fun v w hsame => .inr ⟨v, w, hsame, rfl, rfl⟩
      · exact fun fragment _ _ _ _ hperm => select_sameRelease hperm fragment
    · intro hbuilds
      apply r.resolve_alike hreleases (fun _ => rfl) (fun _ => rfl)
      · exact fun v w hsame => congrArg (fun u => some (r.gitHubAddressAt u)) hsame
      · intro fragment releases releases' hversion hknown hperm
        exact select_eq_of_buildsAgree hperm (hbuilds fragment releases hversion hknown)

/-- Releases of several lines, among them a pre-release and one release twice. -/
theorem select_reordered_mixed :
    let low := Version.ofNumbers 0 14 2
    let high := Version.ofNumbers 0 14 10
    let next := Version.ofNumbers 0 15 0
    let early : Version := ⟨0, 14, 11, "rc.1", ""⟩
    [high, early, low, high, next].Perm [low, high, next, high, early] ∧
    (line 0 14).BuildsAgree [high, early, low, high, next] ∧
    (line 0 14).select [high, early, low, high, next] = .ok high ∧
    (line 0 14).select [low, high, next, high, early] = .ok high := by
  intro low high next early
  have hperm : [high, early, low, high, next].Perm [low, high, next, high, early] := by
    decide +kernel
  have hselect : (line 0 14).select [high, early, low, high, next] = .ok high := rfl
  obtain ⟨-, hbuilds, -⟩ := select_reordered hperm (line 0 14)
  have hagree : (line 0 14).BuildsAgree [high, early, low, high, next] := by
    intro m n hline v w hv hw
    have hnone : ∀ u ∈ [high, early, low, high, next], u.build = "" := by decide +kernel
    rw [hnone v hv.mem, hnone w hw.mem]
  have hother := hbuilds.mpr hagree _ hperm
  rw [hselect] at hother
  refine ⟨hperm, hagree, hselect, ?_⟩
  generalize (line 0 14).select [low, high, next, high, early] = selected at hother ⊢
  cases hother with
  | ok h => rw [← h]

/-- Two releases that differ in their builds, registered in both orders. -/
theorem select_takes_last_build :
    let a : Version := ⟨1, 2, 3, "", "a"⟩
    let b : Version := ⟨1, 2, 3, "", "b"⟩
    let known : List String → Catalog := fun tags => (Catalog.empty.register ⟨"o/p", tags⟩).2
    a ≠ b ∧ [a, b].Perm [b, a] ∧
    (line 1 2).select [a, b] = .ok b ∧ (line 1 2).select [b, a] = .ok a ∧
    Reference.resolveText "github:o/p@1.2" (known ["v1.2.3+a", "v1.2.3+b"]) =
      .ok (some "https://doc.crds.dev/raw/github.com/o/p@v1.2.3+b") ∧
    Reference.resolveText "github:o/p@1.2" (known ["v1.2.3+b", "v1.2.3+a"]) =
      .ok (some "https://doc.crds.dev/raw/github.com/o/p@v1.2.3+a") := by
  exact ⟨by decide, .swap _ _ _, rfl, rfl, rfl, rfl⟩

end Fragment
end CrdBindings
