import CrdBindings.Proofs.Addressing

/-!
Growing catalogs. Registrations only add to what a repository has, so an exact version stays released, and
a line goes on to a release that is not earlier. A repository that no registration names is answered as
before.
-/

namespace CrdBindings
set_option autoImplicit false

namespace Fragment

/-- How the release that a fragment selects may change: an exact version never does, and a line goes on to
one of its releases with a patch number that is not lower. -/
def GoesOn (fragment : Fragment) (v w : Version) : Prop :=
  match fragment with
  | line m n => v.OnLine m n ∧ w.OnLine m n ∧ v.patch ≤ w.patch
  | _ => w = v

theorem select_goesOn {fragment : Fragment} {releases more : List Version} {v : Version}
    (h : fragment.select releases = .ok v) (hmore : releases ⊆ more) :
    ∃ w, fragment.select more = .ok w ∧ fragment.GoesOn v w := by
  cases fragment with
  | major m => cases h
  | exact u =>
    have hmem := mem_of_select h
    rw [select_exact] at h
    split at h
    · cases h
      exact ⟨v, by rw [select_exact, if_pos (hmore hmem)], rfl⟩
    · cases h
  | line m n =>
    rcases select_line m n releases with ⟨u, hu, hselect⟩ | ⟨-, hselect⟩
    · obtain rfl := Except.ok.inj (h.symm.trans hselect)
      rcases select_line m n more with ⟨w, hw, hselect'⟩ | ⟨hnone, -⟩
      · exact ⟨w, hselect', hu.onLine, hw.onLine, hw.patch_le v (hmore hu.mem) hu.onLine⟩
      · exact absurd hu.onLine (hnone v (hmore hu.mem))
    · exact nomatch h.symm.trans hselect

end Fragment

namespace Catalog

/-- Each repository keeps its releases, and what is new stands behind them. -/
def Extends (before after : Catalog) : Prop :=
  ∀ repository releases, before.releases? repository = some releases →
    ∃ more, after.releases? repository = some (releases ++ more)

theorem Extends.refl (c : Catalog) : Extends c c :=
  fun _ releases h => ⟨[], by rw [h, List.append_nil]⟩

theorem Extends.trans {c₁ c₂ c₃ : Catalog} (h₁ : Extends c₁ c₂) (h₂ : Extends c₂ c₃) :
    Extends c₁ c₃ := by
  intro repository releases h
  obtain ⟨more, hmore⟩ := h₁ repository releases h
  obtain ⟨rest, hrest⟩ := h₂ repository _ hmore
  exact ⟨more ++ rest, by rw [hrest, List.append_assoc]⟩

theorem register_extends (c : Catalog) (r : Registration) : Extends c (c.register r).2 := by
  rcases insert_cases c r with ⟨versions, -, -, hinsert⟩ | ⟨failure, -, -, hinsert⟩
  · rw [register, hinsert]
    intro repository releases h
    by_cases hkey : repository = r.repository
    · subst hkey
      exact ⟨versions, by rw [releases?_add_self, h, Option.getD_some]⟩
    · exact ⟨[], by rw [releases?_add_of_ne hkey, h, List.append_nil]⟩
  · rw [register, hinsert]
    exact .refl c

theorem registerAll_extends (c : Catalog) (steps : List Registration) :
    Extends c (c.registerAll steps).2 := by
  induction steps generalizing c with
  | nil => exact .refl c
  | cons r steps ih => exact (register_extends c r).trans (ih (c.register r).2)

theorem releases?_register_of_ne {r : Registration} {repository : String}
    (h : r.repository ≠ repository) (c : Catalog) :
    (c.register r).2.releases? repository = c.releases? repository := by
  rcases insert_cases c r with ⟨versions, -, -, hinsert⟩ | ⟨failure, -, -, hinsert⟩
  · rw [register, hinsert]
    exact releases?_add_of_ne h.symm c versions
  · rw [register, hinsert]

theorem releases?_registerAll_of_ne {steps : List Registration} {repository : String}
    (h : ∀ r ∈ steps, r.repository ≠ repository) (c : Catalog) :
    (c.registerAll steps).2.releases? repository = c.releases? repository := by
  induction steps generalizing c with
  | nil => rfl
  | cons r steps ih =>
    obtain ⟨hr, hsteps⟩ := List.forall_mem_cons.mp h
    rw [registerAll, ih hsteps, releases?_register_of_ne hr]

end Catalog

namespace Reference

variable {c later : Catalog} {r : Reference}

theorem Pins.goesOn {v : Version} (h : r.Pins c (some v)) (hlater : c.Extends later)
    (hknown : (c.releases? r.repository).isSome) :
    ∃ fragment w, r.version = some fragment ∧ r.Pins later (some w) ∧ fragment.GoesOn v w := by
  obtain ⟨releases, hreleases⟩ := Option.isSome_iff_exists.mp hknown
  obtain ⟨more, hmore⟩ := hlater r.repository releases hreleases
  cases h with
  | @versioned fragment _ hversion hpin =>
    rw [hreleases] at hpin
    obtain ⟨w, hselect, hgoes⟩ := Fragment.select_goesOn hpin (List.subset_append_left releases more)
    exact ⟨fragment, w, hversion, .versioned hversion (by rw [hmore]; exact hselect), hgoes⟩

/-- Whatever is registered besides, a reference to a registered repository that has an address keeps one.
Without a version, or with an exact one, it is the same address. With a line it is that of a release of
the line whose patch number is not lower than before. Registrations for other repositories change no
answer, be it an address or a refusal. -/
theorem registrations_keep_addresses (c : Catalog) (steps : List Registration) (r : Reference) :
    (∀ url, (c.releases? r.repository).isSome → r.resolve c = .ok (some url) →
      ∃ url', r.resolve (c.registerAll steps).2 = .ok (some url') ∧
        ((∀ m n, r.version ≠ some (.line m n)) → url' = url) ∧
        ∀ m n, r.version = some (.line m n) → ∃ v w : Version,
          r.Pins c (some v) ∧ url = r.gitHubAddressAt v ∧
          r.Pins (c.registerAll steps).2 (some w) ∧ url' = r.gitHubAddressAt w ∧
          v.OnLine m n ∧ w.OnLine m n ∧ v.patch ≤ w.patch) ∧
    ((∀ step ∈ steps, step.repository ≠ r.repository) →
      r.resolve (c.registerAll steps).2 = r.resolve c) := by
  constructor
  · intro url hknown hurl
    have hgitHub := gitHub_of_resolve hurl
    obtain ⟨release, hpins, rfl⟩ := resolve_pins hurl
    cases release with
    | none =>
      cases hpins with
      | unversioned hnone =>
        refine ⟨_, resolve_of_pins hgitHub (.unversioned hnone), fun _ => rfl, ?_⟩
        intro m n hline
        exact nomatch hnone.symm.trans hline
    | some v =>
      obtain ⟨fragment, w, hversion, hlater, hgoes⟩ := hpins.goesOn (c.registerAll_extends steps) hknown
      refine ⟨_, resolve_of_pins hgitHub hlater, ?_, ?_⟩
      · intro hother
        have hsame : w = v := by
          cases fragment with
          | major m => exact hgoes
          | line m n => exact absurd hversion (hother m n)
          | exact u => exact hgoes
        rw [hsame]
      · intro m n hline
        obtain rfl := Option.some.inj (hversion.symm.trans hline)
        exact ⟨v, w, hpins, rfl, hlater, rfl, hgoes⟩
  · intro hother
    exact resolve_congr (Catalog.releases?_registerAll_of_ne hother c)

/-- A line goes on to a later release, behind a pre-release and a build of the former one; what another
repository has and a refused registration do not matter. -/
theorem registrations_keep_addresses_line :
    let c := (Catalog.empty.registerAll [⟨"o/p", ["v0.14.0", "v0.14.2"]⟩]).2
    let steps : List Registration := [⟨"o/p", ["v0.14.10", "v0.14.11-rc.1", "v0.14.2+b"]⟩,
      ⟨"o/q", ["v0.14.12"]⟩, ⟨"o/p", ["v0.14.12", "latest"]⟩]
    let line : Reference := ⟨"github", "o", "p", some (.line 0 14)⟩
    let other : Reference := ⟨"github", "o", "r", some (.line 0 14)⟩
    (c.releases? line.repository).isSome ∧
    line.resolve c = .ok (some "https://doc.crds.dev/raw/github.com/o/p@v0.14.2") ∧
    line.resolve (c.registerAll steps).2 =
      .ok (some "https://doc.crds.dev/raw/github.com/o/p@v0.14.10") ∧
    (∀ step ∈ steps, step.repository ≠ other.repository) ∧
    other.resolve (c.registerAll steps).2 = other.resolve c := by
  intro c steps line other
  have hknown : (c.releases? line.repository).isSome := by decide +kernel
  have hurl : line.resolve c = .ok (some "https://doc.crds.dev/raw/github.com/o/p@v0.14.2") := by
    decide +kernel
  have hothers : ∀ step ∈ steps, step.repository ≠ other.repository := by decide +kernel
  obtain ⟨url', hurl', -, hline⟩ := (registrations_keep_addresses c steps line).1 _ hknown hurl
  obtain ⟨-, w, -, -, hpins, rfl, -, -, -⟩ := hline 0 14 rfl
  obtain rfl : w = .ofNumbers 0 14 10 := Option.some.inj (hpins.unique (.versioned rfl rfl))
  exact ⟨hknown, hurl, hurl', hothers, (registrations_keep_addresses c steps other).2 hothers⟩

/-- A line of a repository that was not registered has an address which a registration may take away. -/
example :
    let line : Reference := ⟨"github", "o", "p", some (.line 1 2)⟩
    (line.resolve .empty).isOk ∧
    !(line.resolve (Catalog.empty.registerAll [⟨"o/p", ["v1.3.0"]⟩]).2).isOk := by
  decide +kernel

end Reference
end CrdBindings
