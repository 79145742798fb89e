import CrdBindings.Proofs.Overlap
import CrdBindings.Proofs.Reference
import CrdBindings.Proofs.Registration
import CrdBindings.Proofs.Resolution

/-!
Addresses of references. Two references have one address just if they name the same repository and the
same release of it: no account, repository or version holds what stands between them in an address. So
what is kept for one reference is never taken for another.
-/

namespace CrdBindings
set_option autoImplicit false

theorem kept?_fetch_of_ne {url other : String} (h : other ≠ url) (origin : Origin)
    (cache : Option Cache) : kept? (fetch origin cache url).cache other = kept? cache other := by
  cases hkept : kept? cache url with
  | some text => rw [fetch_of_kept hkept]
  | none =>
    by_cases horigin : ∃ text, origin url = .document text
    · obtain ⟨text, htext⟩ := horigin
      rw [fetch_of_document hkept htext]
      exact kept?_keep_of_ne h cache text
    · rw [fetch_of_failure hkept fun text htext => horigin ⟨text, htext⟩]

namespace Catalog

/-- A catalog behind any run of registrations knows only versions that were read. -/
theorem Recalls.readable {c : Catalog} {history : List Registration} (h : c.Recalls history)
    {repository : String} {releases : List Version} (hreleases : c.releases? repository = some releases) :
    ∀ v ∈ releases, v.Readable := by
  intro v hv
  rw [h repository] at hreleases
  split at hreleases
  · cases hreleases
  · obtain rfl := Option.some.inj hreleases
    obtain ⟨versions, hversions, hv⟩ := List.mem_flatten.mp hv
    obtain ⟨r, -, hr⟩ := List.mem_filterMap.mp hversions
    split at hr
    · obtain ⟨tag, -, htag⟩ := Text.exists_of_mem_mapM hr hv
      exact Version.readable_of_ofTag? htag
    · cases hr

end Catalog

theorem Provider.pin_readable {fragment : Fragment} {known : Option (List Version)} {v : Version}
    (hfragment : fragment.Readable) (hknown : ∀ releases ∈ known, ∀ w ∈ releases, w.Readable)
    (h : pin fragment known = .ok v) : v.Readable := by
  cases known with
  | none =>
    cases fragment with
    | major m => cases h
    | line m n =>
      cases h
      exact Version.ofNumbers_readable hfragment.1 hfragment.2 (by decide)
    | exact w =>
      cases h
      exact hfragment
  | some releases => exact hknown releases rfl v (Fragment.mem_of_select h)

namespace Reference

/-- The release that a reference stands for in a catalog; none if the reference gives no version. -/
inductive Pins (c : Catalog) (r : Reference) : Option Version → Prop where
  | unversioned : r.version = none → Pins c r none
  | versioned {fragment : Fragment} {v : Version} : r.version = some fragment →
      Provider.pin fragment (c.releases? r.repository) = .ok v → Pins c r (some v)

/-- Two references to the same release of the same repository. -/
structure SameRelease (c : Catalog) (r₁ r₂ : Reference) : Prop where
  account : r₁.account = r₂.account
  repo : r₁.repo = r₂.repo
  release : ∃ release, r₁.Pins c release ∧ r₂.Pins c release

theorem Pins.unique {c : Catalog} {r : Reference} {release other : Option Version}
    (h : r.Pins c release) (h' : r.Pins c other) : release = other := by
  cases h with
  | unversioned hnone =>
    cases h' with
    | unversioned _ => rfl
    | versioned hsome _ => rw [hnone] at hsome; cases hsome
  | versioned hsome hpin =>
    cases h' with
    | unversioned hnone => rw [hnone] at hsome; cases hsome
    | versioned hsome' hpin' =>
      rw [hsome] at hsome'
      cases hsome'
      rw [hpin] at hpin'
      cases hpin'
      rfl

def addressOf (r : Reference) : Option Version → String
  | some v => r.gitHubAddressAt v
  | none => r.gitHubAddress

theorem resolve_pins {c : Catalog} {r : Reference} {url : String}
    (h : r.resolve c = .ok (some url)) : ∃ release, r.Pins c release ∧ url = r.addressOf release := by
  rw [resolve_gitHub (gitHub_of_resolve h)] at h
  obtain ⟨address, haddress, hurl⟩ := map_eq_ok h
  obtain rfl := Option.some.inj hurl
  cases hversion : r.version with
  | none =>
    simp only [Provider.address, hversion] at haddress
    exact ⟨none, .unversioned hversion, (Except.ok.inj haddress).symm⟩
  | some fragment =>
    rw [address_of_version hversion] at haddress
    obtain ⟨v, hpin, rfl⟩ := map_eq_ok haddress
    exact ⟨some v, .versioned hversion hpin, rfl⟩

theorem resolve_of_pins {c : Catalog} {r : Reference} {release : Option Version}
    (hgitHub : Text.lowerAscii r.provider = "github") (h : r.Pins c release) :
    r.resolve c = .ok (some (r.addressOf release)) := by
  rw [resolve_gitHub hgitHub]
  cases h with
  | unversioned hnone =>
    simp only [Provider.address, hnone]
    rfl
  | versioned hversion hpin =>
    rw [address_of_version hversion, hpin]
    rfl

/-- The end of an address, which gives the release. -/
def releaseText : Option Version → List Char
  | some v => '@' :: 'v' :: v.text.toList
  | none => []

def addressStart : String := "https://doc.crds.dev/raw/github.com/"

theorem gitHubAddress_eq (r : Reference) :
    r.gitHubAddress = addressStart ++ r.account ++ "/" ++ r.repo := rfl

theorem addressOf_toList (r : Reference) (release : Option Version) :
    (r.addressOf release).toList =
      addressStart.toList ++ (r.account.toList ++ '/' :: (r.repo.toList ++ releaseText release)) := by
  have hslash : "/".toList = ['/'] := rfl
  have hmark : "@v".toList = ['@', 'v'] := rfl
  cases release <;>
    simp only [addressOf, gitHubAddressAt, gitHubAddress_eq, releaseText, String.toList_append, hslash,
      hmark, List.append_assoc, List.cons_append, List.nil_append, List.append_nil]

theorem releaseText_stops (release : Option Version) : Text.Stops isNameChar (releaseText release) := by
  cases release with
  | none => exact .nil
  | some v => exact .cons rfl _

theorem releaseText_injective {release other : Option Version} (h : ∀ v ∈ release, v.Readable)
    (h' : ∀ v ∈ other, v.Readable) (htext : releaseText release = releaseText other) :
    release = other := by
  cases release with
  | none =>
    cases other with
    | none => rfl
    | some w => cases htext
  | some v =>
    cases other with
    | none => cases htext
    | some w =>
      simp only [releaseText, List.cons.injEq, true_and] at htext
      rw [Version.text_injective (h v rfl) (h' w rfl) (String.toList_inj.mp htext)]

/-- An address tells the account, the repository and the release. -/
theorem addressOf_injective {r₁ r₂ : Reference} {release₁ release₂ : Option Version}
    (h₁ : r₁.WellFormed) (h₂ : r₂.WellFormed) (hrelease₁ : ∀ v ∈ release₁, v.Readable)
    (hrelease₂ : ∀ v ∈ release₂, v.Readable) (h : r₁.addressOf release₁ = r₂.addressOf release₂) :
    r₁.account = r₂.account ∧ r₁.repo = r₂.repo ∧ release₁ = release₂ := by
  rw [← String.toList_inj, addressOf_toList, addressOf_toList] at h
  have hslash : ∀ cs, Text.Stops isNameChar ('/' :: cs) := .cons rfl
  -- An account ends at the slash and a repository at the mark, and no name holds either.
  obtain ⟨haccount, h⟩ := Text.run_inj h₁.account.chars h₂.account.chars (hslash _) (hslash _)
    (List.append_cancel_left h)
  obtain ⟨hrepo, h⟩ := Text.run_inj h₁.repo.chars h₂.repo.chars (releaseText_stops _)
    (releaseText_stops _) (List.cons.inj h).2
  exact ⟨String.toList_inj.mp haccount, String.toList_inj.mp hrepo,
    releaseText_injective hrelease₁ hrelease₂ h⟩

theorem Pins.readable {c : Catalog} {history : List Registration} (hc : c.Recalls history)
    {r : Reference} (hr : r.WellFormed) {release : Option Version} (h : r.Pins c release) :
    ∀ v ∈ release, v.Readable := by
  cases h with
  | unversioned _ => exact nofun
  | versioned hversion hpin =>
    rintro _ ⟨⟩
    exact Provider.pin_readable (hr.version _ hversion) (fun releases => hc.readable) hpin

theorem address_eq_iff {c : Catalog} {history : List Registration} (hc : c.Recalls history)
    {r₁ r₂ : Reference} (hr₁ : r₁.WellFormed) (hr₂ : r₂.WellFormed) {url₁ url₂ : String}
    (h₁ : r₁.resolve c = .ok (some url₁)) (h₂ : r₂.resolve c = .ok (some url₂)) :
    url₁ = url₂ ↔ SameRelease c r₁ r₂ := by
  obtain ⟨release₁, hpins₁, rfl⟩ := resolve_pins h₁
  obtain ⟨release₂, hpins₂, rfl⟩ := resolve_pins h₂
  constructor
  · intro h
    obtain ⟨haccount, hrepo, rfl⟩ := addressOf_injective hr₁ hr₂ (hpins₁.readable hc hr₁)
      (hpins₂.readable hc hr₂) h
    exact ⟨haccount, hrepo, release₁, hpins₁, hpins₂⟩
  · rintro ⟨haccount, hrepo, release, hrelease₁, hrelease₂⟩
    obtain rfl := hpins₁.unique hrelease₁
    obtain rfl := hpins₂.unique hrelease₂
    rw [← String.toList_inj, addressOf_toList, addressOf_toList, haccount, hrepo]

/-- Whatever was registered, two references that were read and have addresses have the same address
just if they name the same account and repository, and both give no version or both stand for the same
release. If not, fetching the document of one leaves alone what is kept for the other. -/
theorem addresses_distinguish {given : List Registration} {start : Catalog}
    (h : Catalog.Initial given start) (steps : List Registration) {input₁ input₂ : String}
    {r₁ r₂ : Reference} (h₁ : parse input₁ = .ok r₁) (h₂ : parse input₂ = .ok r₂)
    {url₁ url₂ : String} (hurl₁ : r₁.resolve (start.registerAll steps).2 = .ok (some url₁))
    (hurl₂ : r₂.resolve (start.registerAll steps).2 = .ok (some url₂)) :
    (url₁ = url₂ ↔ SameRelease (start.registerAll steps).2 r₁ r₂) ∧
    (¬ SameRelease (start.registerAll steps).2 r₁ r₂ → ∀ origin cache,
      kept? (fetch origin cache url₁).cache url₂ = kept? cache url₂) := by
  have hiff := address_eq_iff (h.recalls.registerAll steps) (wellFormed_of_parse h₁)
    (wellFormed_of_parse h₂) hurl₁ hurl₂
  refine ⟨hiff, fun hother origin cache => ?_⟩
  apply kept?_fetch_of_ne
  rintro rfl
  exact hother (hiff.mp rfl)

/-- A line and its latest release share an address; the release before it has one of its own. -/
theorem addresses_distinguish_line :
    let c := (Catalog.empty.registerAll [⟨"crossplane/crossplane", ["v0.14.0", "v0.14.2"]⟩]).2
    let line : Reference := ⟨"github", "crossplane", "crossplane", some (.line 0 14)⟩
    let latest : Reference :=
      ⟨"GitHub", "crossplane", "crossplane", some (.exact (.ofNumbers 0 14 2))⟩
    let former : Reference :=
      ⟨"github", "crossplane", "crossplane", some (.exact (.ofNumbers 0 14 0))⟩
    parse "github:crossplane/crossplane@0.14" = .ok line ∧
    line.resolve c = .ok (some (line.gitHubAddressAt (.ofNumbers 0 14 2))) ∧
    parse "GitHub:crossplane/crossplane@v0.14.2" = .ok latest ∧
    latest.resolve c = .ok (some (latest.gitHubAddressAt (.ofNumbers 0 14 2))) ∧
    parse "github:crossplane/crossplane@0.14.0" = .ok former ∧
    former.resolve c = .ok (some (former.gitHubAddressAt (.ofNumbers 0 14 0))) ∧
    SameRelease c line latest ∧ ¬ SameRelease c line former := by
  intro c line latest former
  have hline : parse "github:crossplane/crossplane@0.14" = .ok line := by decide +kernel
  have hlatest : parse "GitHub:crossplane/crossplane@v0.14.2" = .ok latest := by decide +kernel
  have hformer : parse "github:crossplane/crossplane@0.14.0" = .ok former := by decide +kernel
  have hline' : line.resolve c = .ok (some (line.gitHubAddressAt (.ofNumbers 0 14 2))) := by
    decide +kernel
  have hlatest' : latest.resolve c = .ok (some (latest.gitHubAddressAt (.ofNumbers 0 14 2))) := by
    decide +kernel
  have hformer' : former.resolve c = .ok (some (former.gitHubAddressAt (.ofNumbers 0 14 0))) := by
    decide +kernel
  refine ⟨hline, hline', hlatest, hlatest', hformer, hformer', ?_, fun hsame => ?_⟩
  · apply (addresses_distinguish .empty _ hline hlatest hline' hlatest').1.mp
    rfl
  · have haddress := (addresses_distinguish .empty _ hline hformer hline' hformer').1.mpr hsame
    exact absurd haddress (by decide +kernel)

end Reference
end CrdBindings
