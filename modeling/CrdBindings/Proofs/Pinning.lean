import CrdBindings.Proofs.Addressing
import CrdBindings.Proofs.Grammar.Reference

/-!
Pinned references. The address of a reference with a version ends in the release that it stands for. A
reference to that release, with or without a mark in front of it, is read and has the same address.
-/

namespace CrdBindings
set_option autoImplicit false

/-- What a fragment was pinned to stands for itself among the same releases. -/
theorem Provider.pin_exact {fragment : Fragment} {known : Option (List Version)} {v : Version}
    (h : pin fragment known = .ok v) : pin (.exact v) known = .ok v := by
  cases known with
  | none => rfl
  | some releases => rw [pin, Fragment.select_exact, if_pos (Fragment.mem_of_select h)]

namespace Version

/-- A version written with or without a mark in front. -/
inductive Writes (v : Version) : String → Prop where
  | bare : Writes v v.text
  | marked : Writes v ("v" ++ v.text)
  | capital : Writes v ("V" ++ v.text)

variable {v : Version} {written : String}

theorem Writes.spells (h : v.Writes written) (hv : v.Readable) :
    Fragment.Spells (dropMark written.toList) (.exact v) := by
  have hexact : (Fragment.exact v).Readable := hv
  have hspells : Fragment.Spells v.text.toList (.exact v) := hexact.spells
  cases h with
  | bare =>
    obtain ⟨c, cs, hcs, hc⟩ := (Fragment.exact v).text_head
    have htext : v.text.toList = c :: cs := hcs
    rw [htext, dropMark_of_isDigit hc, ← htext]
    exact hspells
  | marked | capital =>
    rw [String.toList_append]
    exact hspells

theorem Writes.isBlank (h : v.Writes written) (hv : v.Readable) :
    ∀ c ∈ written.toList, Text.isBlank c = false := by
  have htext : ∀ c ∈ v.text.toList, Text.isBlank c = false :=
    fun c hc => Text.isBlank_of_isPrinted (hv.isPrinted_text c hc)
  cases h with
  | bare => exact htext
  | marked | capital =>
    rw [String.toList_append]
    exact List.forall_mem_cons.mpr ⟨rfl, htext⟩

end Version

namespace Reference

/-- The text of a reference to the same repository with a version as it is written. -/
def textAt (r : Reference) (written : String) : String :=
  s!"{r.provider}:{r.account}/{r.repo}@{written}"

def pinned (r : Reference) (v : Version) : Reference := { r with version := some (.exact v) }

theorem textAt_toList (r : Reference) (written : String) :
    (r.textAt written).toList =
      Parts.text ⟨r.provider.toList, r.account.toList, r.repo.toList, some written.toList⟩ := by
  simp [textAt, Parts.text, versionText, toString]

/-- With a version as it is written the text is read as the reference to what this spells. -/
theorem parse_textAt {r : Reference} (hr : r.WellFormed) {written : String} {fragment : Fragment}
    (hblank : ∀ c ∈ written.toList, Text.isBlank c = false)
    (hspells : Fragment.Spells (Version.dropMark written.toList) fragment) :
    parse (r.textAt written) = .ok { r with version := some fragment } := by
  have hwritten : written.toList ≠ [] := by
    intro hnil
    rw [hnil] at hspells
    cases Fragment.readBare_eq_ok_iff.mpr hspells
  have hp : Parts.Grammatical
      ⟨r.provider.toList, r.account.toList, r.repo.toList, some written.toList⟩ := by
    refine ⟨hr.provider, hr.account, hr.repo, ?_⟩
    rintro _ ⟨⟩
    exact ⟨hwritten, hblank⟩
  have hinput := hp.isTrimmed_text.trim_eq
  rw [← textAt_toList] at hinput
  apply (parse_of_parts hp (hinput.trans (r.textAt_toList written))).mpr
  exact ⟨rfl, rfl, rfl, .some hspells⟩

theorem Pins.pinned {c : Catalog} {r : Reference} {v : Version} (h : r.Pins c (some v)) :
    (r.pinned v).Pins c (some v) := by
  cases h with
  | versioned _ hpin => exact .versioned rfl (Provider.pin_exact hpin)

/-- Whatever was registered, the address of a reference that was read with a version ends in the release
that the reference stands for. The text of a reference to this release, with or without a mark in
front, is read and has the same address. -/
theorem pinned_address_stable {given : List Registration} {start : Catalog}
    (h : Catalog.Initial given start) (steps : List Registration) {input : String} {r : Reference}
    (hparse : parse input = .ok r) (hversion : r.version ≠ none) {url : String}
    (hurl : r.resolve (start.registerAll steps).2 = .ok (some url)) :
    ∃ v : Version, r.Pins (start.registerAll steps).2 (some v) ∧
      url = r.gitHubAddress ++ "@v" ++ v.text ∧
      ∀ written, v.Writes written → parse (r.textAt written) = .ok (r.pinned v) ∧
        resolveText (r.textAt written) (start.registerAll steps).2 = .ok (some url) := by
  have hr := wellFormed_of_parse hparse
  obtain ⟨release, hpins, rfl⟩ := resolve_pins hurl
  cases release with
  | none =>
    cases hpins with
    | unversioned hnone => exact absurd hnone hversion
  | some v =>
    have hv : v.Readable := hpins.readable (h.recalls.registerAll steps) hr v rfl
    refine ⟨v, hpins, rfl, ?_⟩
    intro written hwritten
    have htext : parse (r.textAt written) = .ok (r.pinned v) :=
      parse_textAt hr (hwritten.isBlank hv) (hwritten.spells hv)
    have hgitHub : Text.lowerAscii (r.pinned v).provider = "github" :=
      gitHub_of_resolve (r := r) hurl
    refine ⟨htext, ?_⟩
    rw [resolveText, htext]
    exact resolve_of_pins hgitHub hpins.pinned

/-- A line is pinned to its latest release, which has a build. -/
theorem pinned_address_stable_build :
    let c := (Catalog.empty.registerAll [⟨"o/p", ["v0.14.0", "v0.14.2+build.7", "v0.14.3-rc.1"]⟩]).2
    let r : Reference := ⟨"GitHub", "o", "p", some (.line 0 14)⟩
    let url := "https://doc.crds.dev/raw/github.com/o/p@v0.14.2+build.7"
    parse " GitHub:o/p@v0.14" = .ok r ∧ r.version ≠ none ∧ r.resolve c = .ok (some url) ∧
    resolveText "GitHub:o/p@0.14.2+build.7" c = .ok (some url) ∧
    resolveText "GitHub:o/p@v0.14.2+build.7" c = .ok (some url) := by
  intro c r url
  have hparse : parse " GitHub:o/p@v0.14" = .ok r := by decide +kernel
  have hurl : r.resolve c = .ok (some url) := by decide +kernel
  obtain ⟨v, hpins, -, hpinned⟩ := pinned_address_stable .empty _ hparse nofun hurl
  obtain rfl : v = ⟨0, 14, 2, "", "build.7"⟩ :=
    Option.some.inj (hpins.unique (.versioned rfl rfl))
  exact ⟨hparse, nofun, hurl, (hpinned _ .bare).2, (hpinned _ .marked).2⟩

end Reference
end CrdBindings
