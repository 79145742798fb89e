import CrdBindings.Invocation.Running
import CrdBindings.Proofs.Collecting
import CrdBindings.Proofs.Resolution
import CrdBindings.Proofs.Session
import CrdBindings.Proofs.Source

/-!
Ways from an input to a document. An input can be read as a reference at once, or first be set apart
from addresses and files by what stands before its colon. The two tests accept different inputs, but
both accept each one that has an address as a reference.
-/

namespace CrdBindings
set_option autoImplicit false

namespace Reference

theorem isLikely_trimmed (input : String) : isLikely (Text.trimmed input) = isLikely input := by
  rw [isLikely, Text.trim_trimmed, isLikely]

/-- Blanks around a reference do not matter; a refusal would carry them. -/
theorem parse_trimmed {input : String} {r : Reference} :
    parse (Text.trimmed input) = .ok r ↔ parse input = .ok r := by
  unfold parse
  rw [Text.trim_trimmed]
  cases parts? (Text.trim input.toList) with
  | none => simp
  | some p =>
    dsimp only
    cases p.version with
    | none => rfl
    | some v =>
      dsimp only
      cases Fragment.read v with
      | error fault => simp
      | ok fragment => rfl

/-- GitHub has a name for a provider: two or more letters that are no scheme of an address. -/
theorem WellFormed.isLikelyName {r : Reference} (h : r.WellFormed)
    (hgitHub : Text.lowerAscii r.provider = "github") : isLikelyName r.provider.toList := by
  have hlength : r.provider.toList.length = 6 := by
    have hsix := congrArg (fun name => name.toList.length) hgitHub
    simpa [Text.lowerAscii] using hsix
  simp only [Reference.isLikelyName, String.ofList_toList, hgitHub, hlength, Bool.and_eq_true,
    List.all_eq_true]
  exact ⟨by decide, h.provider.chars⟩

end Reference

namespace Source

/-- An input is set apart as a reference if it can be read as one whose provider has a name for it. -/
theorem detect_eq_reference {input : String} {r : Reference} :
    detect input = .ok (.reference r) ↔
      Reference.parse input = .ok r ∧ Reference.isLikelyName r.provider.toList := by
  rw [detect_eq_ok]
  constructor
  · rintro ⟨-, hmeans⟩
    cases hmeans with
    | reference likely read =>
      have hr := Reference.parse_trimmed.mp read
      rw [Reference.isLikely_trimmed, Reference.isLikely_of_parse hr] at likely
      exact ⟨hr, likely⟩
  · rintro ⟨hr, hname⟩
    have hlikely : Reference.isLikely (Text.trimmed input) := by
      rw [Reference.isLikely_trimmed, Reference.isLikely_of_parse hr, hname]
    refine ⟨?_, .reference hlikely (Reference.parse_trimmed.mpr hr)⟩
    intro hempty
    rw [hempty] at hlikely
    exact absurd hlikely (by decide)

theorem resolveText_of_detect {input : String} {r : Reference}
    (h : detect input = .ok (.reference r)) (c : Catalog) :
    Reference.resolveText input c = (Source.reference r).resolve c := by
  rw [Reference.resolveText, (detect_eq_reference.mp h).1, resolve]

/-- What has an address as a reference is set apart as one. -/
theorem detect_of_resolve {input url : String} {r : Reference} {c : Catalog}
    (hr : Reference.parse input = .ok r) (hurl : r.resolve c = .ok (some url)) :
    detect input = .ok (.reference r) := by
  have hname := (Reference.wellFormed_of_parse hr).isLikelyName (Reference.gitHub_of_resolve hurl)
  exact detect_eq_reference.mpr ⟨hr, hname⟩

/-- The direct address is that of a reference of whose repository no release is known. -/
theorem directAddress?_eq_some {input url : String} :
    Reference.directAddress? input = some url ↔
      ∃ r, detect input = .ok (.reference r) ∧ ∀ c : Catalog, c.releases? r.repository = none →
        (Source.reference r).resolve c = .ok (some url) := by
  rw [Reference.directAddress?_eq_some_iff]
  constructor
  · rintro ⟨r, hr, hurl⟩
    refine ⟨r, detect_of_resolve hr hurl, fun c hnone => ?_⟩
    have hempty : c.releases? r.repository = Catalog.empty.releases? r.repository := hnone
    exact (Reference.resolve_congr hempty).trans hurl
  · rintro ⟨r, hdetect, hurl⟩
    exact ⟨r, (detect_eq_reference.mp hdetect).1, hurl .empty rfl⟩

end Source

theorem runResolve_printed {d : Disk} {c : Catalog} {input url : String} :
    (runResolve d c input).printed = [url] ↔ Reference.resolveText input c = .ok (some url) := by
  unfold runResolve
  cases Reference.resolveText input c with
  | error failure => simp
  | ok address => cases address <;> simp

namespace Importer

theorem locate_of_detect {i : Importer} {input url : String} {source : Source}
    (hdetect : Source.detect input = .ok source) (hurl : source.resolve i.catalog = .ok (some url)) :
    i.locate input = .ok (some (source, url)) := by
  rw [locate, hdetect]
  dsimp only
  rw [hurl]
  rfl

theorem fetch_asked {origin : Origin} {cache : Option Cache} {url asked : String}
    (h : asked ∈ (CrdBindings.fetch origin cache url).asked) : asked = url := by
  rcases fetch_cases origin cache url with
    ⟨text, -, hfetch⟩ | ⟨-, text, -, hfetch⟩ | ⟨-, -, hfetch⟩
  · rw [hfetch] at h
    cases h
  · rw [hfetch] at h
    exact List.mem_singleton.mp h
  · rw [hfetch] at h
    exact List.mem_singleton.mp h

/-- An import asks for the one document of its input, and what it gives was read from there. -/
theorem importInput_from {i : Importer} {input url : String} {source : Source}
    (h : i.locate input = .ok (some (source, url))) :
    (∀ asked ∈ (i.importInput input).asked, asked = url) ∧
    ∀ found, (i.importInput input).result = .ok (some found) →
      found.source = source ∧ found.url = url := by
  rw [importInput_of_locate h]
  refine ⟨fun asked hasked => fetch_asked hasked, ?_⟩
  intro found hfound
  obtain ⟨compiled, hcompiled, hsome⟩ := map_eq_ok hfound
  obtain rfl := Option.some.inj hsome
  obtain ⟨definitions, -, hcompile⟩ := bind_eq_ok hcompiled
  obtain ⟨modules, -, rfl⟩ := map_eq_ok hcompile
  exact ⟨rfl, rfl⟩

end Importer

namespace Source

/-- All ways from an input to a document agree. An input with an address as a reference is set apart as
the reference that it is read as, and an input that is set apart as a reference is answered as such,
be it with an address, with none or with a refusal. The direct address is the one wherever no release of
the repository is known. What is shown for a reference is what an import asks for and reads. -/
theorem ways_agree (input : String) (c : Catalog) :
    (∀ url, Reference.resolveText input c = .ok (some url) →
      ∃ r, Reference.parse input = .ok r ∧ detect input = .ok (.reference r) ∧
        (Source.reference r).resolve c = .ok (some url)) ∧
    (∀ r, detect input = .ok (.reference r) →
      Reference.resolveText input c = (Source.reference r).resolve c) ∧
    (∀ url, Reference.directAddress? input = some url ↔
      ∃ r, detect input = .ok (.reference r) ∧ ∀ known : Catalog,
        known.releases? r.repository = none →
          (Source.reference r).resolve known = .ok (some url)) ∧
    ∀ d url, (runResolve d c input).printed = [url] → ∀ i : Importer, i.catalog = c →
      ∃ r, i.locate input = .ok (some (.reference r, url)) ∧
        (∀ asked ∈ (i.importInput input).asked, asked = url) ∧
        ∀ found, (i.importInput input).result = .ok (some found) → found.url = url := by
  have hreference : ∀ url, Reference.resolveText input c = .ok (some url) →
      ∃ r, Reference.parse input = .ok r ∧ detect input = .ok (.reference r) ∧
        (Source.reference r).resolve c = .ok (some url) := by
    intro url h
    obtain ⟨r, hr, hurl⟩ := Reference.resolveText_eq_some_iff.mp h
    exact ⟨r, hr, detect_of_resolve hr hurl, hurl⟩
  refine ⟨hreference, ?_, ?_, ?_⟩
  · intro r hdetect
    exact resolveText_of_detect hdetect c
  · intro url
    exact directAddress?_eq_some
  · rintro d url hshown i rfl
    obtain ⟨r, -, hdetect, hurl⟩ := hreference url (runResolve_printed.mp hshown)
    have hlocate := i.locate_of_detect hdetect hurl
    obtain ⟨hasked, hfound⟩ := i.importInput_from hlocate
    exact ⟨r, hlocate, hasked, fun found h => (hfound found h).2⟩

/-- A line of a repository without known releases, where another repository has one; the document
declares a kind. -/
theorem ways_agree_line :
    let c : Catalog := ⟨[("o/q", [.ofNumbers 0 14 2])]⟩
    let input := " GitHub:o/p@0.14"
    let r : Reference := ⟨"GitHub", "o", "p", some (.line 0 14)⟩
    let url := "https://doc.crds.dev/raw/github.com/o/p@v0.14.0"
    let i : Importer := ⟨c, fun _ => .document Bundle.gadgetText, none, 30000⟩
    (runResolve ⟨[], []⟩ c input).printed = [url] ∧
    Reference.resolveText input c = .ok (some url) ∧
    Reference.parse input = .ok r ∧ detect input = .ok (.reference r) ∧
    Reference.resolveText input c = (Source.reference r).resolve c ∧
    Reference.directAddress? input = some url ∧ c.releases? r.repository = none ∧
    (Source.reference r).resolve c = .ok (some url) ∧
    (∀ asked ∈ (i.importInput input).asked, asked = url) ∧
    ∃ found, (i.importInput input).result = .ok (some found) ∧ found.url = url ∧
      found.definitions = [Bundle.gadget] := by
  intro c input r url i
  obtain ⟨hreference, hsame, hdirect, hways⟩ := ways_agree input c
  have htext : Reference.resolveText input c = .ok (some url) := by decide +kernel
  have hshown : (runResolve ⟨[], []⟩ c input).printed = [url] := runResolve_printed.mpr htext
  have hparse : Reference.parse input = .ok r := by decide +kernel
  have haddress : Reference.directAddress? input = some url := by decide +kernel
  have hunknown : c.releases? r.repository = none := by decide +kernel
  obtain ⟨r', hparse', hdetect, -⟩ := hreference url htext
  obtain rfl : r' = r := Except.ok.inj (hparse'.symm.trans hparse)
  have hurl : (Source.reference r).resolve c = .ok (some url) := by
    obtain ⟨r', hdetect', haddress'⟩ := (hdirect url).mp haddress
    obtain rfl : r' = r := Source.reference.inj (Except.ok.inj (hdetect'.symm.trans hdetect))
    exact haddress' c hunknown
  obtain ⟨-, -, hasked, hfound⟩ := hways ⟨[], []⟩ url hshown i rfl
  obtain ⟨found, hresult, hdefinitions⟩ : ∃ found,
      (i.importInput input).result = .ok (some found) ∧ found.definitions = [Bundle.gadget] := by
    have hfetch : CrdBindings.fetch i.origin i.cache url =
        ⟨.document Bundle.gadgetText, [url], none⟩ := rfl
    rw [Importer.importInput_of_locate (i.locate_of_detect hdetect hurl), hfetch]
    simp only [Retrieval.map, Importer.answer, Reply.text, Except.bind, Bundle.ofText_gadgetText]
    exact ⟨_, rfl, rfl⟩
  exact ⟨hshown, htext, hparse, hdetect, hsame r hdetect, haddress, hunknown, hurl, hasked, found,
    hresult, hfound found hresult, hdefinitions⟩

/-- A drive and a scheme are read as names of providers that have no address, and are none of a source. -/
example :
    detect "c:o/p" = .ok (.file "c:o/p") ∧ detect "http:o/p" = .ok (.file "http:o/p") ∧
    Reference.resolveText "c:o/p" .empty = .ok none ∧
    Reference.resolveText "http:o/p" .empty = .ok none := by
  decide +kernel

end Source
end CrdBindings
