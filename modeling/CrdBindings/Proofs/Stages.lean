import CrdBindings.Proofs.Collecting
import CrdBindings.Proofs.Compilation
import CrdBindings.Proofs.Grammar.Reference
import CrdBindings.Proofs.Resolution
import CrdBindings.Proofs.Session

/-!
The stages of an import: the input is understood, its source gets an address, the document is fetched,
read and compiled. What went wrong tells how far an import came: a failure blames the reference just when
no address was found, and then nothing was asked for.
-/

namespace CrdBindings
set_option autoImplicit false

section Blame

variable {failure : Failure}

theorem Source.detect_error {input : String} (h : Source.detect input = .error failure) :
    failure.blamesReference := by
  unfold detect at h
  dsimp only at h
  split at h
  · cases h
    rfl
  · split at h
    · obtain ⟨reason, rfl⟩ := Reference.parse_error (map_error h)
      rfl
    · split at h
      · unfold readUrl at h
        split at h <;> cases h
        rfl
      · cases h

theorem Fragment.select_error {fragment : Fragment} {releases : List Version}
    (h : fragment.select releases = .error failure) : failure.blamesReference := by
  cases fragment with
  | major m =>
    cases h
    rfl
  | line m n =>
    rcases select_line m n releases with ⟨v, -, hselect⟩ | ⟨-, hselect⟩
    · rw [hselect] at h
      cases h
    · rw [hselect] at h
      cases h
      rfl
  | exact v =>
    rw [select_exact] at h
    split at h
    · cases h
    · cases h
      rfl

theorem Provider.pin_error {fragment : Fragment} {known : Option (List Version)}
    (h : Provider.pin fragment known = .error failure) : failure.blamesReference := by
  cases known with
  | some releases => exact Fragment.select_error h
  | none =>
    cases fragment <;> cases h
    rfl

theorem Reference.resolve_error {r : Reference} {catalog : Catalog}
    (h : r.resolve catalog = .error failure) : failure.blamesReference := by
  unfold resolve at h
  split at h
  · rename_i provider _
    cases provider
    have haddress := map_error h
    cases hversion : r.version with
    | none => simp [Provider.address, hversion] at haddress
    | some fragment =>
      rw [address_of_version hversion] at haddress
      exact Provider.pin_error (map_error haddress)
  · cases h

theorem Source.resolve_error {s : Source} {catalog : Catalog}
    (h : s.resolve catalog = .error failure) : failure.blamesReference := by
  cases s with
  | reference r => exact Reference.resolve_error h
  | url u => cases h
  | file path => cases h

theorem Bundle.ofText_error {text : String} (h : Bundle.ofText text = .error failure) :
    ∃ reason, failure = .parse reason := by
  rcases ofText_cases text with ⟨values, found, -, -, hok⟩ | ⟨n, -, herror⟩
  · rw [hok] at h
    cases h
  · rw [herror] at h
    cases h
    exact ⟨_, rfl⟩

theorem Bundle.ofText_eq_found {text : String} {definitions : List Definition}
    (h : Bundle.ofText text = .ok definitions) :
    ∃ values found, Yaml.documents text = values.map some ∧ Found (metIn? values) found ∧
      definitions = found.map Prod.snd := by
  rcases ofText_cases text with ⟨values, found, hvalues, hfound, hok⟩ | ⟨n, -, herror⟩
  · rw [hok] at h
    cases h
    exact ⟨values, found, hvalues, hfound, rfl⟩
  · rw [herror] at h
    cases h

theorem TypedModule.ofDefinitions_error {definitions : List Definition}
    (h : ofDefinitions definitions = .error failure) : ∃ reason, failure = .parse reason := by
  rw [ofDefinitions_eq_error_iff, Occurrence.compile_eq_error_iff] at h
  obtain ⟨before, o, after, -, -, hresource⟩ := h
  obtain ⟨schema, -, hschema⟩ := (Occurrence.resource_eq_error_iff o failure).mp hresource
  exact ⟨_, Node.ofSchema_error hschema⟩

end Blame

/-- A document that was asked for by its address and is not there, or is not what it should be. -/
inductive Failure.Of (url : String) (timeout : Nat) : Failure → Prop where
  | refused (reason : String) : Of url timeout (.fetch url reason)
  | late : Of url timeout (.timeout url (timeout / 1000))
  | unreadable (reason : String) : Of url timeout (.parse reason)

theorem Failure.Of.blamesReference {url : String} {timeout : Nat} {failure : Failure}
    (h : Failure.Of url timeout failure) : failure.blamesReference = false := by
  cases h <;> rfl

namespace Importer

/-- The source that an input stands for, and the address of its document. -/
def Locates (i : Importer) (input : String) (source : Source) (url : String) : Prop :=
  Source.detect input = .ok source ∧ source.resolve i.catalog = .ok (some url)

/-- Why an import has no document: its input cannot be understood, its source has no address, or no
provider handles its source. -/
inductive Unlocated (i : Importer) (input : String) : Except Failure (Option Import) → Prop where
  | undetected {failure : Failure} : Source.detect input = .error failure →
      Unlocated i input (.error failure)
  | unresolved {source : Source} {failure : Failure} : Source.detect input = .ok source →
      source.resolve i.catalog = .error failure → Unlocated i input (.error failure)
  | unhandled {source : Source} : Source.detect input = .ok source →
      source.resolve i.catalog = .ok none → Unlocated i input (.ok none)

/-- All definitions met in the documents of a text, as they are read, and the modules compiled from
just these. -/
structure Carries (text : String) (definitions : List Definition) (modules : List TypedModule) :
    Prop where
  read : Bundle.ofText text = .ok definitions
  collected : ∃ values found, Yaml.documents text = values.map some ∧
    Bundle.Found (Bundle.metIn? values) found ∧ definitions = found.map Prod.snd
  compiled : TypedModule.ofDefinitions definitions = .ok modules

theorem locate_eq_some {i : Importer} {input url : String} {source : Source} :
    i.locate input = .ok (some (source, url)) ↔ i.Locates input source url := by
  unfold locate Locates
  cases Source.detect input with
  | error failure => simp
  | ok detected =>
    dsimp only
    cases hresolve : detected.resolve i.catalog with
    | error failure =>
      simp only [Except.map, reduceCtorEq, false_iff, not_and, Except.ok.injEq]
      rintro rfl
      simp [hresolve]
    | ok address =>
      simp only [Except.map, Except.ok.injEq, Option.map_eq_some_iff, Prod.mk.injEq]
      constructor
      · rintro ⟨_, rfl, rfl, rfl⟩
        exact ⟨rfl, hresolve⟩
      · rintro ⟨rfl, hurl⟩
        rw [hresolve] at hurl
        exact ⟨url, Except.ok.inj hurl, rfl, rfl⟩

/-- An import whose document is nowhere is answered at once. -/
theorem importInput_unlocated {i : Importer} {input : String}
    (h : ¬ ∃ source url, i.Locates input source url) :
    (i.importInput input).asked = [] ∧ (i.importInput input).cache = i.cache ∧
      i.Unlocated input (i.importInput input).result := by
  simp only [← locate_eq_some] at h
  unfold importInput
  cases hlocate : i.locate input with
  | error failure =>
    refine ⟨rfl, rfl, ?_⟩
    unfold locate at hlocate
    split at hlocate
    · rename_i source hdetect
      exact .unresolved hdetect (map_error hlocate)
    · rename_i hdetect
      cases hlocate
      exact .undetected hdetect
  | ok located =>
    cases located with
    | none =>
      refine ⟨rfl, rfl, ?_⟩
      unfold locate at hlocate
      split at hlocate
      · rename_i source hdetect
        obtain ⟨address, hresolve, hnone⟩ := map_eq_ok hlocate
        cases address with
        | none => exact .unhandled hdetect hresolve
        | some url => cases hnone
      · cases hlocate
    | some pair => exact absurd ⟨pair.1, pair.2, hlocate⟩ h

theorem Unlocated.blames {i : Importer} {input : String}
    {result : Except Failure (Option Import)} (h : i.Unlocated input result) :
    result = .ok none ∨ ∃ failure, result = .error failure ∧ failure.blamesReference := by
  cases h with
  | undetected hdetect => exact .inr ⟨_, rfl, Source.detect_error hdetect⟩
  | unresolved _ hresolve => exact .inr ⟨_, rfl, Source.resolve_error hresolve⟩
  | unhandled => exact .inl rfl

theorem fetch_asked_eq (origin : Origin) (cache : Option Cache) (url : String) :
    (CrdBindings.fetch origin cache url).asked = if (kept? cache url).isSome then [] else [url] := by
  rcases fetch_cases origin cache url with
    ⟨text, hkept, hfetch⟩ | ⟨hkept, text, -, hfetch⟩ | ⟨hkept, -, hfetch⟩
  · rw [hfetch, hkept]
    rfl
  · rw [hfetch, hkept]
    rfl
  · rw [hfetch, hkept]
    rfl

section Answer

variable {i : Importer} {source : Source} {url : String} {reply : Reply}

theorem answer_error {failure : Failure} (h : i.answer source url reply = .error failure) :
    failure.Of url i.timeout := by
  have hcompiled := map_error h
  cases reply with
  | refused reason =>
    cases hcompiled
    exact .refused reason
  | stalled =>
    cases hcompiled
    exact .late
  | document text =>
    cases hread : Bundle.ofText text with
    | error other =>
      obtain ⟨reason, rfl⟩ := Bundle.ofText_error hread
      simp only [Reply.text, Except.bind, hread] at hcompiled
      cases hcompiled
      exact .unreadable reason
    | ok definitions =>
      simp only [Reply.text, Except.bind, hread] at hcompiled
      obtain ⟨reason, rfl⟩ := TypedModule.ofDefinitions_error (map_error hcompiled)
      exact .unreadable reason

theorem answer_eq_ok {found : Option Import} :
    i.answer source url reply = .ok found ↔ ∃ text definitions modules,
      reply = .document text ∧ Carries text definitions modules ∧
        found = some ⟨source, url, definitions, modules⟩ := by
  constructor
  · intro h
    obtain ⟨_, hcompiled, rfl⟩ := map_eq_ok h
    obtain ⟨definitions, hdefinitions, hcompile⟩ := bind_eq_ok hcompiled
    obtain ⟨text, htext, hread⟩ := bind_eq_ok hdefinitions
    obtain ⟨modules, hmodules, rfl⟩ := map_eq_ok hcompile
    cases reply with
    | document _ =>
      cases htext
      exact ⟨text, definitions, modules, rfl, ⟨hread, Bundle.ofText_eq_found hread, hmodules⟩, rfl⟩
    | refused reason => cases htext
    | stalled => cases htext
  · rintro ⟨text, definitions, modules, rfl, hcarries, rfl⟩
    simp only [answer, Reply.text, Except.bind, hcarries.read, compile, hcarries.compiled, Except.map]

end Answer

/-- An import asks for no document but the one at the address of its input, and for that one only if it is
not kept. Without an address it asks for nothing, leaves the cache as it is, and is answered with none or
with a failure that blames the reference; this is so only without an address. With one, every failure is
of the document, and what is imported carries all of it. -/
theorem importInput_stages (i : Importer) (input : String) :
    (((i.importInput input).result = .ok none ∨
        ∃ failure, (i.importInput input).result = .error failure ∧ failure.blamesReference) ↔
      ¬ ∃ source url, i.Locates input source url) ∧
    ((¬ ∃ source url, i.Locates input source url) →
      (i.importInput input).asked = [] ∧ (i.importInput input).cache = i.cache ∧
        i.Unlocated input (i.importInput input).result) ∧
    ∀ source url, i.Locates input source url →
      (i.importInput input).asked = (if (kept? i.cache url).isSome then [] else [url]) ∧
      (∀ failure, (i.importInput input).result = .error failure →
        failure.Of url i.timeout ∧ failure.blamesReference = false) ∧
      ∀ found, (i.importInput input).result = .ok found ↔ ∃ text definitions modules,
        (CrdBindings.fetch i.origin i.cache url).result = .document text ∧
          Carries text definitions modules ∧ found = some ⟨source, url, definitions, modules⟩ := by
  have hlocated : ∀ source url, i.Locates input source url →
      i.importInput input =
        (CrdBindings.fetch i.origin i.cache url).map (i.answer source url) :=
    fun source url h => importInput_of_locate (locate_eq_some.mpr h)
  refine ⟨⟨?_, ?_⟩, importInput_unlocated, ?_⟩
  · rintro hblames ⟨source, url, h⟩
    rw [hlocated source url h] at hblames
    rcases hblames with hnone | ⟨failure, hfailure, hblames⟩
    · obtain ⟨text, definitions, modules, -, -, hfound⟩ := answer_eq_ok.mp hnone
      cases hfound
    · rw [(answer_error hfailure).blamesReference] at hblames
      cases hblames
  · exact fun h => (importInput_unlocated h).2.2.blames
  · intro source url h
    rw [hlocated source url h]
    refine ⟨fetch_asked_eq i.origin i.cache url, ?_, fun found => answer_eq_ok⟩
    intro failure hfailure
    have hof := answer_error hfailure
    exact ⟨hof, hof.blamesReference⟩

/-- A major number alone has no address; a line has one, and its document declares a kind. -/
theorem importInput_stages_line :
    let i : Importer := ⟨.empty, fun _ => .document Bundle.gadgetText, some .empty, 30000⟩
    let r : Reference := ⟨"github", "o", "p", some (.line 0 14)⟩
    let url := "https://doc.crds.dev/raw/github.com/o/p@v0.14.0"
    ((¬ ∃ source url, i.Locates "github:o/p@1" source url) ∧
      (i.importInput "github:o/p@1").asked = [] ∧
      (i.importInput "github:o/p@1").cache = some .empty ∧
      i.Unlocated "github:o/p@1" (i.importInput "github:o/p@1").result) ∧
    i.Locates "github:o/p@0.14" (.reference r) url ∧
    (i.importInput "github:o/p@0.14").asked = [url] ∧
    (i.importInput "github:o/p@0.14").result = .ok (some ⟨.reference r, url, [Bundle.gadget],
      [⟨"example.com", "v1", [⟨"Gadget", "gadgets", .namespaced, none, []⟩]⟩]⟩) := by
  intro i r url
  have hunlocated : ¬ ∃ source url, i.Locates "github:o/p@1" source url := by
    rintro ⟨source, url, hdetect, hresolve⟩
    have hmajor : Source.detect "github:o/p@1" =
        .ok (.reference ⟨"github", "o", "p", some (.major 1)⟩) := by decide +kernel
    rw [hmajor] at hdetect
    cases hdetect
    cases hresolve
  have hlocated : i.Locates "github:o/p@0.14" (.reference r) url :=
    ⟨by decide +kernel, by decide +kernel⟩
  obtain ⟨-, hnothing, -⟩ := importInput_stages i "github:o/p@1"
  obtain ⟨-, -, hdocument⟩ := importInput_stages i "github:o/p@0.14"
  obtain ⟨hasked, -, himported⟩ := hdocument (.reference r) url hlocated
  have hread := Bundle.ofText_gadgetText
  have hcarries : Carries Bundle.gadgetText [Bundle.gadget]
      [⟨"example.com", "v1", [⟨"Gadget", "gadgets", .namespaced, none, []⟩]⟩] :=
    ⟨hread, Bundle.ofText_eq_found hread, rfl⟩
  exact ⟨⟨hunlocated, hnothing hunlocated⟩, hlocated, hasked,
    (himported _).mpr ⟨_, _, _, rfl, hcarries, rfl⟩⟩

end Importer
end CrdBindings
