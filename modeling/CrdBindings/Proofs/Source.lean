import CrdBindings.Proofs.Reference
import CrdBindings.Proofs.Url
import CrdBindings.Source

/-!
Texts of sources. The text of a source stands for the source again: it is taken for a reference, an
address or a file like the input that the source was read from, and read as the same one.
-/

namespace CrdBindings
set_option autoImplicit false

namespace Source

/-- What a text without outer blanks means. -/
inductive Means (text : String) : Source → Prop where
  | reference {r : Reference} (likely : Reference.isLikely text)
      (read : Reference.parse text = .ok r) : Means text (reference r)
  | url {u : Url} (unlikely : Reference.isLikely text = false) (start : isUrl text)
      (read : Url.read? text = some (.ok u)) : Means text (url u)
  | file (unlikely : Reference.isLikely text = false)
      (other : isUrl text → Url.read? text = none) : Means text (file text)

theorem detect_eq_ok {input : String} {s : Source} :
    detect input = .ok s ↔ Text.trimmed input ≠ "" ∧ Means (Text.trimmed input) s := by
  unfold detect
  generalize Text.trimmed input = text
  dsimp only
  constructor
  · intro h
    split at h
    · cases h
    · rename_i hempty
      refine ⟨mt String.isEmpty_iff.mpr hempty, ?_⟩
      by_cases hlikely : Reference.isLikely text = true
      · rw [if_pos hlikely] at h
        obtain ⟨r, hr, rfl⟩ := map_eq_ok h
        exact .reference hlikely hr
      · rw [if_neg hlikely] at h
        have hunlikely := Bool.eq_false_iff.mpr hlikely
        by_cases hstart : isUrl text = true
        · rw [if_pos hstart, readUrl] at h
          cases hread : Url.read? text with
          | none =>
            rw [hread] at h
            cases h
            exact .file hunlikely fun _ => hread
          | some result =>
            rw [hread] at h
            cases result with
            | error fault => cases h
            | ok u =>
              cases h
              exact .url hunlikely hstart hread
        · rw [if_neg hstart] at h
          cases h
          exact .file hunlikely fun hurl => absurd hurl hstart
  · rintro ⟨hempty, hmeans⟩
    rw [Bool.eq_false_iff.mpr (mt String.isEmpty_iff.mp hempty)]
    cases hmeans with
    | reference likely read => simp [likely, read, Except.map]
    | url unlikely start read => simp [unlikely, start, readUrl, read]
    | file unlikely other =>
      by_cases hurl : isUrl text
      · simp [unlikely, readUrl, other hurl]
      · simp [unlikely, hurl]

theorem text_url_unlikely {u : Url} (h : u.Written) : Reference.isLikely u.text = false := by
  have hcolon : ':' ∉ u.scheme.text.toList := by
    cases u.scheme <;> decide
  have htext := h.isTrimmed_text.trim_eq.trans u.text_toList
  rw [Reference.isLikely_run htext hcolon]
  have hslashes : ∀ rest : List Char, ['/', '/'].isPrefixOf ('/' :: '/' :: rest) := fun _ => rfl
  rw [hslashes, Bool.not_true, Bool.and_false]

theorem isUrl_text (u : Url) : isUrl u.text := by
  rw [isUrl, Text.lowerAscii, String.toList_ofList, Url.text_toList]
  cases u.scheme <;> rfl

/-- The text of what a text means has the same meaning, if an address is read from its text. -/
theorem Means.text {text : String} {s : Source} (h : Means text s)
    (htext : Text.IsTrimmed text.toList) (hempty : text ≠ "")
    (hurl : ∀ u, s = .url u → Url.read? u.text = some (.ok u)) :
    Text.IsTrimmed s.text.toList ∧ s.text ≠ "" ∧ Means s.text s := by
  cases h with
  | @reference r likely read =>
    have hr := Reference.wellFormed_of_parse read
    exact ⟨hr.isTrimmed_text, r.text_ne_empty,
      .reference (Reference.isLikely_text read likely) hr.parse_text⟩
  | @url u unlikely start read =>
    have hu := Url.written_of_read? read
    exact ⟨hu.isTrimmed_text, u.text_ne_empty,
      .url (text_url_unlikely hu) (isUrl_text u) (hurl u rfl)⟩
  | file unlikely other => exact ⟨htext, hempty, .file unlikely other⟩

theorem detect_text {input : String} {s : Source} (h : detect input = .ok s)
    (hurl : ∀ u, s = .url u → Url.read? u.text = some (.ok u)) : detect s.text = .ok s := by
  obtain ⟨hempty, hmeans⟩ := detect_eq_ok.mp h
  obtain ⟨htrimmed, hnonempty, hmeans⟩ := hmeans.text (Text.trimmed_isTrimmed input) hempty hurl
  rw [← Text.trimmed_eq htrimmed] at hnonempty hmeans
  exact detect_eq_ok.mpr ⟨hnonempty, hmeans⟩

/-- Whatever an input was read as, its text is read as the same: a reference, a fragment, or the source
that an input stands for. Of an address it is a premise that its text is read as the address. -/
theorem texts_read_back :
    (∀ input r, Reference.parse input = .ok r → Reference.parse r.text = .ok r) ∧
    (∀ input fragment, Fragment.parse input = .ok fragment →
      Fragment.parse fragment.text = .ok fragment) ∧
    (∀ input s, detect input = .ok s → (∀ u, s = .url u → Url.read? u.text = some (.ok u)) →
      detect s.text = .ok s) := by
  refine ⟨fun input r h => ?_, fun input fragment h => ?_, fun input s h hurl => ?_⟩
  · exact (Reference.wellFormed_of_parse h).parse_text
  · exact (Fragment.readable_of_parse h).parse_text
  · exact detect_text h hurl

/-- Blanks, marks, leading zeros, capitals and steps in place are gone from the texts. -/
theorem texts_read_back_settled :
    let r : Reference := ⟨"github", "crossplane", "crossplane", some (.line 0 14)⟩
    let fragment : Fragment := .exact ⟨1, 2, 3, "rc.1", "build.7"⟩
    let u : Url := ⟨.https, none, some (.domain "example.com"), none, ["crds", "a%20b.yaml"],
      some "raw", none⟩
    (Reference.parse " github:crossplane/crossplane@V0.014 " = .ok r ∧
      Reference.parse "github:crossplane/crossplane@0.14" = .ok r) ∧
    (Fragment.parse "v1.2.3-rc.1+build.7" = .ok fragment ∧
      Fragment.parse "1.2.3-rc.1+build.7" = .ok fragment) ∧
    (detect " HTTPS://Example.COM:443/crds/./a b.yaml?raw" = .ok (.url u) ∧
      Url.read? u.text = some (.ok u) ∧
      detect "https://example.com/crds/a%20b.yaml?raw" = .ok (.url u)) := by
  intro r fragment u
  have hr : Reference.parse " github:crossplane/crossplane@V0.014 " = .ok r := by decide +kernel
  have hfragment : Fragment.parse "v1.2.3-rc.1+build.7" = .ok fragment := by decide +kernel
  have hs : detect " HTTPS://Example.COM:443/crds/./a b.yaml?raw" = .ok (.url u) := by
    decide +kernel
  have hu : Url.read? u.text = some (.ok u) := by decide +kernel
  refine ⟨⟨hr, ?_⟩, ⟨hfragment, ?_⟩, hs, hu, ?_⟩
  · exact texts_read_back.1 _ r hr
  · exact texts_read_back.2.1 _ fragment hfragment
  · apply texts_read_back.2.2 _ (.url u) hs
    rintro _ ⟨⟩
    exact hu

end Source
end CrdBindings
