import CrdBindings.Proofs.Grammar.Version
import CrdBindings.Proofs.Reference

/-!
The grammar of references. A text is read exactly if the grammar derives what is left of it between
outer blanks. A text has only one derivation, the reference has its names and its version, and a
refusal carries the text as it was given.
-/

namespace CrdBindings.Reference
set_option autoImplicit false

/-- A reference with the names of the parts, and with the version that they spell behind a mark. -/
structure Composes (p : Parts) (r : Reference) : Prop where
  provider : r.provider.toList = p.provider
  account : r.account.toList = p.account
  repo : r.repo.toList = p.repo
  version : Option.Rel (fun v fragment => Fragment.Spells (Version.dropMark v) fragment)
    p.version r.version

theorem composes_iff {p : Parts} {r : Reference} :
    Composes p r ↔ r = ofParts p r.version ∧
      Option.Rel (fun v fragment => Fragment.Spells (Version.dropMark v) fragment)
        p.version r.version := by
  obtain ⟨provider, account, repo, version⟩ := r
  simp only [ofParts, mk.injEq, ← String.toList_inj, String.toList_ofList, and_true]
  constructor
  · rintro ⟨hprovider, haccount, hrepo, hversion⟩
    exact ⟨⟨hprovider, haccount, hrepo⟩, hversion⟩
  · rintro ⟨⟨hprovider, haccount, hrepo⟩, hversion⟩
    exact ⟨hprovider, haccount, hrepo, hversion⟩

theorem Parts.text_injective {p q : Parts} (hp : p.Grammatical) (hq : q.Grammatical)
    (h : p.text = q.text) : p = q := by
  have hparts := hp.parts?_text
  rw [h, hq.parts?_text] at hparts
  exact (Option.some.inj hparts).symm

/-- Without blanks in it a version part needs no trimming. -/
theorem read_eq_ok_iff {v : List Char} {fragment : Fragment}
    (hv : ∀ c ∈ v, Text.isBlank c = false) :
    Fragment.read v = .ok fragment ↔ Fragment.Spells (Version.dropMark v) fragment := by
  rw [Fragment.read, (Text.IsTrimmed.of_not_blank hv).trim_eq, Fragment.readBare_eq_ok_iff]

theorem parse_of_parts {input : String} {p : Parts} {r : Reference} (hp : p.Grammatical)
    (hinput : Text.trim input.toList = p.text) : parse input = .ok r ↔ Composes p r := by
  rw [parse, hinput, hp.parts?_text, composes_iff]
  dsimp only
  constructor
  · intro h
    split at h
    · rename_i hversion
      cases h
      exact ⟨rfl, hversion ▸ .none⟩
    · rename_i v hversion
      split at h
      · rename_i fragment hread
        cases h
        exact ⟨rfl, hversion ▸ .some ((read_eq_ok_iff (hp.version v hversion).2).mp hread)⟩
      · cases h
  · rintro ⟨hr, hspelled⟩
    rw [hr]
    generalize r.version = version at hspelled
    cases hversion : p.version with
    | none =>
      rw [hversion] at hspelled
      cases hspelled
      rfl
    | some v =>
      rw [hversion] at hspelled
      obtain ⟨hspells⟩ | _ := hspelled
      simp only [(read_eq_ok_iff (hp.version v hversion).2).mpr hspells]

theorem parse_error {input : String} {failure : Failure} (h : parse input = .error failure) :
    ∃ reason, failure = .malformedReference input reason := by
  unfold parse at h
  split at h
  · cases h
    exact ⟨_, rfl⟩
  · split at h
    · cases h
    · split at h
      · cases h
      · cases h
        exact ⟨_, rfl⟩

/-- Exactly the texts of the grammar are read, each as the reference that its parts compose. The parts
of a text are determined, and a refusal names the text with the blanks around it. -/
theorem parse_accepts_grammar (input : String) :
    (∀ r, parse input = .ok r ↔
      ∃ p : Parts, p.Grammatical ∧ Text.trim input.toList = p.text ∧ Composes p r) ∧
    (∀ p q : Parts, p.Grammatical → q.Grammatical → Text.trim input.toList = p.text →
      Text.trim input.toList = q.text → p = q) ∧
    (∀ failure, parse input = .error failure →
      ∃ reason, failure = .malformedReference input reason) := by
  refine ⟨fun r => ⟨?_, ?_⟩, ?_, fun failure => parse_error⟩
  · intro h
    obtain ⟨p, version, hparts, -⟩ := parse_eq_ok h
    obtain ⟨hp, hinput⟩ := parts?_eq_some_iff.mp hparts
    exact ⟨p, hp, hinput, (parse_of_parts hp hinput).mp h⟩
  · rintro ⟨p, hp, hinput, hcomposes⟩
    exact (parse_of_parts hp hinput).mpr hcomposes
  · intro p q hp hq hinput hinput'
    exact Parts.text_injective hp hq (hinput.symm.trans hinput')

end CrdBindings.Reference
