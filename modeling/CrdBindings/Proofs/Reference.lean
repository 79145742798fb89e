import CrdBindings.Proofs.Fragment
import CrdBindings.Reference

/-!
Texts of references. What is read has names of the characters of names and a fragment that can be read,
and the text of such a reference is read as the reference.
-/

namespace CrdBindings.Reference
set_option autoImplicit false

open Text (Stops)

structure IsProvider (cs : List Char) : Prop where
  head : ∃ c rest, cs = c :: rest ∧ c.isAlpha
  chars : ∀ c ∈ cs, isProviderChar c

structure IsName (cs : List Char) : Prop where
  nonempty : cs ≠ []
  chars : ∀ c ∈ cs, isNameChar c

/-- A reference with the names and the fragment of a reference that was read. -/
structure WellFormed (r : Reference) : Prop where
  provider : IsProvider r.provider.toList
  account : IsName r.account.toList
  repo : IsName r.repo.toList
  version : ∀ fragment ∈ r.version, fragment.Readable

theorem isBlank_of_isProviderChar {c : Char} (h : isProviderChar c) : Text.isBlank c = false := by
  apply Text.isBlank_of_isPrinted
  simp only [isProviderChar, Bool.or_eq_true, beq_iff_eq] at h
  rcases h with (h | rfl) | rfl
  · exact Text.isPrinted_of_isAlphanum (Bool.or_eq_true _ _ ▸ h)
  · rfl
  · rfl

theorem isBlank_of_isNameChar {c : Char} (h : isNameChar c) : Text.isBlank c = false := by
  simp only [isNameChar, Bool.or_eq_true, beq_iff_eq] at h
  rcases h with h | rfl
  · exact isBlank_of_isProviderChar h
  · rfl

/-- The text of a version behind a repository. -/
def versionText : Option (List Char) → List Char
  | some v => '@' :: v
  | none => []

/-- Parts that the grammar allows: names of their characters, and a version without blanks. -/
structure Parts.Grammatical (p : Parts) : Prop where
  provider : IsProvider p.provider
  account : IsName p.account
  repo : IsName p.repo
  version : ∀ v ∈ p.version, v ≠ [] ∧ ∀ c ∈ v, Text.isBlank c = false

/-- The text `provider:account/repo[@version]` of parts. -/
def Parts.text (p : Parts) : List Char :=
  p.provider ++ ':' :: (p.account ++ '/' :: (p.repo ++ versionText p.version))

theorem versionText_stops (version : Option (List Char)) :
    Stops isNameChar (versionText version) := by
  cases version with
  | none => exact .nil
  | some v => exact .cons rfl _

theorem colon_stops (rest : List Char) : Stops isProviderChar (':' :: rest) := .cons rfl rest

theorem slash_stops (rest : List Char) : Stops isNameChar ('/' :: rest) := .cons rfl rest

theorem versionPart?_eq_some_iff {cs : List Char} {version : Option (List Char)} :
    versionPart? cs = some version ↔ cs = versionText version ∧
      ∀ v ∈ version, v ≠ [] ∧ ∀ c ∈ v, Text.isBlank c = false := by
  constructor
  · intro h
    unfold versionPart? at h
    split at h
    · cases h
      exact ⟨rfl, nofun⟩
    · split at h
      · rename_i v hv
        cases h
        refine ⟨rfl, ?_⟩
        rintro _ ⟨⟩
        simpa using hv
      · cases h
    · cases h
  · rintro ⟨rfl, hversion⟩
    cases version with
    | none => rfl
    | some v =>
      have hv : (!v.isEmpty && v.all fun c => !Text.isBlank c) = true := by
        simpa using hversion v rfl
      rw [versionText, versionPart?, hv]
      rfl

section Reading

variable {provider account cs : List Char} {p : Parts}

theorem Parts.Grammatical.parts?_text (h : p.Grammatical) : parts? p.text = some p := by
  obtain ⟨provider, account, repo, version⟩ := p
  obtain ⟨hprovider, haccount, hrepo, hversion⟩ := h
  have hrest := versionPart?_eq_some_iff.mpr ⟨rfl, hversion⟩
  have hafterAccount : afterAccount? provider account (repo ++ versionText version) =
      some ⟨provider, account, repo, version⟩ := by
    have hstops := versionText_stops version
    simp only [afterAccount?, Text.takeWhile_run hrepo.chars hstops,
      Text.dropWhile_run hrepo.chars hstops, hrest, List.isEmpty_eq_false_iff.mpr hrepo.nonempty,
      Bool.false_eq_true, if_false, Option.map_some]
  have hafterProvider : afterProvider? provider (account ++ '/' :: (repo ++ versionText version)) =
      some ⟨provider, account, repo, version⟩ := by
    have hstops := slash_stops (repo ++ versionText version)
    simp only [afterProvider?, Text.takeWhile_run haccount.chars hstops,
      Text.dropWhile_run haccount.chars hstops, List.isEmpty_eq_false_iff.mpr haccount.nonempty,
      hafterAccount, Bool.false_eq_true, if_false]
  have hstops := colon_stops (account ++ '/' :: (repo ++ versionText version))
  have htake := Text.takeWhile_run hprovider.chars hstops
  have hdrop := Text.dropWhile_run hprovider.chars hstops
  obtain ⟨c, rest, rfl, hc⟩ := hprovider.head
  rw [List.cons_append] at htake hdrop
  simp only [Parts.text, parts?, List.cons_append, hc, htake, hdrop, hafterProvider, Bool.not_true,
    Bool.false_eq_true, if_false]

theorem afterAccount?_eq_some (h : afterAccount? provider account cs = some p) :
    ∃ repo version, p = ⟨provider, account, repo, version⟩ ∧ cs = repo ++ versionText version ∧
      IsName repo ∧ ∀ v ∈ version, v ≠ [] ∧ ∀ c ∈ v, Text.isBlank c = false := by
  unfold afterAccount? at h
  dsimp only at h
  split at h
  · cases h
  · rename_i hrepo
    obtain ⟨version, hversion, rfl⟩ := Option.map_eq_some_iff.mp h
    obtain ⟨hrest, hversion⟩ := versionPart?_eq_some_iff.mp hversion
    exact ⟨_, version, rfl, by rw [← hrest, List.takeWhile_append_dropWhile],
      ⟨mt List.isEmpty_iff.mpr hrepo, fun c hc => List.mem_takeWhile_imp hc⟩, hversion⟩

theorem afterProvider?_eq_some (h : afterProvider? provider cs = some p) :
    ∃ account rest, cs = account ++ '/' :: rest ∧ IsName account ∧
      afterAccount? provider account rest = some p := by
  unfold afterProvider? at h
  dsimp only at h
  split at h
  · rename_i rest hrest
    split at h
    · cases h
    · rename_i haccount
      exact ⟨_, rest, by rw [← hrest, List.takeWhile_append_dropWhile],
        ⟨mt List.isEmpty_iff.mpr haccount, fun c hc => List.mem_takeWhile_imp hc⟩, h⟩
  · cases h

theorem parts?_eq_some (h : parts? cs = some p) :
    ∃ provider rest, cs = provider ++ ':' :: rest ∧ IsProvider provider ∧
      afterProvider? provider rest = some p := by
  cases cs with
  | nil => cases h
  | cons c cs =>
    rw [parts?] at h
    split at h
    · cases h
    · rename_i hc
      have halpha : c.isAlpha := by simpa using hc
      split at h
      · rename_i rest hrest
        refine ⟨_, rest, by rw [← hrest, List.takeWhile_append_dropWhile], ⟨⟨c,
          cs.takeWhile isProviderChar, ?_, halpha⟩, fun d hd => List.mem_takeWhile_imp hd⟩, h⟩
        rw [List.takeWhile_cons, isProviderChar, halpha]
        rfl
      · cases h

/-- A text is taken apart into the parts that the grammar gives it. -/
theorem parts?_eq_some_iff : parts? cs = some p ↔ p.Grammatical ∧ cs = p.text := by
  constructor
  · intro h
    obtain ⟨provider, rest, rfl, hprovider, h⟩ := parts?_eq_some h
    obtain ⟨account, rest, rfl, haccount, h⟩ := afterProvider?_eq_some h
    obtain ⟨repo, version, rfl, rfl, hrepo, hversion⟩ := afterAccount?_eq_some h
    exact ⟨⟨hprovider, haccount, hrepo, hversion⟩, rfl⟩
  · rintro ⟨hp, rfl⟩
    exact hp.parts?_text

/-- No character of a text of the grammar is blank. -/
theorem Parts.Grammatical.isTrimmed_text (h : p.Grammatical) : Text.IsTrimmed p.text := by
  have hversion : ∀ c ∈ versionText p.version, Text.isBlank c = false := by
    cases hp : p.version with
    | none => exact fun c hc => nomatch hc
    | some v =>
      rw [versionText, List.forall_mem_cons]
      exact ⟨rfl, (h.version v hp).2⟩
  apply Text.IsTrimmed.of_not_blank
  rw [Parts.text]
  simp only [List.forall_mem_append, List.forall_mem_cons]
  exact ⟨fun c hc => isBlank_of_isProviderChar (h.provider.chars c hc), rfl,
    fun c hc => isBlank_of_isNameChar (h.account.chars c hc), rfl,
    fun c hc => isBlank_of_isNameChar (h.repo.chars c hc), hversion⟩

end Reading

def parts (r : Reference) : Parts :=
  ⟨r.provider.toList, r.account.toList, r.repo.toList, r.version.map fun f => f.text.toList⟩

theorem text_toList (r : Reference) : r.text.toList = r.parts.text := by
  obtain ⟨provider, account, repo, version⟩ := r
  cases version <;> simp [text, parts, Parts.text, versionText, toString]

theorem text_ne_empty (r : Reference) : r.text ≠ "" := by
  rw [ne_eq, ← String.toList_inj, text_toList]
  simp [Parts.text]

namespace WellFormed

variable {r : Reference}

theorem grammatical (h : r.WellFormed) : r.parts.Grammatical := by
  refine ⟨h.provider, h.account, h.repo, fun v hv => ?_⟩
  obtain ⟨fragment, hfragment, rfl⟩ := Option.map_eq_some_iff.mp hv
  refine ⟨?_, fun c hc => ?_⟩
  · obtain ⟨c, cs, hcs, -⟩ := fragment.text_head
    rw [hcs]
    exact List.cons_ne_nil c cs
  · exact Text.isBlank_of_isPrinted ((h.version fragment hfragment).isPrinted_text c hc)

theorem isTrimmed_text (h : r.WellFormed) : Text.IsTrimmed r.text.toList := by
  rw [text_toList]
  exact h.grammatical.isTrimmed_text

/-- The text of a well-formed reference is read as the reference. -/
theorem parse_text (h : r.WellFormed) : parse r.text = .ok r := by
  have hparts := h.grammatical.parts?_text
  have hversion := h.version
  rw [parse, h.isTrimmed_text.trim_eq, text_toList, hparts]
  obtain ⟨provider, account, repo, version⟩ := r
  cases version with
  | none => simp [parts, ofParts]
  | some fragment => simp [parts, ofParts, (hversion fragment rfl).read_text]

end WellFormed

theorem parse_eq_ok {input : String} {r : Reference} (h : parse input = .ok r) :
    ∃ p version, parts? (Text.trim input.toList) = some p ∧ r = ofParts p version ∧
      ∀ fragment ∈ version, Fragment.Readable fragment := by
  unfold parse at h
  split at h
  · cases h
  · rename_i p hparts
    split at h
    · cases h
      exact ⟨p, none, hparts, rfl, nofun⟩
    · split at h
      · rename_i fragment hread
        cases h
        refine ⟨p, some fragment, hparts, rfl, ?_⟩
        rintro _ ⟨⟩
        exact Fragment.readable_of_read hread
      · cases h

theorem wellFormed_of_parse {input : String} {r : Reference} (h : parse input = .ok r) :
    r.WellFormed := by
  obtain ⟨p, version, hparts, rfl, hversion⟩ := parse_eq_ok h
  obtain ⟨⟨hprovider, haccount, hrepo, -⟩, -⟩ := parts?_eq_some_iff.mp hparts
  constructor
  · simpa [ofParts] using hprovider
  · simpa [ofParts] using haccount
  · simpa [ofParts] using hrepo
  · exact hversion

/-- Whether a name in front of a colon may be that of a provider. -/
def isLikelyName (name : List Char) : Bool :=
  name.length > 1 && !urlSchemes.contains (Text.lowerAscii (String.ofList name)) &&
    name.all isProviderChar

theorem isLikely_run {input : String} {name rest : List Char}
    (hinput : Text.trim input.toList = name ++ ':' :: rest) (hname : ':' ∉ name) :
    isLikely input = (isLikelyName name && !(['/', '/'].isPrefixOf rest)) := by
  have hchars : ∀ c ∈ name, c != ':' := by
    intro c hc
    rw [bne_iff_ne]
    rintro rfl
    exact hname hc
  have hstops : Stops (· != ':') (':' :: rest) := .cons rfl rest
  unfold isLikely
  dsimp only
  rw [hinput, Text.takeWhile_run hchars hstops, Text.dropWhile_run hchars hstops]
  dsimp only [isLikelyName]
  cases ['/', '/'].isPrefixOf rest <;> simp

theorem IsProvider.colon_not_mem {cs : List Char} (h : IsProvider cs) : ':' ∉ cs := by
  intro hmem
  exact absurd (h.chars ':' hmem) (by decide)

/-- What is read as a reference has the form of one just if its provider has a name for it: behind the
colon stands an account, which does not start with a slash. -/
theorem isLikely_of_parse {input : String} {r : Reference} (h : parse input = .ok r) :
    isLikely input = isLikelyName r.provider.toList := by
  obtain ⟨p, version, hparts, rfl, -⟩ := parse_eq_ok h
  obtain ⟨hp, htext⟩ := parts?_eq_some_iff.mp hparts
  obtain ⟨c, cs, hcs⟩ := List.exists_cons_of_ne_nil hp.account.nonempty
  have hc : c ≠ '/' := by
    rintro rfl
    exact absurd (hp.account.chars '/' (hcs ▸ List.mem_cons_self)) (by decide)
  have hslashes : ∀ rest, ['/', '/'].isPrefixOf (p.account ++ '/' :: rest) = false := by
    intro rest
    rw [hcs, List.cons_append, List.isPrefixOf_cons_cons, beq_false_of_ne hc.symm, Bool.false_and]
  rw [isLikely_run htext hp.provider.colon_not_mem, hslashes, Bool.not_false, Bool.and_true, ofParts,
    String.toList_ofList]

/-- The text of a reference has the form of one if the text that it was read from has it. -/
theorem isLikely_text {input : String} {r : Reference} (h : parse input = .ok r)
    (hlikely : isLikely input) : isLikely r.text := by
  rw [isLikely_of_parse h] at hlikely
  rw [isLikely_of_parse (wellFormed_of_parse h).parse_text, hlikely]

end CrdBindings.Reference
