import CrdBindings.Proofs.Ident.Characters
import CrdBindings.Proofs.Ident.Reserved

/-!
Which names have legal identifiers. The identifier of a field has the letters and digits of its name
in lower case, with underscores between them; it is no reserved word and does not start with a digit. It
is legal just if no letter of the name is a capital in a circle or a square, since such a capital is
lowered like a letter and stays.
-/

namespace CrdBindings
set_option autoImplicit false

namespace Ident

/-- The characters of an identifier. The first one starts identifiers or is an underscore, all others
continue identifiers, and an underscore does not stand alone. -/
structure IsSpelled (cs : List Char) : Prop where
  head : ∃ c, cs.head? = some c ∧ (isStart c = true ∨ c = '_')
  tail : ∀ c ∈ cs.tail, isContinue c = true
  named : cs ≠ ['_']

/-- An identifier of the output language: a word that is not reserved, or the raw form of a reserved
word that has one. -/
inductive IsLegal : String → Prop where
  | plain {word : String} : IsSpelled word.toList → ¬ IsReserved word → IsLegal word
  | raw {word : String} : IsSpelled word.toList → HasRawForm word → IsLegal ("r#" ++ word)

theorem IsSpelled.characters {cs : List Char} (h : IsSpelled cs) :
    ∀ c ∈ cs, isContinue c = true := by
  obtain ⟨d, hhead, hd⟩ := h.head
  intro c hc
  rw [← List.cons_head?_tail hhead] at hc
  rcases List.mem_cons.mp hc with rfl | hc
  · rcases hd with hstart | rfl
    · exact isContinue_of_isStart hstart
    · exact isContinue_underscore
  · exact h.tail c hc

theorem IsLegal.characters {ident : String} (h : IsLegal ident) :
    ∀ c ∈ ident.toList, c = '#' ∨ isContinue c = true := by
  intro c hc
  cases h with
  | plain hspelled => exact .inr (hspelled.characters c hc)
  | raw hspelled =>
    rw [String.toList_append] at hc
    rcases List.mem_append.mp hc with hmark | hword
    · rcases List.mem_pair.mp hmark with rfl | rfl
      · exact .inr (isContinue_of_isAsciiAlnum (by decide))
      · exact .inl rfl
    · exact .inr (hspelled.characters c hword)

theorem IsSpelled.append {cs ds : List Char} (h : IsSpelled cs)
    (hds : ∀ d ∈ ds, isContinue d = true) : IsSpelled (cs ++ ds) := by
  cases cs with
  | nil =>
    obtain ⟨c, hhead, -⟩ := h.head
    cases hhead
  | cons c rest =>
    refine ⟨h.head, ?_, ?_⟩
    · intro d hd
      rcases List.mem_append.mp hd with hd | hd
      · exact h.tail d hd
      · exact hds d hd
    · intro halone
      obtain ⟨hc, hnil⟩ := List.cons.inj halone
      obtain ⟨hrest, -⟩ := List.append_eq_nil_iff.mp hnil
      exact h.named (by rw [hc, hrest])

theorem IsSpelled.numbered {base : String} (h : IsSpelled base.toList) (n : Nat) :
    IsSpelled (Names.numbered base n).toList := by
  rw [Names.numbered, String.toList_append]
  apply h.append
  intro d hd
  rw [Nat.toString_eq_ofList_toDigits, String.toList_ofList] at hd
  exact isContinue_of_isDigit (Nat.isDigit_of_mem_toDigits (by decide) (by decide) hd)

/-- A legal identifier is spelled as one also without the mark of its raw form. -/
theorem IsLegal.bare {ident : String} (h : IsLegal ident) : IsSpelled (bare ident).toList := by
  have hplain : ∀ {word : String}, IsSpelled word.toList → Ident.bare word = word := by
    intro word hword
    have hhash : '#' ∉ word.toList := by
      intro hmem
      have hc := hword.characters '#' hmem
      rw [isContinue_hash] at hc
      cases hc
    rw [Ident.bare, dropRaw_of_not_mem hhash, String.ofList_toList]
  cases h with
  | plain hspelled => rwa [hplain hspelled]
  | raw hspelled => rwa [bare_raw, hplain hspelled]

theorem isLegal_escapeKeyword {word : String} (h : IsSpelled word.toList) :
    IsLegal (escapeKeyword word) := by
  rcases escapeKeyword_cases word with ⟨-, -, heq⟩ | ⟨hraw, heq⟩ | ⟨hfree, heq⟩
  · rw [heq]
    refine .plain ?_ (append_underscore_free word)
    rw [String.toList_append]
    apply h.append
    intro d hd
    obtain rfl := List.mem_singleton.mp hd
    exact isContinue_underscore
  · rw [heq]
    exact .raw h hraw
  · rw [heq]
    exact .plain h hfree

/-- What a character of a name leaves in the identifier, apart from underscores. -/
def spelled (c : Char) : List Char :=
  if Text.isUpper c then Text.lowerChar c
  else if Text.isAsciiAlnum c then [c]
  else []

/-- A character that is no enclosed capital leaves nothing, or a letter or digit and then at most the
dot of a capital I. -/
theorem spelled_cases {c : Char} (h : isEnclosed c = false) :
    spelled c = [] ∨ ∃ d ds, spelled c = d :: ds ∧ (isStart d = true ∨ d.isDigit = true) ∧
      ∀ e ∈ ds, e = '\u0307' := by
  unfold spelled
  split
  · rename_i hupper
    obtain ⟨d, ds, hlower, hstart, hdot⟩ := lowerChar_start hupper h
    exact .inr ⟨d, ds, hlower, .inl hstart, hdot⟩
  · split
    · rename_i hword
      exact .inr ⟨c, [], rfl, isStart_or_isDigit hword, fun e he => absurd he List.not_mem_nil⟩
    · exact .inl rfl

theorem spelled_continue {c : Char} (h : isEnclosed c = false) :
    ∀ d ∈ spelled c, isContinue d = true := by
  intro d hd
  rcases spelled_cases h with hnil | ⟨e, es, hcons, hhead, hdot⟩
  · rw [hnil] at hd
    cases hd
  · rw [hcons] at hd
    rcases List.mem_cons.mp hd with rfl | hd
    · exact hhead.elim isContinue_of_isStart isContinue_of_isDigit
    · rw [hdot d hd]
      exact isContinue_dotAbove

theorem spelled_enclosed {c : Char} (h : isEnclosed c = true) : spelled c = Text.lowerChar c :=
  if_pos (isUpper_of_isEnclosed h)

theorem underscore_not_mem_spelled (c : Char) : '_' ∉ spelled c := by
  intro hmem
  cases h : isEnclosed c with
  | true =>
    obtain ⟨d, hlower, hd⟩ := lowerChar_enclosed h
    rw [spelled_enclosed h, hlower] at hmem
    rw [← List.mem_singleton.mp hmem, isContinue_underscore] at hd
    cases hd
  | false =>
    rcases spelled_cases h with hnil | ⟨d, ds, hcons, hhead, hdot⟩
    · rw [hnil] at hmem
      cases hmem
    · rw [hcons] at hmem
      rcases List.mem_cons.mp hmem with rfl | hmem
      · rw [isStart_underscore] at hhead
        exact absurd hhead (by decide)
      · exact absurd (hdot '_' hmem) (by decide)

theorem mem_spelled_enclosed {c d : Char} (h : isEnclosed d = true) :
    d ∈ spelled c ↔ c = d ∧ Text.lowerChar d = [d] := by
  unfold spelled
  split
  · exact mem_lowerChar_enclosed h
  · rename_i hupper
    constructor
    · intro hd
      split at hd
      · obtain rfl := List.mem_singleton.mp hd
        exact absurd (isUpper_of_isEnclosed h) hupper
      · cases hd
    · rintro ⟨rfl, -⟩
      exact absurd (isUpper_of_isEnclosed h) hupper

/-- The characters of a text that are no underscores. -/
def letters (cs : List Char) : List Char := cs.filter (· != '_')

theorem mem_letters {d : Char} {cs : List Char} : d ∈ letters cs ↔ d ∈ cs ∧ d ≠ '_' := by
  simp only [letters, List.mem_filter, bne_iff_ne]

theorem letters_spelled (c : Char) : letters (spelled c) = spelled c := by
  apply List.filter_eq_self.mpr
  intro d hd
  rw [bne_iff_ne]
  rintro rfl
  exact underscore_not_mem_spelled c hd

theorem letters_append (xs ys : List Char) : letters (xs ++ ys) = letters xs ++ letters ys :=
  List.filter_append xs ys

theorem letters_mark (cs : List Char) : letters ('_' :: cs) = letters cs := rfl

theorem letters_markWords (before : Option Char) (cs : List Char) :
    letters (markWords before cs) = cs.flatMap spelled := by
  induction cs generalizing before with
  | nil => rfl
  | cons c cs ih =>
    have hletters := letters_spelled c
    rw [markWords, letters_append, ih, List.flatMap_cons]
    congr 1
    -- Apart from underscores, in front of a word or in its place, only what the character leaves is written.
    by_cases hupper : Text.isUpper c = true
    · rw [spelled, if_pos hupper] at hletters ⊢
      rw [if_pos hupper, letters_append, hletters]
      split <;> rfl
    · rw [spelled, if_neg hupper] at hletters ⊢
      rw [if_neg hupper]
      by_cases hword : Text.isAsciiAlnum c = true
      · rw [if_pos hword] at hletters ⊢
        rw [hword, Bool.true_or, if_pos rfl, hletters]
      · rw [if_neg hword]
        split
        · rename_i hmark
          simp only [hword, Bool.false_or, beq_iff_eq] at hmark
          rw [hmark, letters_mark]
          rfl
        · rfl

theorem letters_mergeMarks (cs : List Char) : letters (mergeMarks cs) = letters cs := by
  induction cs with
  | nil => rfl
  | cons c cs ih =>
    unfold mergeMarks
    split
    · rename_i hmarks
      rw [ih, hmarks.1, letters_mark]
    · rw [← List.singleton_append, letters_append, ih, ← letters_append, List.singleton_append]

theorem letters_dropWhile (cs : List Char) : letters (cs.dropWhile (· == '_')) = letters cs := by
  induction cs with
  | nil => rfl
  | cons c cs ih =>
    rw [List.dropWhile_cons]
    split
    · rename_i hmark
      rw [ih, beq_iff_eq.mp hmark, letters_mark]
    · rfl

theorem letters_reverse (cs : List Char) : letters cs.reverse = (letters cs).reverse :=
  List.filter_reverse

theorem letters_trimMarks (cs : List Char) : letters (trimMarks cs) = letters cs := by
  rw [trimMarks, letters_reverse, letters_dropWhile, letters_reverse, List.reverse_reverse,
    letters_dropWhile]

/-- The words of a name consist of what its characters leave, in their order. -/
theorem letters_snake (name : List Char) : letters (snake name) = name.flatMap spelled := by
  rw [snake, letters_trimMarks, letters_mergeMarks, letters_markWords]

theorem mem_snake {name : List Char} {d : Char} (h : d ≠ '_') :
    d ∈ snake name ↔ ∃ c ∈ name, d ∈ spelled c := by
  rw [← List.mem_flatMap, ← letters_snake, mem_letters]
  exact ⟨fun hd => ⟨hd, h⟩, fun hd => hd.1⟩

theorem trimMarks_head (cs : List Char) : (trimMarks cs).head? ≠ some '_' := by
  intro h
  have hprefix : trimMarks cs <+: cs.dropWhile (· == '_') := List.rdropWhile_prefix _ _
  have hhead : (cs.dropWhile (· == '_')).head? = some '_' := by
    obtain ⟨rest, hrest⟩ := hprefix
    rw [← hrest, List.head?_append, h]
    rfl
  have hnot := List.head?_dropWhile_not (· == '_') cs
  rw [hhead] at hnot
  cases hnot

/-- The words of a name start with the first thing that one of its characters leaves. -/
theorem snake_head {name : List Char} {d : Char} (h : (snake name).head? = some d) :
    (name.flatMap spelled).head? = some d := by
  have hd : d ≠ '_' := by
    rintro rfl
    exact trimMarks_head _ h
  rw [← letters_snake, ← List.cons_head?_tail h, letters, List.filter_cons, bne_iff_ne.mpr hd]
  rfl

theorem snake_start {name : List Char} (hname : ∀ c ∈ name, isEnclosed c = false) {d : Char}
    (h : (snake name).head? = some d) : isStart d = true ∨ d.isDigit = true := by
  have hfirst := snake_head h
  rw [List.head?_flatMap] at hfirst
  obtain ⟨c, hc, hleft⟩ := List.exists_of_findSome?_eq_some hfirst
  rcases spelled_cases (hname c hc) with hnil | ⟨e, es, hcons, hhead, -⟩
  · rw [hnil] at hleft
    cases hleft
  · rw [hcons] at hleft
    obtain rfl := Option.some.inj hleft
    exact hhead

theorem snake_continue {name : List Char} (hname : ∀ c ∈ name, isEnclosed c = false) :
    ∀ d ∈ snake name, isContinue d = true := by
  intro d hd
  by_cases hmark : d = '_'
  · rw [hmark]
    exact isContinue_underscore
  · obtain ⟨c, hc, hleft⟩ := (mem_snake hmark).mp hd
    exact spelled_continue (hname c hc) d hleft

theorem filter_spelled (c : Char) :
    (spelled c).filter (fun d => !isContinue d) =
      if isEnclosed c then Text.lowerChar c else [] := by
  cases h : isEnclosed c with
  | true =>
    obtain ⟨d, hlower, hd⟩ := lowerChar_enclosed h
    rw [spelled_enclosed h, hlower, List.filter_cons, hd]
    rfl
  | false =>
    apply List.filter_eq_nil_iff.mpr
    intro d hd
    rw [spelled_continue h d hd]
    exact Bool.false_ne_true

theorem filter_flatMap_spelled (name : List Char) :
    (name.flatMap spelled).filter (fun d => !isContinue d) =
      (name.filter isEnclosed).flatMap Text.lowerChar := by
  induction name with
  | nil => rfl
  | cons c cs ih =>
    rw [List.flatMap_cons, List.filter_append, ih, filter_spelled, List.filter_cons]
    split
    · rw [List.flatMap_cons]
    · rfl

/-- The characters of a name's words that no identifier has are the lower case of the enclosed capitals
in the name. -/
theorem snake_not_continue (name : List Char) :
    (snake name).filter (fun d => !isContinue d) =
      (name.filter isEnclosed).flatMap Text.lowerChar := by
  rw [← filter_flatMap_spelled, ← letters_snake, letters, List.filter_filter]
  apply List.filter_congr
  intro d hd
  by_cases hmark : d = '_'
  · rw [hmark, isContinue_underscore]
    rfl
  · rw [bne_iff_ne.mpr hmark, Bool.and_true]

/-- The word of a name is a stand-in for no words at all, its words behind an underscore where they
start with a digit, or its words. -/
theorem fieldWord_cases (name : List Char) :
    (snake name = [] ∧ fieldWord name = "field".toList) ∨
    ∃ d ds, snake name = d :: ds ∧
      fieldWord name = if d.isDigit then '_' :: d :: ds else d :: ds := by
  unfold fieldWord
  cases hsnake : snake name with
  | nil => exact .inl ⟨rfl, rfl⟩
  | cons d ds => exact .inr ⟨d, ds, rfl, rfl⟩

theorem snake_subset_fieldWord (name : List Char) : snake name ⊆ fieldWord name := by
  intro c hc
  rcases fieldWord_cases name with ⟨hsnake, -⟩ | ⟨d, ds, hsnake, hword⟩
  · rw [hsnake] at hc
    cases hc
  · rw [hsnake] at hc
    rw [hword]
    split
    · exact List.mem_cons_of_mem _ hc
    · exact hc

theorem fieldWord_spelled {name : List Char} (hname : ∀ c ∈ name, isEnclosed c = false) :
    IsSpelled (fieldWord name) := by
  rcases fieldWord_cases name with ⟨-, hword⟩ | ⟨d, ds, hsnake, hword⟩
  · rw [hword]
    have hstart : isStart 'f' = true := (isStart_or_isDigit (by decide)).resolve_right (by decide)
    have hletters : ∀ c ∈ "field".toList.tail, Text.isAsciiAlnum c = true :=
      List.all_eq_true.mp (by decide)
    exact ⟨⟨'f', rfl, .inl hstart⟩, fun c hc => isContinue_of_isAsciiAlnum (hletters c hc),
      by decide⟩
  · have hstart : isStart d = true ∨ d.isDigit = true := snake_start hname (by rw [hsnake]; rfl)
    have hcontinue := snake_continue hname
    rw [hsnake] at hcontinue
    rw [hword]
    split
    · exact ⟨⟨'_', rfl, .inr rfl⟩, hcontinue, by simp⟩
    · rename_i hdigit
      have hd : isStart d = true := hstart.resolve_right hdigit
      refine ⟨⟨d, rfl, .inl hd⟩, fun c hc => hcontinue c (List.mem_cons_of_mem d hc), ?_⟩
      intro halone
      rw [(List.cons.inj halone).1, isStart_underscore] at hd
      cases hd

/-- A name with an enclosed capital has its lower case in the identifier. -/
theorem not_isEnclosed_of_field {name : String}
    (h : ∀ d ∈ (field name).toList, d = '#' ∨ isContinue d = true) :
    ∀ c ∈ name.toList, isEnclosed c = false := by
  intro c hc
  rw [Bool.eq_false_iff]
  intro henclosed
  obtain ⟨d, hlower, hd⟩ := lowerChar_enclosed henclosed
  have hmark : d ≠ '_' := by
    rintro rfl
    rw [isContinue_underscore] at hd
    cases hd
  have hsnake : d ∈ snake name.toList := by
    refine (mem_snake hmark).mpr ⟨c, hc, ?_⟩
    rw [spelled_enclosed henclosed, hlower]
    exact List.mem_singleton_self d
  have hword := snake_subset_fieldWord _ hsnake
  have hident : d ∈ (field name).toList := by
    rw [field_eq]
    apply (infix_escapeKeyword _).subset
    rwa [String.toList_ofList]
  rcases h d hident with rfl | hcontinue
  · exact absurd hword (hash_not_mem_of_parts (fieldWord_parts _))
  · rw [hcontinue] at hd
    cases hd

/-- A field has a legal identifier just if its name has no enclosed capital. -/
theorem field_isLegal_iff (name : String) :
    IsLegal (field name) ↔ ∀ c ∈ name.toList, isEnclosed c = false := by
  constructor
  · exact fun hlegal => not_isEnclosed_of_field hlegal.characters
  · intro hname
    rw [field_eq]
    apply isLegal_escapeKeyword
    rw [String.toList_ofList]
    exact fieldWord_spelled hname

/-- An enclosed capital is in the lower case of a text just if the text has it and it has no lower case
of its own. -/
theorem mem_lowerAfter_enclosed {before cs : List Char} {d : Char} (h : isEnclosed d = true) :
    d ∈ Text.lowerAfter before cs ↔ d ∈ cs ∧ Text.lowerChar d = [d] := by
  induction cs generalizing before with
  | nil => simp [Text.lowerAfter]
  | cons c cs ih =>
    have hhead : d ∈ (if c = 'Σ' then
        if Text.nextIsCased before && !Text.nextIsCased cs then ['ς'] else ['σ']
        else Text.lowerChar c) ↔ c = d ∧ Text.lowerChar d = [d] := by
      split
      · rename_i hsigma
        constructor
        · intro hd
          have hsmall : d = 'ς' ∨ d = 'σ' := by
            split at hd
            · exact .inl (List.mem_singleton.mp hd)
            · exact .inr (List.mem_singleton.mp hd)
          rcases hsmall with rfl | rfl
          · rw [not_isEnclosed_of_lt (by decide)] at h
            cases h
          · rw [not_isEnclosed_of_lt (by decide)] at h
            cases h
        · rintro ⟨rfl, -⟩
          rw [hsigma, not_isEnclosed_of_lt (by decide)] at h
          cases h
      · exact mem_lowerChar_enclosed h
    rw [Text.lowerAfter, List.mem_append, hhead, ih, List.mem_cons, ← or_and_right]
    rw [eq_comm (a := c)]

theorem mem_lower_enclosed {text : String} {d : Char} (h : isEnclosed d = true) :
    d ∈ (Text.lower text).toList ↔ d ∈ text.toList ∧ Text.lowerChar d = [d] := by
  rw [Text.lower, String.toList_ofList]
  exact mem_lowerAfter_enclosed h

/-- An enclosed capital is in the words of a name just if the name has it and it has no lower case of
its own. -/
theorem mem_snake_enclosed {name : List Char} {d : Char} (h : isEnclosed d = true) :
    d ∈ snake name ↔ d ∈ name ∧ Text.lowerChar d = [d] := by
  have hmark : d ≠ '_' := by
    rintro rfl
    rw [not_isEnclosed_of_lt (by decide)] at h
    cases h
  rw [mem_snake hmark]
  constructor
  · rintro ⟨c, hc, hleft⟩
    obtain ⟨rfl, hlower⟩ := (mem_spelled_enclosed h).mp hleft
    exact ⟨hc, hlower⟩
  · rintro ⟨hd, hlower⟩
    exact ⟨d, hd, (mem_spelled_enclosed h).mpr ⟨rfl, hlower⟩⟩

theorem mem_lower_join_enclosed {group version : String} {d : Char} (h : isEnclosed d = true) :
    d ∈ (Text.lower group ++ "." ++ Text.lower version).toList ↔
      d ∈ group.toList ++ version.toList ∧ Text.lowerChar d = [d] := by
  have hdot : d ∉ ".".toList := by
    intro hdot
    rw [List.mem_singleton.mp hdot, not_isEnclosed_of_lt (by decide)] at h
    cases h
  rw [String.toList_append, String.toList_append, List.mem_append, List.mem_append, List.mem_append,
    mem_lower_enclosed h, mem_lower_enclosed h, or_iff_left hdot, ← or_and_right]

/-- A module has a legal identifier just if its group and version have no enclosed capital without a
lower case. -/
theorem module_isLegal_iff (group version : String) :
    IsLegal (module group version) ↔
      ∀ c ∈ group.toList ++ version.toList, isEnclosed c = true → Text.lowerChar c ≠ [c] := by
  rw [module, field_isLegal_iff, String.toList_ofList]
  constructor
  · intro hsnake c hc henclosed hlower
    have hjoin := (mem_lower_join_enclosed henclosed).mpr ⟨hc, hlower⟩
    have hnot := hsnake c ((mem_snake_enclosed henclosed).mpr ⟨hjoin, hlower⟩)
    rw [henclosed] at hnot
    cases hnot
  · intro hnames d hd
    rw [Bool.eq_false_iff]
    intro henclosed
    obtain ⟨hjoin, hlower⟩ := (mem_snake_enclosed henclosed).mp hd
    exact hnames d ((mem_lower_join_enclosed henclosed).mp hjoin).1 henclosed hlower

theorem hash_mem_raw (word : String) : '#' ∈ ("r#" ++ word).toList := by
  rw [String.toList_append]
  exact List.mem_append_left _ (by decide)

/-- No identifier of a field is a reserved word. -/
theorem field_free (name : String) : ¬ IsReserved (field name) := by
  rw [field_eq]
  rcases escapeKeyword_cases (String.ofList (fieldWord name.toList))
    with ⟨-, -, heq⟩ | ⟨-, heq⟩ | ⟨hfree, heq⟩
  · rw [heq]
    exact append_underscore_free _
  · rw [heq]
    exact not_isReserved (hash_mem_raw _) (by decide)
  · rwa [heq]

/-- A reserved word is the word of a name just if the words of the name are that. -/
theorem fieldWord_eq_reserved {name : List Char} {word : String} (h : IsReserved word) :
    fieldWord name = word.toList ↔ snake name = word.toList := by
  rcases fieldWord_cases name with ⟨hsnake, hword⟩ | ⟨d, ds, hsnake, hword⟩
  · rw [hsnake, hword]
    constructor
    · intro heq
      rw [String.toList_inj] at heq
      subst heq
      simp [IsReserved, strictWords, futureWords] at h
    · intro hempty
      obtain rfl : "" = word := String.toList_inj.mp hempty
      simp [IsReserved, strictWords, futureWords] at h
  · rw [hsnake, hword]
    split
    · rename_i hdigit
      constructor
      · intro heq
        have hmark : '_' ∈ word.toList := heq ▸ List.mem_cons_self
        exact absurd h (not_isReserved hmark (by decide))
      · intro heq
        have hd : d ∈ word.toList := heq ▸ List.mem_cons_self
        exact absurd h (not_isReserved hd (isDigit_not_isAlpha hdigit))
    · rfl

/-- The identifier of a field is raw just if the words of its name are a reserved word with a raw
form. -/
theorem field_raw_iff (name word : String) :
    field name = "r#" ++ word ↔ snake name.toList = word.toList ∧ HasRawForm word := by
  have hhash : '#' ∉ fieldWord name.toList := hash_not_mem_of_parts (fieldWord_parts _)
  have hmark := hash_mem_raw word
  rw [field_eq]
  constructor
  · intro h
    rcases escapeKeyword_cases (String.ofList (fieldWord name.toList))
      with ⟨-, -, heq⟩ | ⟨hraw, heq⟩ | ⟨-, heq⟩
    · rw [← h, heq, String.toList_append, String.toList_ofList] at hmark
      rcases List.mem_append.mp hmark with hmem | hmem
      · exact absurd hmem hhash
      · exact absurd hmem (by decide)
    · rw [heq, ← String.toList_inj, String.toList_append, String.toList_append,
        List.append_right_inj, String.toList_inj] at h
      subst h
      refine ⟨?_, hraw⟩
      apply (fieldWord_eq_reserved hraw.reserved).mp
      rw [String.toList_ofList]
    · rw [← h, heq, String.toList_ofList] at hmark
      exact absurd hmark hhash
  · rintro ⟨hsnake, hraw⟩
    have hword : String.ofList (fieldWord name.toList) = word := by
      rw [(fieldWord_eq_reserved hraw.reserved).mpr hsnake, String.ofList_toList]
    rw [hword]
    exact escapeKeyword_of_hasRawForm hraw

end Ident

namespace Names

theorem claim_isLegal (names : Names) {wanted : String} (h : Ident.IsLegal wanted) :
    Ident.IsLegal (names.claim wanted).1 := by
  rcases claim_cases names wanted with hname | ⟨n, hname⟩
  · rwa [hname]
  · rw [hname]
    exact .plain (h.bare.numbered n) (Ident.numbered_free _ n)

/-- A claim for a field gives a legal identifier just if the name of the field has one. -/
theorem claim_field_isLegal_iff (names : Names) (name : String) :
    Ident.IsLegal (names.claim (Ident.field name)).1 ↔
      ∀ c ∈ name.toList, Ident.isEnclosed c = false := by
  constructor
  · intro hlegal
    apply Ident.not_isEnclosed_of_field
    intro d hd
    rcases claim_cases names (Ident.field name) with hname | ⟨n, hname⟩
    · rw [hname] at hlegal
      exact hlegal.characters d hd
    · -- The number comes behind the plain form, which has lost the mark of the raw form only.
      rcases Ident.mem_of_mem_dropRaw hd with rfl | rfl | hbare
      · exact .inr (Ident.isContinue_of_isAsciiAlnum (by decide))
      · exact .inl rfl
      · apply hlegal.characters d
        rw [hname, numbered, String.toList_append, Ident.bare, String.toList_ofList]
        exact List.mem_append_left _ hbare
  · intro hname
    exact claim_isLegal names ((Ident.field_isLegal_iff name).mpr hname)

end Names

namespace Ident

/-- A field has a legal identifier, whatever names are taken, just if its name has no capital in a circle
or a square, and a module just if its group and version have none but those with a lower case. No
identifier of a field is a reserved word, and it has the mark of the raw form just where its words are one
that has such a form. Of the words of a name, an identifier may have all characters but the lower case of
such capitals. -/
theorem identifiers_legal_iff (name group version : String) :
    ((IsLegal (field name) ↔ ∀ c ∈ name.toList, isEnclosed c = false) ∧
      (∀ names : Names, IsLegal (names.claim (field name)).1 ↔
        ∀ c ∈ name.toList, isEnclosed c = false) ∧
      ¬ IsReserved (field name) ∧
      ∀ word : String, field name = "r#" ++ word ↔
        snake name.toList = word.toList ∧ HasRawForm word) ∧
    (IsLegal (module group version) ↔
      ∀ c ∈ group.toList ++ version.toList, isEnclosed c = true → Text.lowerChar c ≠ [c]) ∧
    (snake name.toList).filter (fun c => !isContinue c) =
      (name.toList.filter isEnclosed).flatMap Text.lowerChar :=
  ⟨⟨field_isLegal_iff name, fun names => Names.claim_field_isLegal_iff names name,
      field_free name, field_raw_iff name⟩,
    module_isLegal_iff group version, snake_not_continue name.toList⟩

/-- A capital in a circle stays in the identifier of a field, in lower case, and one in a square stays in
that of a module. -/
theorem enclosed_capitals_stay :
    field "Ⓐ" = "ⓐ" ∧ ¬ IsLegal (field "Ⓐ") ∧
    module "🄰" "v1" = "🄰_v1" ∧ ¬ IsLegal (module "🄰" "v1") := by
  have hvalues : field "Ⓐ" = "ⓐ" ∧ module "🄰" "v1" = "🄰_v1" ∧ isEnclosed 'Ⓐ' = true ∧
      isEnclosed '🄰' = true ∧ Text.lowerChar '🄰' = ['🄰'] := by decide +kernel
  obtain ⟨hfield, hmodule, hcircle, hsquare, hlower⟩ := hvalues
  refine ⟨hfield, ?_, hmodule, ?_⟩
  · rw [field_isLegal_iff]
    intro hnone
    rw [hnone 'Ⓐ' (by decide)] at hcircle
    cases hcircle
  · rw [module_isLegal_iff]
    intro hnone
    exact hnone '🄰' (by decide) hsquare hlower

end Ident
end CrdBindings
