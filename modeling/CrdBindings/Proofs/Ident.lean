import CrdBindings.Names
import CrdBindings.Proofs.Ident.Words

/-!
The characters of identifiers. A type identifier has letters, digits and marks only; a field
identifier may have other small letters too, and the mark of the raw form in front.
-/

namespace CrdBindings
set_option autoImplicit false

namespace Ident

def isWord (c : Char) : Bool := Text.isAsciiAlnum c || c == '_'

/-- The characters of field identifiers, which lower-case letters of any script belong to. -/
def isPart (c : Char) : Bool := isWord c || 127 < c.toNat

def IsType (ident : String) : Prop := ∀ c ∈ ident.toList, isWord c

/-- An identifier of a field, whose raw form has a mark in front. -/
structure IsField (ident : String) : Prop where
  parts : ∀ c ∈ (bare ident).toList, isPart c
  nonempty : bare ident ≠ ""

theorem isPart_of_isWord {c : Char} (h : isWord c) : isPart c := by
  simp only [isPart, h, Bool.true_or]

theorem isWord_of_isAsciiAlnum {c : Char} (h : Text.isAsciiAlnum c) : isWord c := by
  simp only [isWord, h, Bool.true_or]

theorem isWord_of_small {c : Char} (hlow : 97 ≤ c.toNat) (hhigh : c.toNat ≤ 122) : isWord c := by
  apply isWord_of_isAsciiAlnum
  have h : c.isLower := by
    simp only [Char.isLower, ge_iff_le, UInt32.le_iff_toNat_le, Bool.and_eq_true,
      decide_eq_true_eq]
    exact ⟨hlow, hhigh⟩
  simp only [Text.isAsciiAlnum, Char.isAlpha, h, Bool.or_true, Bool.true_or]

theorem isWord_of_capital {c : Char} (hlow : 65 ≤ c.toNat) (hhigh : c.toNat ≤ 90) : isWord c := by
  apply isWord_of_isAsciiAlnum
  have h : c.isUpper := by
    simp only [Char.isUpper, ge_iff_le, UInt32.le_iff_toNat_le, decide_eq_true_eq]
    exact ⟨hlow, hhigh⟩
  simp only [Text.isAsciiAlnum, Char.isAlpha, h, Bool.true_or]

/-- The codes from one to another are small letters, or no ASCII and characters at all. -/
def PartCodes (first last : Int) : Prop :=
  (97 ≤ first ∧ last ≤ 122) ∨ (128 ≤ first ∧ last < 0xd800) ∨
    (0xe000 ≤ first ∧ last < 0x110000)

instance (first last : Int) : Decidable (PartCodes first last) :=
  inferInstanceAs (Decidable (_ ∨ _ ∨ _))

theorem isPart_of_partCodes {first last : Int} (h : PartCodes first last) {n : Nat}
    (hlow : first ≤ n) (hhigh : n ≤ last) : isPart (Char.ofNat n) := by
  have hvalid : n.isValidChar := by
    unfold Nat.isValidChar
    rcases h with h | h | h <;> omega
  have hn : (Char.ofNat n).toNat = n := by
    rw [Char.toNat_ofNat, if_pos hvalid]
  rcases h with h | h | h
  · exact isPart_of_isWord (isWord_of_small (by omega) (by omega))
  · simp only [isPart, hn, Bool.or_eq_true, decide_eq_true_eq]
    omega
  · simp only [isPart, hn, Bool.or_eq_true, decide_eq_true_eq]
    omega

theorem loweringRuns_partCodes : ∀ entry ∈ Text.LetterCase.loweringRuns,
    PartCodes (entry.1.first + entry.2) (entry.1.last + entry.2) := by
  decide +kernel

theorem upperRuns_codes : ∀ run ∈ Text.LetterCase.upperRuns,
    (65 ≤ run.first ∧ run.last ≤ 90) ∨ 128 ≤ run.first := by
  decide +kernel

theorem lowerChar_parts {c : Char} (h : Text.isUpper c) : ∀ d ∈ Text.lowerChar c, isPart d := by
  intro d hd
  unfold Text.lowerChar at hd
  split at hd
  · have hpair : ∀ d ∈ ['i', '\u0307'], isPart d :=
      List.all_eq_true.mp (by decide)
    exact hpair d hd
  · split at hd
    · rename_i run distance hfind
      obtain rfl := List.mem_singleton.mp hd
      have hcodes : PartCodes (run.first + distance) (run.last + distance) :=
        loweringRuns_partCodes _ (List.mem_of_find?_eq_some hfind)
      have hholds := List.find?_some hfind
      simp only [Text.CodeRun.holds, Bool.and_eq_true, decide_eq_true_eq] at hholds
      have hfirst : 97 ≤ (run.first : Int) + distance := by
        rcases hcodes with h | h | h <;> omega
      exact isPart_of_partCodes hcodes (by omega) (by omega)
    · obtain rfl := List.mem_singleton.mp hd
      obtain ⟨run, hrun, hholds⟩ := (Text.inRuns_iff _ _).mp h
      simp only [Text.CodeRun.holds, Bool.and_eq_true, decide_eq_true_eq] at hholds
      rcases upperRuns_codes run hrun with hcodes | hcodes
      · exact isPart_of_isWord (isWord_of_capital (by omega) (by omega))
      · simp only [isPart, Bool.or_eq_true, decide_eq_true_eq]
        omega

theorem markWords_parts (before : Option Char) (cs : List Char) :
    ∀ d ∈ markWords before cs, isPart d := by
  induction cs generalizing before with
  | nil => exact fun _ h => absurd h List.not_mem_nil
  | cons c cs ih =>
    intro d hd
    rcases List.mem_append.mp hd with hhead | htail
    · split at hhead
      · rename_i hupper
        rcases List.mem_append.mp hhead with hmark | hlower
        · split at hmark
          · obtain rfl := List.mem_singleton.mp hmark
            rfl
          · exact absurd hmark List.not_mem_nil
        · exact lowerChar_parts hupper d hlower
      · split at hhead
        · rename_i hword
          obtain rfl := List.mem_singleton.mp hhead
          exact isPart_of_isWord hword
        · obtain rfl := List.mem_singleton.mp hhead
          rfl
    · exact ih (some c) d htail

theorem mergeMarks_subset (cs : List Char) : mergeMarks cs ⊆ cs := by
  induction cs with
  | nil => exact List.Subset.refl _
  | cons c cs ih =>
    unfold mergeMarks
    split
    · exact List.subset_cons_of_subset c ih
    · exact List.cons_subset_cons c ih

theorem trimMarks_subset (cs : List Char) : trimMarks cs ⊆ cs := by
  intro c hc
  have hfront := (List.dropWhile_suffix _).subset (List.mem_reverse.mp hc)
  exact (List.dropWhile_suffix _).subset (List.mem_reverse.mp hfront)

theorem snake_parts (name : List Char) : ∀ d ∈ snake name, isPart d := by
  intro d hd
  exact markWords_parts none name d (mergeMarks_subset _ (trimMarks_subset _ hd))

theorem isDigit_not_isAlpha {c : Char} (h : c.isDigit = true) : c.isAlpha = false := by
  have hcodes := Char.isDigit_iff_toNat.mp h
  have hdigits : '0'.toNat = 48 ∧ '9'.toNat = 57 := by decide
  have hletters : 'A'.val.toNat = 65 ∧ 'a'.val.toNat = 97 := by decide
  have hc : c.toNat = c.val.toNat := rfl
  rw [Bool.eq_false_iff]
  intro halpha
  simp only [Char.isAlpha, Char.isUpper, Char.isLower, ge_iff_le, UInt32.le_iff_toNat_le,
    Bool.or_eq_true, Bool.and_eq_true, decide_eq_true_eq] at halpha
  omega

theorem toUpper_of_isDigit {c : Char} (h : c.isDigit = true) : c.toUpper = c := by
  apply Char.toUpper_eq_of_not_isLower
  intro hlower
  have halpha := isDigit_not_isAlpha h
  rw [Char.isAlpha, hlower, Bool.or_true] at halpha
  cases halpha

theorem isWord_toUpper {c : Char} (h : Text.isAsciiAlnum c) : isWord c.toUpper := by
  rcases Bool.or_eq_true_iff.mp h with halpha | hdigit
  · apply isWord_of_isAsciiAlnum
    rw [Text.isAsciiAlnum, Char.isAlpha_toUpper_eq_isAlpha, halpha, Bool.true_or]
  · rw [toUpper_of_isDigit hdigit]
    exact isWord_of_isAsciiAlnum h

theorem pascalFrom_words (atStart : Bool) (cs : List Char) :
    ∀ d ∈ pascalFrom atStart cs, isWord d := by
  induction cs generalizing atStart with
  | nil => exact fun _ h => absurd h List.not_mem_nil
  | cons c cs ih =>
    intro d hd
    unfold pascalFrom at hd
    split at hd
    · rename_i hword
      rcases List.mem_cons.mp hd with rfl | htail
      · split
        · exact isWord_toUpper hword
        · exact isWord_of_isAsciiAlnum hword
      · exact ih false d htail
    · exact ih true d hd

theorem mem_guardDigit {guard d : Char} {cs : List Char} (h : d ∈ guardDigit guard cs) :
    d = guard ∨ d ∈ cs := by
  unfold guardDigit at h
  split at h
  · exact .inr h
  · split at h
    · exact List.mem_cons.mp h
    · exact .inr h

theorem mem_orElse {standIn : String} {d : Char} {cs : List Char} (h : d ∈ orElse standIn cs) :
    d ∈ standIn.toList ∨ d ∈ cs := by
  unfold orElse at h
  split at h
  · exact .inl h
  · exact .inr h

/-- Without the mark of the raw form nothing is dropped. -/
theorem dropRaw_of_not_mem {cs : List Char} (h : '#' ∉ cs) : dropRaw cs = cs := by
  unfold dropRaw
  split
  · simp at h
  · rfl

theorem mem_dropRaw {c : Char} {cs : List Char} (h : c ∈ dropRaw cs) : c ∈ cs := by
  induction cs using dropRaw.induct with
  | case1 cs ih =>
    rw [dropRaw] at h
    exact List.mem_cons_of_mem _ (List.mem_cons_of_mem _ (ih h))
  | case2 cs hraw =>
    rw [dropRaw.eq_2 cs hraw] at h
    exact h

/-- Only the mark of the raw form is dropped. -/
theorem mem_of_mem_dropRaw {c : Char} {cs : List Char} (h : c ∈ cs) :
    c = 'r' ∨ c = '#' ∨ c ∈ dropRaw cs := by
  induction cs using dropRaw.induct with
  | case1 cs ih =>
    rw [dropRaw]
    rcases List.mem_cons.mp h with rfl | h
    · exact .inl rfl
    · rcases List.mem_cons.mp h with rfl | h
      · exact .inr (.inl rfl)
      · exact ih h
  | case2 cs hraw =>
    rw [dropRaw.eq_2 cs hraw]
    exact .inr (.inr h)

/-- The mark of the raw form is no part of an identifier. -/
theorem hash_not_mem_of_parts {cs : List Char} (h : ∀ c ∈ cs, isPart c) : '#' ∉ cs := by
  intro hmem
  have hpart := h '#' hmem
  have hhash : isPart '#' = false := by decide
  rw [hhash] at hpart
  cases hpart

theorem bare_raw (ident : String) : bare ("r#" ++ ident) = bare ident := by
  simp only [bare, String.toList_append]
  rfl

theorem bare_of_parts {ident : String} (h : ∀ c ∈ ident.toList, isPart c) : bare ident = ident := by
  rw [bare, dropRaw_of_not_mem (hash_not_mem_of_parts h), String.ofList_toList]

theorem isField_of_parts {ident : String} (h : ∀ c ∈ ident.toList, isPart c)
    (hne : ident ≠ "") : IsField ident := by
  refine ⟨?_, ?_⟩
  · rwa [bare_of_parts h]
  · rwa [bare_of_parts h]

theorem isField_escapeKeyword {ident : String} (h : ∀ c ∈ ident.toList, isPart c)
    (hne : ident ≠ "") : IsField (escapeKeyword ident) := by
  have hident := isField_of_parts h hne
  rcases escapeKeyword_cases ident with ⟨-, -, heq⟩ | ⟨-, heq⟩ | ⟨-, heq⟩
  · rw [heq]
    apply isField_of_parts
    · intro c hc
      rw [String.toList_append] at hc
      rcases List.mem_append.mp hc with hc | hc
      · exact h c hc
      · have hmark : ∀ c ∈ "_".toList, isPart c := List.all_eq_true.mp (by decide)
        exact hmark c hc
    · intro hempty
      have hlist := congrArg String.toList hempty
      simp at hlist
  · rw [heq]
    exact ⟨by rw [bare_raw]; exact hident.parts, by rw [bare_raw]; exact hident.nonempty⟩
  · rwa [heq]

theorem guardDigit_ne_nil {guard : Char} {cs : List Char} (h : cs ≠ []) :
    guardDigit guard cs ≠ [] := by
  unfold guardDigit
  split
  · exact h
  · split <;> exact List.cons_ne_nil _ _

theorem orElse_ne_nil {standIn : String} (h : standIn.toList ≠ []) (cs : List Char) :
    orElse standIn cs ≠ [] := by
  unfold orElse
  split
  · exact h
  · rename_i hne
    exact fun he => hne (List.isEmpty_iff.mpr he)

theorem infix_guardDigit (guard : Char) (cs : List Char) : cs <:+: guardDigit guard cs := by
  unfold guardDigit
  split
  · exact List.infix_rfl
  · split
    · exact List.infix_cons List.infix_rfl
    · exact List.infix_rfl

theorem infix_escapeKeyword (ident : String) : ident.toList <:+: (escapeKeyword ident).toList := by
  rcases escapeKeyword_cases ident with ⟨-, -, heq⟩ | ⟨-, heq⟩ | ⟨-, heq⟩
  · rw [heq, String.toList_append]
    exact (List.prefix_append _ _).isInfix
  · rw [heq, String.toList_append]
    exact (List.suffix_append _ _).isInfix
  · rw [heq]

/-- The identifier of a name before the reserved words are escaped. -/
def fieldWord (name : List Char) : List Char := guardDigit '_' (orElse "field" (snake name))

theorem field_eq (name : String) :
    field name = escapeKeyword (String.ofList (fieldWord name.toList)) := rfl

theorem fieldWord_parts (name : List Char) : ∀ c ∈ fieldWord name, isPart c := by
  intro c hc
  rcases mem_guardDigit hc with rfl | hc
  · rfl
  · rcases mem_orElse hc with hc | hc
    · have hstandIn : ∀ c ∈ "field".toList, isPart c := List.all_eq_true.mp (by decide)
      exact hstandIn c hc
    · exact snake_parts _ c hc

theorem field_isField (name : String) : IsField (field name) := by
  rw [field_eq]
  apply isField_escapeKeyword
  · intro c hc
    rw [String.toList_ofList] at hc
    exact fieldWord_parts _ c hc
  · intro hempty
    have hlist := congrArg String.toList hempty
    rw [String.toList_ofList] at hlist
    have hstandIn : "field".toList ≠ [] := by decide
    exact guardDigit_ne_nil (orElse_ne_nil hstandIn _) hlist

/-- An identifier has no character but its parts and the mark of the raw form. -/
theorem IsField.not_mem {ident : String} (h : IsField ident) {c : Char} (hpart : isPart c = false)
    (hr : c ≠ 'r') (hhash : c ≠ '#') : c ∉ ident.toList := by
  intro hc
  rcases mem_of_mem_dropRaw hc with hc | hc | hbare
  · exact hr hc
  · exact hhash hc
  · have hc := h.parts c (by rwa [bare, String.toList_ofList])
    rw [hpart] at hc
    cases hc

theorem pascal_head {cs : List Char} {d : Char} (h : (pascalFrom true cs).head? = some d) :
    d.isLower = false := by
  induction cs with
  | nil => simp [pascalFrom] at h
  | cons c cs ih =>
    unfold pascalFrom at h
    split at h
    · obtain rfl := Option.some.inj h
      exact Char.isLower_toUpper_eq_false c
    · exact ih h

theorem guardDigit_head {guard d : Char} {cs : List Char}
    (h : (guardDigit guard cs).head? = some d) : d = guard ∨ cs.head? = some d := by
  unfold guardDigit at h
  split at h
  · exact .inr h
  · split at h
    · exact .inl (Option.some.inj h).symm
    · exact .inr h

/-- A type identifier has no raw form, since no reserved word with one starts with a capital. -/
theorem type_isType (name : String) : IsType (type name) := by
  have hwords : ∀ c ∈ guardDigit 'V' (orElse "Empty" (pascal name.toList)), isWord c := by
    intro c hc
    rcases mem_guardDigit hc with rfl | hc
    · rfl
    · rcases mem_orElse hc with hc | hc
      · have hstandIn : ∀ c ∈ "Empty".toList, isWord c := List.all_eq_true.mp (by decide)
        exact hstandIn c hc
      · exact pascalFrom_words true _ c hc
  have hhead : ∀ d, (guardDigit 'V' (orElse "Empty" (pascal name.toList))).head? = some d →
      d.isLower = false := by
    intro d hd
    rcases guardDigit_head hd with rfl | hd
    · rfl
    · unfold orElse at hd
      split at hd
      · obtain rfl : 'E' = d := by simpa using hd
        rfl
      · exact pascal_head hd
  rw [type]
  rcases escapeKeyword_cases (String.ofList (guardDigit 'V' (orElse "Empty" (pascal name.toList))))
    with ⟨-, -, heq⟩ | ⟨hraw, -⟩ | ⟨-, heq⟩
  · rw [heq]
    intro c hc
    rw [String.toList_append, String.toList_ofList] at hc
    rcases List.mem_append.mp hc with hc | hc
    · exact hwords c hc
    · have hmark : ∀ c ∈ "_".toList, isWord c := List.all_eq_true.mp (by decide)
      exact hmark c hc
  · obtain ⟨d, hd, hlower⟩ := hraw.head
    rw [String.toList_ofList] at hd
    exact absurd hlower (by simp [hhead d hd])
  · rw [heq]
    intro c hc
    rw [String.toList_ofList] at hc
    exact hwords c hc

theorem IsType.append {a b : String} (ha : IsType a) (hb : IsType b) : IsType (a ++ b) := by
  intro c hc
  rw [String.toList_append] at hc
  exact (List.mem_append.mp hc).elim (ha c) (hb c)

theorem toString_words (n : Nat) : IsType (toString n) := by
  intro c hc
  rw [Nat.toString_eq_ofList_toDigits, String.toList_ofList] at hc
  have hdigit := Nat.isDigit_of_mem_toDigits (by decide) (by decide) hc
  exact isWord_of_isAsciiAlnum (by simp [Text.isAsciiAlnum, hdigit])

theorem IsType.bare {ident : String} (h : IsType ident) : IsType (bare ident) := by
  intro c hc
  rw [Ident.bare, String.toList_ofList] at hc
  exact h c (mem_dropRaw hc)

end Ident

namespace Names

theorem firstFree_eq_numbered (taken : List String) (base : String) (tries n : Nat) :
    ∃ k ≤ n + tries, firstFree taken base tries n = numbered base k := by
  induction tries generalizing n with
  | zero => exact ⟨n, Nat.le_refl n, rfl⟩
  | succ tries ih =>
    unfold firstFree
    split
    · obtain ⟨k, hk, hname⟩ := ih (n + 1)
      exact ⟨k, by omega, hname⟩
    · exact ⟨n, Nat.le_add_right n _, rfl⟩

/-- A claim gives the wanted name, or its plain form with a number. -/
theorem claim_cases (names : Names) (wanted : String) :
    (names.claim wanted).1 = wanted ∨
      ∃ k, (names.claim wanted).1 = numbered (Ident.bare wanted) k := by
  show names.nameFor wanted = wanted ∨ ∃ k, names.nameFor wanted = numbered (Ident.bare wanted) k
  unfold nameFor
  split
  · obtain ⟨k, -, hname⟩ := firstFree_eq_numbered names.taken (Ident.bare wanted) _ 2
    exact .inr ⟨k, hname⟩
  · exact .inl rfl

theorem claim_isType (names : Names) {wanted : String} (h : Ident.IsType wanted) :
    Ident.IsType (names.claim wanted).1 := by
  rcases claim_cases names wanted with hname | ⟨k, hname⟩
  · rwa [hname]
  · rw [hname]
    exact h.bare.append (Ident.toString_words k)

theorem claim_isField (names : Names) {wanted : String} (h : Ident.IsField wanted) :
    Ident.IsField (names.claim wanted).1 := by
  rcases claim_cases names wanted with hname | ⟨k, hname⟩
  · rwa [hname]
  · rw [hname]
    apply Ident.isField_of_parts
    · intro c hc
      rw [numbered, String.toList_append] at hc
      rcases List.mem_append.mp hc with hc | hc
      · exact h.parts c hc
      · exact Ident.isPart_of_isWord (Ident.toString_words k c hc)
    · intro hempty
      have hlist := congrArg String.toList hempty
      rw [numbered, String.toList_append] at hlist
      have hbase := (List.append_eq_nil_iff.mp hlist).1
      exact h.nonempty (String.toList_inj.mp hbase)

/-- What every claim keeps of a wanted name, a row of claims keeps of all. -/
theorem claimAll_of_claim {p : String → Prop}
    (hclaim : ∀ (names : Names) {wanted : String}, p wanted → p (names.claim wanted).1)
    (names : Names) {wanted : List String} (h : ∀ w ∈ wanted, p w) :
    ∀ name ∈ (names.claimAll wanted).1, p name := by
  induction wanted generalizing names with
  | nil => exact fun _ hname => absurd hname List.not_mem_nil
  | cons w ws ih =>
    intro name hname
    rcases List.mem_cons.mp hname with rfl | hname
    · exact hclaim names (h w List.mem_cons_self)
    · exact ih _ (fun w hw => h w (List.mem_cons_of_mem _ hw)) name hname

end Names
end CrdBindings
