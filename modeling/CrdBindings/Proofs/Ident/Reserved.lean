import CrdBindings.Proofs.Ident

/-!
Identifiers against the reserved words. A type name has a capital in front and is no reserved word;
an escaped identifier is known from its plain form, so that plain forms are as different as the
identifiers.
-/

namespace CrdBindings
set_option autoImplicit false

namespace Ident

/-- The name of a type: a capital, then letters, digits and underscores, and no reserved word. -/
structure IsTypeName (ident : String) : Prop where
  capital : ∃ c cs, ident.toList = c :: cs ∧ c.isUpper
  word : IsType ident
  free : ¬ IsReserved ident

/-- An identifier that the keyword escape gives for its plain form. -/
def Escaped (ident : String) : Prop := escapeKeyword (bare ident) = ident

theorem append_underscore_free (ident : String) : ¬ IsReserved (ident ++ "_") := by
  have hmark : '_' ∈ (ident ++ "_").toList := by
    rw [String.toList_append]
    exact List.mem_append_right _ List.mem_cons_self
  exact not_isReserved hmark (by decide)

theorem exists_digit_numbered (base : String) (n : Nat) :
    ∃ c ∈ (Names.numbered base n).toList, c.isDigit := by
  have hne : Nat.toDigits 10 n ≠ [] := Nat.toDigits_ne_nil
  obtain ⟨c, hc⟩ := List.exists_mem_of_ne_nil _ hne
  refine ⟨c, ?_, Nat.isDigit_of_mem_toDigits (by decide) (by decide) hc⟩
  rw [Names.numbered, String.toList_append, Nat.toString_eq_ofList_toDigits, String.toList_ofList]
  exact List.mem_append_right _ hc

theorem numbered_free (base : String) (n : Nat) : ¬ IsReserved (Names.numbered base n) := by
  obtain ⟨c, hc, hdigit⟩ := exists_digit_numbered base n
  exact not_isReserved hc (isDigit_not_isAlpha hdigit)

theorem escaped_of_free {ident : String} (hbare : bare ident = ident) (h : ¬ IsReserved ident) :
    Escaped ident := by
  rw [Escaped, hbare, escapeKeyword_of_free h]

theorem escapeKeyword_escaped {ident : String} (h : ∀ c ∈ ident.toList, isPart c) :
    Escaped (escapeKeyword ident) := by
  have hbare := bare_of_parts h
  rcases escapeKeyword_cases ident with ⟨-, -, heq⟩ | ⟨-, heq⟩ | ⟨hfree, heq⟩
  · rw [heq]
    apply escaped_of_free
    · apply bare_of_parts
      intro c hc
      rw [String.toList_append] at hc
      rcases List.mem_append.mp hc with hc | hc
      · exact h c hc
      · obtain rfl := List.mem_singleton.mp hc
        rfl
    · exact append_underscore_free ident
  · rw [Escaped, heq, bare_raw, hbare, heq]
  · rw [heq]
    exact escaped_of_free hbare hfree

theorem field_escaped (name : String) : Escaped (field name) := by
  rw [field_eq]
  apply escapeKeyword_escaped
  intro c hc
  rw [String.toList_ofList] at hc
  exact fieldWord_parts _ c hc

theorem Escaped.bare_nodup {idents : List String} (hescaped : ∀ ident ∈ idents, Escaped ident)
    (h : idents.Nodup) : (idents.map bare).Nodup := by
  refine List.Nodup.map_on ?_ h
  intro a ha b hb hbare
  rw [← hescaped a ha, ← hescaped b hb, hbare]

theorem isUpper_toUpper {c : Char} (h : Text.isAsciiAlnum c) (hdigit : c.toUpper.isDigit = false) :
    c.toUpper.isUpper := by
  rw [Char.isUpper_toUpper_eq_isAlpha]
  rcases Bool.or_eq_true_iff.mp h with halpha | hc
  · exact halpha
  · rw [toUpper_of_isDigit hc, hc] at hdigit
    cases hdigit

theorem pascalFrom_capital {cs : List Char} {d : Char} (h : (pascalFrom true cs).head? = some d)
    (hdigit : d.isDigit = false) : d.isUpper := by
  induction cs with
  | nil => cases h
  | cons c cs ih =>
    unfold pascalFrom at h
    split at h
    · rename_i hword
      obtain rfl := Option.some.inj h
      exact isUpper_toUpper hword hdigit
    · exact ih h

theorem guardDigit_head_not_digit {guard d : Char} {cs : List Char} (hguard : guard.isDigit = false)
    (h : (guardDigit guard cs).head? = some d) : d.isDigit = false := by
  unfold guardDigit at h
  split at h
  · cases h
  · split at h
    · obtain rfl := Option.some.inj h
      exact hguard
    · rename_i hdigit
      obtain rfl := Option.some.inj h
      simpa using hdigit

/-- A type identifier before the keyword escape starts with a capital. -/
theorem guarded_pascal_capital (name : List Char) :
    ∃ c cs, guardDigit 'V' (orElse "Empty" (pascal name)) = c :: cs ∧ c.isUpper := by
  have hne : guardDigit 'V' (orElse "Empty" (pascal name)) ≠ [] :=
    guardDigit_ne_nil (orElse_ne_nil (by decide) _)
  obtain ⟨c, cs, hcons⟩ := List.exists_cons_of_ne_nil hne
  refine ⟨c, cs, hcons, ?_⟩
  have hhead : (guardDigit 'V' (orElse "Empty" (pascal name))).head? = some c := by rw [hcons]; rfl
  have hdigit := guardDigit_head_not_digit (by decide) hhead
  rcases guardDigit_head hhead with rfl | hhead
  · rfl
  · unfold orElse at hhead
    split at hhead
    · obtain rfl : 'E' = c := by simpa using hhead
      rfl
    · exact pascalFrom_capital hhead hdigit

theorem type_isTypeName (name : String) : IsTypeName (type name) := by
  obtain ⟨c, cs, hcons, hupper⟩ := guarded_pascal_capital name.toList
  have hword := type_isType name
  rw [type, hcons] at hword ⊢
  rcases escapeKeyword_cases (String.ofList (c :: cs)) with ⟨-, -, heq⟩ | ⟨hraw, -⟩ | ⟨hfree, heq⟩
  · rw [heq] at hword ⊢
    refine ⟨⟨c, cs ++ ['_'], ?_, hupper⟩, hword, append_underscore_free _⟩
    rw [String.toList_append, String.toList_ofList]
    rfl
  · -- A reserved word with a capital in front has no raw form.
    obtain ⟨d, hhead, hsmall⟩ := hraw.head
    rw [String.toList_ofList] at hhead
    obtain rfl := Option.some.inj hhead
    exact absurd hsmall (Char.not_isLower_of_isUpper hupper)
  · rw [heq] at hword ⊢
    exact ⟨⟨c, cs, String.toList_ofList, hupper⟩, hword, hfree⟩

theorem IsTypeName.append {a b : String} (ha : IsTypeName a) (hb : IsTypeName b) :
    IsTypeName (a ++ b) := by
  obtain ⟨c, cs, hac, hupper⟩ := ha.capital
  obtain ⟨d, ds, hbd, hinner⟩ := hb.capital
  have hlist : (a ++ b).toList = c :: (cs ++ d :: ds) := by
    rw [String.toList_append, hac, hbd, List.cons_append]
  refine ⟨⟨c, _, hlist, hupper⟩, ha.word.append hb.word, ?_⟩
  intro hreserved
  -- The second name brings a capital that no reserved word has behind its first letter.
  have htail := hreserved.tail d
  rw [hlist, List.tail_cons, hinner] at htail
  exact Bool.noConfusion (htail (by simp))

theorem IsTypeName.numbered {ident : String} (h : IsTypeName ident) (n : Nat) :
    IsTypeName (Names.numbered (bare ident) n) := by
  obtain ⟨c, cs, hcons, hupper⟩ := h.capital
  have hbare : bare ident = ident := bare_of_parts fun c hc => isPart_of_isWord (h.word c hc)
  rw [hbare]
  refine ⟨⟨c, cs ++ (toString n).toList, ?_, hupper⟩, h.word.append (toString_words n),
    numbered_free ident n⟩
  rw [Names.numbered, String.toList_append, hcons, List.cons_append]

end Ident

namespace Names

theorem claim_isTypeName (names : Names) {wanted : String} (h : Ident.IsTypeName wanted) :
    Ident.IsTypeName (names.claim wanted).1 := by
  rcases claim_cases names wanted with hname | ⟨n, hname⟩
  · rwa [hname]
  · rw [hname]
    exact h.numbered n

theorem claim_escaped (names : Names) {wanted : String}
    (h : Ident.IsField wanted ∧ Ident.Escaped wanted) :
    Ident.IsField (names.claim wanted).1 ∧ Ident.Escaped (names.claim wanted).1 := by
  refine ⟨claim_isField names h.1, ?_⟩
  rcases claim_cases names wanted with hname | ⟨n, hname⟩
  · rw [hname]
    exact h.2
  · rw [hname]
    apply Ident.escaped_of_free
    · apply Ident.bare_of_parts
      intro c hc
      rw [numbered, String.toList_append] at hc
      rcases List.mem_append.mp hc with hc | hc
      · exact h.1.parts c hc
      · exact Ident.isPart_of_isWord (Ident.toString_words n c hc)
    · exact Ident.numbered_free _ n

end Names
end CrdBindings
