import CrdBindings.Node.OfSchema

/-!
What the conversion of a schema can refuse: only its depth, whatever the shape of the schema.
-/

namespace CrdBindings
set_option autoImplicit false

namespace Node

/-- A conversion that refuses nothing but a schema that nests too deep. -/
def RefusesDepthOnly (context : String) (convert : Json → Except Failure Node) : Prop :=
  ∀ schema e, convert schema = .error e → e = tooDeep context

variable {context : String} {convert : Json → Except Failure Node}

theorem fieldsOf_error (h : RefusesDepthOnly context convert) (required : List String)
    (properties : List (String × Json)) {e : Failure}
    (he : fieldsOf convert required properties = .error e) : e = tooDeep context := by
  induction properties with
  | nil => cases he
  | cons property properties ih =>
    obtain ⟨name, schema⟩ := property
    simp only [fieldsOf] at he
    cases hc : convert schema with
    | error e' =>
      rw [hc] at he
      cases he
      exact h schema e hc
    | ok node =>
      cases hf : fieldsOf convert required properties with
      | error e' =>
        rw [hc, hf] at he
        cases he
        exact ih hf
      | ok fields =>
        rw [hc, hf] at he
        cases he

theorem ofObjectSchema_error (h : RefusesDepthOnly context convert) (schema : Json) {e : Failure}
    (he : ofObjectSchema convert schema = .error e) : e = tooDeep context := by
  unfold ofObjectSchema at he
  split at he
  · exact fieldsOf_error h _ _ (map_error he)
  · split at he
    · exact h _ _ (map_error he)
    all_goals cases he

theorem ofArraySchema_error (h : RefusesDepthOnly context convert) (schema : Json) {e : Failure}
    (he : ofArraySchema convert schema = .error e) : e = tooDeep context := by
  unfold ofArraySchema at he
  split at he
  · exact h _ _ (map_error he)
  · cases he

theorem ofDeclaredType_error (h : RefusesDepthOnly context convert) (schema : Json) {e : Failure}
    (he : ofDeclaredType convert schema = .error e) : e = tooDeep context := by
  unfold ofDeclaredType at he
  split at he
  · exact ofObjectSchema_error h schema he
  · exact ofArraySchema_error h schema he
  all_goals cases he

theorem ofSchemaWithin_refusesDepthOnly (context : String) (levels : Nat) :
    RefusesDepthOnly context (ofSchemaWithin context levels) := by
  induction levels with
  | zero =>
    intro schema e he
    cases he
    rfl
  | succ levels ih =>
    intro schema e he
    simp only [ofSchemaWithin] at he
    split at he
    · cases he
    · split at he
      · cases he
      · exact ofDeclaredType_error ih schema he

/-- The one refusal of a schema names the context in which it is converted. -/
theorem ofSchema_error {context : String} {level : Nat} {schema : Json} {e : Failure}
    (h : ofSchema context level schema = .error e) : e = tooDeep context :=
  ofSchemaWithin_refusesDepthOnly context _ schema e h

end Node
end CrdBindings
