/-!
What can go wrong, as causes, with the text shown for each. Three causes blame the reference that
was given, two the retrieval of the document. A computation in steps has a result only if each step has
one.
-/

namespace CrdBindings
set_option autoImplicit false

inductive Failure where
  /-- An input that names no document. -/
  | malformedReference (input reason : String)
  /-- A version that leaves the minor number open. -/
  | ambiguousVersion (version : String)
  /-- No known release fits the version. -/
  | noMatch (version available : String)
  /-- A document could not be retrieved. -/
  | fetch (url reason : String)
  /-- A document did not arrive in time. -/
  | timeout (url : String) (seconds : Nat)
  /-- A document or catalog that cannot be understood. -/
  | parse (reason : String)
  /-- Output that cannot be produced. -/
  | generation (reason : String)
  /-- The system refused a file operation. -/
  | io (reason : String)
deriving DecidableEq, Repr

namespace Failure

def message : Failure → String
  | malformedReference input reason => s!"Malformed reference '{input}': {reason}"
  | ambiguousVersion version => s!"Ambiguous version '{version}': major and minor are required"
  | noMatch version available =>
    s!"No release matches version '{version}' (available: {available})"
  | fetch url reason => s!"Failed to fetch {url}: {reason}"
  | timeout url seconds => s!"Fetching {url} timed out after {seconds}s"
  | parse reason => s!"Parse error: {reason}"
  | generation reason => s!"Generation error: {reason}"
  | io reason => s!"IO error: {reason}"

/-- The given reference is to blame: its form, its version, or the lack of a release for it. -/
def blamesReference : Failure → Bool
  | malformedReference .. | ambiguousVersion .. | noMatch .. => true
  | _ => false

/-- The retrieval of the document is to blame. -/
def blamesFetch : Failure → Bool
  | fetch .. | timeout .. => true
  | _ => false

end Failure

theorem map_error {ε α β : Type} {f : α → β} {x : Except ε α} {e : ε}
    (h : x.map f = .error e) : x = .error e := by
  cases x with
  | error e' => cases h; rfl
  | ok a => cases h

theorem map_eq_ok {ε α β : Type} {f : α → β} {x : Except ε α} {b : β}
    (h : x.map f = .ok b) : ∃ a, x = .ok a ∧ f a = b := by
  cases x with
  | error e => cases h
  | ok a => exact ⟨a, rfl, Except.ok.inj h⟩

theorem bind_eq_ok {ε α β : Type} {f : α → Except ε β} {x : Except ε α} {b : β}
    (h : x >>= f = .ok b) : ∃ a, x = .ok a ∧ f a = .ok b := by
  cases x with
  | error e => cases h
  | ok a => exact ⟨a, rfl, h⟩

end CrdBindings
