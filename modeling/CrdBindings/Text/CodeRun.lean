/-!
Runs of code points: every `step`-th code from a first to a last one. A property of characters is a
list of runs.
-/

namespace CrdBindings.Text
set_option autoImplicit false

/-- The codes `first`, `first + step`, ... up to `last`. -/
structure CodeRun where
  first : Nat
  last : Nat
  step : Nat
deriving Repr, DecidableEq

def CodeRun.holds (r : CodeRun) (code : Nat) : Bool :=
  r.first ≤ code && code ≤ r.last && (code - r.first) % r.step == 0

def inRuns (runs : List CodeRun) (c : Char) : Bool :=
  runs.any (·.holds c.toNat)

theorem inRuns_iff (runs : List CodeRun) (c : Char) :
    inRuns runs c = true ↔ ∃ r ∈ runs, r.holds c.toNat = true := by
  simp [inRuns]

end CrdBindings.Text
