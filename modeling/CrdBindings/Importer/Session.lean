import CrdBindings.Importer

/-!
Sessions of an importer: documents change or disappear while others are asked for, one step after the
other. What was asked and what came back is the log of a session.
-/

namespace CrdBindings
set_option autoImplicit false

inductive SessionStep where
  | put (url : String) (reply : Reply)
  | remove (url : String)
  | fetch (url : String)
  | load (input : String)
  | importInput (input : String)

inductive SessionAnswer where
  | done
  | reply (reply : Reply)
  | definitions (result : Except Failure (Option (List Definition)))
  | imported (result : Except Failure (Option Import))

def Reply.missing : Reply := .refused "document not found (404)"

/-- An origin in which another reply comes back from one address. -/
def Origin.put (origin : Origin) (url : String) (reply : Reply) : Origin := fun other =>
  if other = url then reply else origin other

/-- What comes back from each address after a step. -/
def SessionStep.change (origin : Origin) : SessionStep → Origin
  | put url reply => origin.put url reply
  | remove url => origin.put url .missing
  | _ => origin

namespace Importer

def perform (i : Importer) : SessionStep → Retrieval SessionAnswer
  | .fetch url => (CrdBindings.fetch i.origin i.cache url).map .reply
  | .load input => (i.loadInput input).map .definitions
  | .importInput input => (i.importInput input).map .imported
  | _ => i.without .done

def after (i : Importer) (step : SessionStep) : Importer :=
  { i with origin := step.change i.origin, cache := (i.perform step).cache }

def answers (i : Importer) : List SessionStep → List SessionAnswer
  | [] => []
  | step :: steps => (i.perform step).result :: answers (i.after step) steps

/-- The addresses that a session asked, in order, each with what came back from it then. -/
def log (i : Importer) : List SessionStep → List (String × Reply)
  | [] => []
  | step :: steps =>
    (i.perform step).asked.map (fun url => (url, i.origin url)) ++ log (i.after step) steps

end Importer
end CrdBindings
