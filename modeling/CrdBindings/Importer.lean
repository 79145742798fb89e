import CrdBindings.Bundle.OfText
import CrdBindings.Fetch
import CrdBindings.Source
import CrdBindings.TypedModule.OfDefinitions

/-!
Importing: from an input to the typed modules of the definitions behind it. An input without an
address is never fetched, and several inputs are imported one after the other, each on its own.
-/

namespace CrdBindings
set_option autoImplicit false

/-- What imports draw on: the releases that are known, where documents come from, the cache if one is
used, and the milliseconds that a document may take. -/
structure Importer where
  catalog : Catalog
  origin : Origin
  cache : Option Cache
  timeout : Nat

structure Import where
  source : Source
  url : String
  definitions : List Definition
  modules : List TypedModule

/-- The text that came back, or why there is none. -/
def Reply.text (url : String) (timeout : Nat) : Reply → Except Failure String
  | document text => .ok text
  | refused reason => .error (.fetch url reason)
  | stalled => .error (.timeout url (timeout / 1000))

namespace Importer

/-- A result for which nothing is fetched. -/
def without {α : Type} (i : Importer) (result : α) : Retrieval α := ⟨result, [], i.cache⟩

def fetchText (i : Importer) (url : String) : Retrieval (Except Failure String) :=
  (fetch i.origin i.cache url).map (Reply.text url i.timeout)

def load (i : Importer) (url : String) : Retrieval (Except Failure (List Definition)) :=
  (i.fetchText url).map fun text => text.bind Bundle.ofText

/-- The source of an input and the address of its document, if a provider handles it. -/
def locate (i : Importer) (input : String) : Except Failure (Option (Source × String)) :=
  match Source.detect input with
  | .ok source => (source.resolve i.catalog).map fun url => url.map (source, ·)
  | .error failure => .error failure

/-- The definitions behind an input; none if no provider handles it. -/
def loadInput (i : Importer) (input : String) :
    Retrieval (Except Failure (Option (List Definition))) :=
  match i.locate input with
  | .ok (some (_, url)) => (i.load url).map fun definitions => definitions.map some
  | .ok none => i.without (.ok none)
  | .error failure => i.without (.error failure)

/-- The import of definitions that were loaded from an address. -/
def compile (source : Source) (url : String) (definitions : List Definition) :
    Except Failure Import :=
  (TypedModule.ofDefinitions definitions).map fun modules => ⟨source, url, definitions, modules⟩

/-- Imports an input; none if no provider handles it. -/
def importInput (i : Importer) (input : String) : Retrieval (Except Failure (Option Import)) :=
  match i.locate input with
  | .ok (some (source, url)) =>
    (i.load url).map fun definitions => (definitions.bind (compile source url)).map some
  | .ok none => i.without (.ok none)
  | .error failure => i.without (.error failure)

def importAll (i : Importer) : List String → Retrieval (List (Except Failure (Option Import)))
  | [] => i.without []
  | input :: inputs =>
    let first := i.importInput input
    let others := importAll { i with cache := first.cache } inputs
    ⟨first.result :: others.result, first.asked ++ others.asked, others.cache⟩

end Importer
end CrdBindings
