import CrdBindings.Importer

/-!
Imports that overlap. Each input is a task of its own: it looks its document up, asks for it, and keeps
what came back. The tasks share the cache, and between two steps of one any other may take its own.
-/

namespace CrdBindings
set_option autoImplicit false

inductive ImportPhase where
  | waiting
  | asked (source : Source) (url : String)
  /-- The document came back and is not in the cache yet. -/
  | arrived (source : Source) (url text : String)
  | finished (answer : Except Failure (Option Import))

structure ImportTask where
  input : String
  phase : ImportPhase

/-- Imports that overlap, the addresses that were asked so far, and the cache that they share. -/
structure Batch where
  cache : Option Cache
  asked : List String
  tasks : List ImportTask

namespace Importer

def answer (i : Importer) (source : Source) (url : String) (reply : Reply) :
    Except Failure (Option Import) :=
  (((reply.text url i.timeout).bind Bundle.ofText).bind (compile source url)).map some

/-- The next phase of a task under the present cache; a finished one has none. -/
def advance (i : Importer) (cache : Option Cache) (task : ImportTask) :
    Option (Retrieval ImportPhase) :=
  match task.phase with
  | .waiting =>
    match i.locate task.input with
    | .error failure => some ⟨.finished (.error failure), [], cache⟩
    | .ok none => some ⟨.finished (.ok none), [], cache⟩
    | .ok (some (source, url)) =>
      match cache.bind (·.find? url) with
      | some text => some ⟨.finished (i.answer source url (.document text)), [], cache⟩
      | none => some ⟨.asked source url, [url], cache⟩
  | .asked source url =>
    match i.origin url with
    | .document text => some ⟨.arrived source url text, [], cache⟩
    | reply => some ⟨.finished (i.answer source url reply), [], cache⟩
  | .arrived source url text =>
    some ⟨.finished (i.answer source url (.document text)), [], cache.map (·.keep url text)⟩
  | .finished _ => none

/-- One task of a batch takes a step. -/
inductive Step (i : Importer) : Batch → Batch → Prop where
  | advance {cache : Option Cache} {asked : List String} {before after : List ImportTask}
      {task : ImportTask} {next : Retrieval ImportPhase} :
      i.advance cache task = some next →
      Step i ⟨cache, asked, before ++ task :: after⟩
        ⟨next.cache, asked ++ next.asked, before ++ { task with phase := next.result } :: after⟩

def start (i : Importer) (inputs : List String) : Batch :=
  ⟨i.cache, [], inputs.map fun input => ⟨input, .waiting⟩⟩

end Importer

/-- The answers of a batch, in the order of its inputs; a task under way has none yet. -/
def Batch.answers (b : Batch) : List (Option (Except Failure (Option Import))) :=
  b.tasks.map fun task =>
    match task.phase with
    | .finished answer => some answer
    | _ => none

end CrdBindings
