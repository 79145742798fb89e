import CrdBindings.Yaml.Frame
import CrdBindings.Yaml.Token.Scan

/-!
The documents of a text, as trees. A text is a sequence of documents, each with directives and a mark
in front; only the first one may do without a mark. Tag handles and anchors are known in one document
only.
-/

namespace CrdBindings.Yaml
set_option autoImplicit false

/-- The directives in front of a document: whether a version was given, and the tag handles. -/
structure Directives where
  version : Bool
  handles : List (List Char × List Char)

namespace Directives

def none : Directives := ⟨false, []⟩

/-- Adds a version directive, which may stand once; versions 1.1 and 1.2 are known. -/
def addVersion (d : Directives) (major minor : Nat) : Option Directives :=
  if !d.version && major == 1 && (minor == 1 || minor == 2) then some { d with version := true }
  else .none

/-- Adds a tag directive, which may stand once for a handle. -/
def addHandle (d : Directives) (handle uri : List Char) : Option Directives :=
  if d.handles.any (·.1 == handle) then .none
  else some { d with handles := d.handles ++ [(handle, uri)] }

def defaults : List (List Char × List Char) :=
  [(['!'], ['!']), (['!', '!'], "tag:yaml.org,2002:".toList)]

def known (d : Directives) : Known := ⟨d.handles ++ defaults, []⟩

end Directives

/-- The place of a token with regard to documents. -/
inductive Stage where
  /-- In front of all documents. -/
  | start
  | between
  | directives (read : Directives)
  | inside (known : Known) (frames : List Frame)
  /-- Behind a complete root, whose document is complete when another token comes. -/
  | after (root : Tree)
  | ended
  /-- Behind a token that fits nowhere. -/
  | failed

/-- The complete documents in reverse, and the place of the next token. -/
structure Reading where
  finished : List Tree
  stage : Stage

namespace Reading

/-- A token in front of a document that has a mark. -/
def directivesStep (finished : List Tree) (d : Directives) (t : Token) : Reading :=
  let next : Option Stage :=
    match t with
    | .versionDirective major minor => (d.addVersion major minor).map .directives
    | .tagDirective handle uri => (d.addHandle handle uri).map .directives
    | .documentStart => some (.inside d.known [.node .root .none])
    | _ => none
  ⟨finished, next.getD .failed⟩

def betweenStep (finished : List Tree) (t : Token) : Reading :=
  match t with
  | .documentEnd => ⟨finished, .between⟩
  | .streamEnd => ⟨finished, .ended⟩
  | t => directivesStep finished .none t

def insideStep (finished : List Tree) (k : Known) (frames : List Frame) (t : Token) : Reading :=
  match advance k t none frames with
  | none => ⟨finished, .failed⟩
  | some ⟨.inside frames, _, k⟩ => ⟨finished, .inside k frames⟩
  | some ⟨.complete root, true, _⟩ => ⟨finished, .after root⟩
  | some ⟨.complete root, false, _⟩ => betweenStep (root :: finished) t

/-- A token in front of all documents; without a mark it belongs to the first one. -/
def startStep (finished : List Tree) (t : Token) : Reading :=
  match t with
  | .streamEnd => ⟨finished, .ended⟩
  | .versionDirective .. | .tagDirective .. | .documentStart => directivesStep finished .none t
  | t => insideStep finished Directives.none.known [.node .bareRoot .none] t

def step (r : Reading) (t : Token) : Reading :=
  match r.stage with
  | .start => startStep r.finished t
  | .between => betweenStep r.finished t
  | .directives d => directivesStep r.finished d t
  | .inside k frames => insideStep r.finished k frames t
  | .after root => betweenStep (root :: r.finished) t
  | .ended | .failed => ⟨r.finished, .failed⟩

/-- Whether the text ended where it may. -/
def isEnded (r : Reading) : Bool :=
  match r.stage with
  | .ended => true
  | _ => false

end Reading

/-- The documents of a text that are complete, and whether the text breaks off behind them at a
fault. -/
structure Documents where
  roots : List Tree
  broken : Bool

/-- Reads the documents of a text. A text without any stands for one absent node. -/
def readDocuments (text : String) : Documents :=
  let r := (scan text).tokens.foldl Reading.step ⟨[], .start⟩
  if r.isEnded && r.finished.isEmpty then ⟨[.absent], false⟩
  else ⟨r.finished.reverse, !r.isEnded⟩

end CrdBindings.Yaml
