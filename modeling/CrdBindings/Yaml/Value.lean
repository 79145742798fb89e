import CrdBindings.Yaml.Document
import CrdBindings.Yaml.Scalar

/-!
The values of YAML documents. An alias has the value of the node that its anchor stands at; how often
aliases are followed is bounded by the size of the document, and so is the depth of collections. The
keys of a mapping are scalars and stand for their text.
-/

namespace CrdBindings.Yaml
set_option autoImplicit false

/-- The anchored nodes of a document; of equal anchors the last counts. -/
abbrev Targets := List (Nat × Tree)

/-- A reading that may follow so many more aliases, and may fail. -/
abbrev Bounded (α : Type) := StateT Nat Option α

/-- The node that a node stands for: behind an alias the anchored one. -/
def follow (targets : Targets) : Tree → Bounded Tree
  | .alias n => fun jumps =>
    if jumps = 0 then none else (Keyed.find? n targets).map fun target => (target, jumps - 1)
  | t => fun jumps => some (t, jumps)

def text? : Tree → Option String
  | .scalar _ _ _ text => some text
  | _ => none

def scalarText (targets : Targets) (t : Tree) : Bounded String := do
  let node ← follow targets t
  text? node

def maxDepth : Nat := 128

/-- How many aliases may be followed for a part of a document. -/
def jumpsPerPart : Nat := 100

/-- The members of an object from its pairs, where the first position and the last value of a key
count. -/
def members (pairs : List (String × Json)) : List (String × Json) :=
  pairs.foldl (fun ms (key, v) => Keyed.put key v ms) []

/-- The value of a node in which collections may be nested so deep. -/
def value (targets : Targets) : Nat → Tree → Bounded Json
  | 0, t => do
    match ← follow targets t with
    | .scalar _ tag plain text => Scalar.value? tag plain text
    | _ => failure
  | depth + 1, t => do
    match ← follow targets t with
    | .scalar _ tag plain text => Scalar.value? tag plain text
    | .sequence _ tag items =>
      if Scalar.isLocal tag then failure
      else return .arr (← items.mapM (value targets depth))
    | .mapping _ tag pairs =>
      if Scalar.isLocal tag then failure
      else
        let read (pair : Tree × Tree) : Bounded (String × Json) := do
          return (← scalarText targets pair.1, ← value targets depth pair.2)
        return .obj (members (← pairs.mapM read))
    | .alias _ => failure

/-- A reading of the root of a document, with its anchored nodes at hand. -/
def readRoot {α : Type} (reading : Targets → Tree → Bounded α) (root : Tree) : Option α :=
  ((reading root.anchored.reverse root).run (jumpsPerPart * root.parts)).map (·.1)

/-- The values of roots in order, or the number of the first that has none; they are numbered from
`n` on. -/
def rootValues (n : Nat) : List Tree → Except Nat (List Json)
  | [] => .ok []
  | root :: roots =>
    match readRoot (value · maxDepth) root with
    | none => .error n
    | some v => (rootValues (n + 1) roots).map (v :: ·)

/-- The values of the documents of a text in order, or the number of the first that cannot be read. -/
def values (text : String) : Except Nat (List Json) :=
  let documents := readDocuments text
  match rootValues 1 documents.roots with
  | .ok vs => if documents.broken then .error (documents.roots.length + 1) else .ok vs
  | .error n => .error n

end CrdBindings.Yaml
