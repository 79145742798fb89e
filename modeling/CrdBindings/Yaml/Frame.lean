import CrdBindings.Keyed
import CrdBindings.Yaml.Tree

/-!
The parts of a document while its tokens come in: collections that are open, and places where a node
is awaited. A stack of them, the innermost first, takes one token at a time. A token that cannot
belong to the innermost part completes it and goes on to the part around it.
-/

namespace CrdBindings.Yaml
set_option autoImplicit false

/-- Where a node is awaited. -/
inductive Place where
  /-- At the start of a document without a mark. -/
  | bareRoot
  /-- Behind the mark of a document. -/
  | root
  | blockItem
  /-- Behind a hyphen that stands at the column of the key above it. -/
  | looseItem
  | blockKey
  | blockValue
  | flowItem
  | flowKey
  | flowValue
  /-- A key without a question mark in a flow mapping. -/
  | loneKey
  /-- The key and the value of a single pair in a flow sequence. -/
  | pairKey
  | pairValue
deriving DecidableEq

namespace Place

def allowsBlock : Place → Bool
  | bareRoot | root | blockItem | looseItem | blockKey | blockValue => true
  | _ => false

/-- Whether a sequence may stand there whose hyphens are not indented. -/
def allowsLoose : Place → Bool
  | blockKey | blockValue => true
  | _ => false

/-- Whether a token shows that the node at the place is absent. -/
def showsAbsence : Place → Token → Bool
  | root, .versionDirective .. | root, .tagDirective .. | root, .documentStart
  | root, .documentEnd | root, .streamEnd => true
  | blockItem, .blockEntry | blockItem, .blockEnd => true
  | looseItem, .blockEntry | looseItem, .key | looseItem, .value | looseItem, .blockEnd => true
  | blockKey, .key | blockKey, .value | blockKey, .blockEnd => true
  | blockValue, .key | blockValue, .value | blockValue, .blockEnd => true
  | flowKey, .value | flowKey, .flowEntry | flowKey, .flowMappingEnd => true
  | flowValue, .flowEntry | flowValue, .flowMappingEnd => true
  | pairKey, .value | pairKey, .flowEntry | pairKey, .flowSequenceEnd => true
  | pairValue, .flowEntry | pairValue, .flowSequenceEnd => true
  | _, _ => false

end Place

/-- The anchor and tag given to a node. -/
structure Properties where
  anchor : Option Nat
  tag : Option String

namespace Properties

def none : Properties := ⟨.none, .none⟩

def isEmpty (p : Properties) : Bool := p.anchor.isNone && p.tag.isNone

def absent (p : Properties) : Tree := .scalar p.anchor p.tag true ""

end Properties

/-- How far a flow collection is: at its start, behind an item, or behind a comma. -/
inductive FlowState where
  | start
  | item
  | comma
deriving DecidableEq

/-- A part of a document that is not complete. What it holds so far is in reverse. -/
inductive Frame where
  | node (place : Place) (properties : Properties)
  | blockSequence (properties : Properties) (items : List Tree)
  | looseSequence (properties : Properties) (items : List Tree)
  | blockMapping (properties : Properties) (pairs : List (Tree × Tree)) (key : Option Tree)
  | flowSequence (properties : Properties) (items : List Tree) (state : FlowState)
  | flowMapping (properties : Properties) (pairs : List (Tree × Tree)) (state : FlowState)
  /-- A flow mapping behind a key. -/
  | flowMappingValue (properties : Properties) (pairs : List (Tree × Tree)) (key : Tree)
  /-- A flow mapping before the only sign of a pair, a key without a question mark. -/
  | flowMappingLone (properties : Properties) (pairs : List (Tree × Tree))
  /-- A single pair in a flow sequence. -/
  | pair (key : Option Tree)

/-- The names known in a document: tag handles with what they stand for, and anchors. -/
structure Known where
  handles : List (List Char × List Char)
  anchors : List (List Char × Nat)

namespace Known

/-- Gives an anchor its number, which counts the distinct names before it. -/
def addAnchor (k : Known) (name : List Char) : Nat × Known :=
  let n := k.anchors.length
  (n, { k with anchors := Keyed.put name n k.anchors })

def anchor? (k : Known) (name : List Char) : Option Nat := Keyed.find? name k.anchors

/-- The tag that a handle and a suffix stand for. -/
def tag? (k : Known) (handle suffix : List Char) : Option String :=
  if handle.isEmpty then some (String.ofList suffix)
  else (Keyed.find? handle k.handles).map fun start => String.ofList (start ++ suffix)

end Known

/-- What a token does to the innermost part: it is taken and the part is replaced by others, or the
part is complete, with or without taking the token. -/
inductive Outcome where
  | taken (frames : List Frame)
  | complete (tree : Tree) (takesToken : Bool)

/-- A scalar with its properties. A tag that is the exclamation mark alone does not count. -/
def scalarTree (p : Properties) (plain : Bool) (text : String) : Tree :=
  .scalar p.anchor (if p.tag = some "!" then none else p.tag) plain text

def nodeContent (place : Place) (p : Properties) (t : Token) : Option Outcome :=
  match t with
  | .scalar plain text => some (.complete (scalarTree p plain text) true)
  | .flowSequenceStart => some (.taken [.flowSequence p [] .start])
  | .flowMappingStart => some (.taken [.flowMapping p [] .start])
  | .blockEntry =>
    if place.allowsLoose then some (.taken [.node .looseItem .none, .looseSequence p []])
    else otherwise
  | .blockSequenceStart => if place.allowsBlock then some (.taken [.blockSequence p []]) else otherwise
  | .blockMappingStart =>
    if place.allowsBlock then some (.taken [.blockMapping p [] none]) else otherwise
  | _ => otherwise
where
  otherwise : Option Outcome := if p.isEmpty then none else some (.complete p.absent false)

def nodeStep (k : Known) (place : Place) (p : Properties) (t : Token) : Option (Outcome × Known) :=
  if p.isEmpty && place.showsAbsence t then some (.complete .absent (place == .pairKey), k)
  else
    match t with
    | .alias name =>
      if p.isEmpty then (k.anchor? name).map fun n => (.complete (.alias n) true, k)
      else some (.complete p.absent false, k)
    | .anchor name =>
      if p.anchor.isSome then some (.complete p.absent false, k)
      else
        let (n, k) := k.addAnchor name
        some (.taken [.node place { p with anchor := some n }], k)
    | .tag handle suffix =>
      if p.tag.isSome then some (.complete p.absent false, k)
      else (k.tag? handle suffix).map fun tag => (.taken [.node place { p with tag := some tag }], k)
    | t => (nodeContent place p t).map fun o => (o, k)

/-- A token in a block mapping that awaits a key. -/
def blockMappingStep (p : Properties) (pairs : List (Tree × Tree)) : Token → Option Outcome
  | .key => some (.taken [.node .blockKey .none, .blockMapping p pairs none])
  | .blockEnd => some (.complete (.mapping p.anchor p.tag pairs.reverse) true)
  | _ => none

def flowItemStep (k : Known) (p : Properties) (items : List Tree) (t : Token) :
    Option (Outcome × Known) :=
  match t with
  | .flowSequenceEnd => some (.complete (.sequence p.anchor p.tag items.reverse) true, k)
  | .key =>
    some (.taken [.node .pairKey .none, .pair none, .flowSequence p items .item], k)
  | t => do
    let (o, k) ← nodeStep k .flowItem .none t
    match o with
    | .taken frames => return (.taken (frames ++ [.flowSequence p items .item]), k)
    | .complete tree _ => return (.taken [.flowSequence p (tree :: items) .item], k)

def flowPairStep (k : Known) (p : Properties) (pairs : List (Tree × Tree)) (t : Token) :
    Option (Outcome × Known) :=
  match t with
  | .flowMappingEnd => some (.complete (.mapping p.anchor p.tag pairs.reverse) true, k)
  | .key => some (.taken [.node .flowKey .none, .flowMapping p pairs .item], k)
  | t => do
    let (o, k) ← nodeStep k .loneKey .none t
    match o with
    | .taken frames => return (.taken (frames ++ [.flowMappingLone p pairs]), k)
    | .complete tree _ => return (.taken [.flowMapping p ((tree, .absent) :: pairs) .item], k)

/-- A token in a flow mapping where a pair or its end is awaited. -/
def flowMappingStep (k : Known) (p : Properties) (pairs : List (Tree × Tree)) (state : FlowState)
    (t : Token) : Option (Outcome × Known) :=
  if state = .item then
    match t with
    | .flowEntry => some (.taken [.flowMapping p pairs .comma], k)
    | .flowMappingEnd => some (.complete (.mapping p.anchor p.tag pairs.reverse) true, k)
    | _ => none
  else flowPairStep k p pairs t

def frameStep (k : Known) (t : Token) : Frame → Option (Outcome × Known)
  | .node place p => nodeStep k place p t
  | .blockSequence p items =>
    match t with
    | .blockEntry => some (.taken [.node .blockItem .none, .blockSequence p items], k)
    | .blockEnd => some (.complete (.sequence p.anchor p.tag items.reverse) true, k)
    | _ => none
  | .looseSequence p items =>
    match t with
    | .blockEntry => some (.taken [.node .looseItem .none, .looseSequence p items], k)
    | _ => some (.complete (.sequence p.anchor p.tag items.reverse) false, k)
  | .blockMapping p pairs (some key) =>
    match t with
    | .value => some (.taken [.node .blockValue .none, .blockMapping p pairs (some key)], k)
    | t => (blockMappingStep p ((key, .absent) :: pairs) t).map fun o => (o, k)
  | .blockMapping p pairs none => (blockMappingStep p pairs t).map fun o => (o, k)
  | .flowSequence p items .item =>
    match t with
    | .flowEntry => some (.taken [.flowSequence p items .comma], k)
    | .flowSequenceEnd => some (.complete (.sequence p.anchor p.tag items.reverse) true, k)
    | _ => none
  | .flowSequence p items _ => flowItemStep k p items t
  | .flowMapping p pairs state => flowMappingStep k p pairs state t
  | .flowMappingValue p pairs key =>
    match t with
    | .value => some (.taken [.node .flowValue .none, .flowMappingValue p pairs key], k)
    | t => flowMappingStep k p ((key, .absent) :: pairs) .item t
  | .flowMappingLone .. => none
  | .pair (some key) =>
    match t with
    | .value => some (.taken [.node .pairValue .none, .pair (some key)], k)
    | _ => some (.complete (.mapping none none [(key, .absent)]) false, k)
  | .pair none => none

/-- A part whose awaited node is complete: it stays open, or is complete itself. -/
inductive Accepted where
  | stays (frame : Frame)
  | completes (tree : Tree)

def Frame.accept (tree : Tree) : Frame → Accepted
  | .node .. => .completes tree
  | .blockSequence p items => .stays (.blockSequence p (tree :: items))
  | .looseSequence p items => .stays (.looseSequence p (tree :: items))
  | .blockMapping p pairs none => .stays (.blockMapping p pairs (some tree))
  | .blockMapping p pairs (some key) => .stays (.blockMapping p ((key, tree) :: pairs) none)
  | .flowSequence p items _ => .stays (.flowSequence p (tree :: items) .item)
  | .flowMapping p pairs _ => .stays (.flowMappingValue p pairs tree)
  | .flowMappingValue p pairs key => .stays (.flowMapping p ((key, tree) :: pairs) .item)
  | .flowMappingLone p pairs => .stays (.flowMapping p ((tree, .absent) :: pairs) .item)
  | .pair none => .stays (.pair (some tree))
  | .pair (some key) => .completes (.mapping none none [(key, tree)])

/-- How far a document is: some parts are open, the innermost first, or its root is complete. -/
inductive Progress where
  | inside (frames : List Frame)
  | complete (root : Tree)

/-- Gives a complete node to the parts around it. -/
def deliver (tree : Tree) : List Frame → Progress
  | [] => .complete tree
  | f :: fs =>
    match f.accept tree with
    | .stays f => .inside (f :: fs)
    | .completes tree => deliver tree fs

/-- What a token does to a document, and whether it was taken. -/
structure Advance where
  progress : Progress
  takesToken : Bool
  known : Known

/-- A token at the open parts, where a node inside the innermost one may just be complete. -/
def advance (k : Known) (t : Token) (inner : Option Tree) : List Frame → Option Advance
  | [] => inner.map fun tree => ⟨.complete tree, false, k⟩
  | f :: fs =>
    match inner.elim (.stays f) f.accept with
    | .completes tree => advance k t (some tree) fs
    | .stays f =>
      match frameStep k t f with
      | none => none
      | some (.taken frames, k) => some ⟨.inside (frames ++ fs), true, k⟩
      | some (.complete tree true, k) => some ⟨deliver tree fs, true, k⟩
      | some (.complete tree false, k) => advance k t (some tree) fs

end CrdBindings.Yaml
