import CrdBindings.Yaml.Token

/-!
The trees of YAML documents. A node may carry an anchor, as a number given in the order of the text;
an alias holds the number that its name had where it stood.
-/

namespace CrdBindings.Yaml
set_option autoImplicit false

inductive Tree where
  | alias (anchor : Nat)
  | scalar (anchor : Option Nat) (tag : Option String) (plain : Bool) (text : String)
  | sequence (anchor : Option Nat) (tag : Option String) (items : List Tree)
  | mapping (anchor : Option Nat) (tag : Option String) (pairs : List (Tree × Tree))
deriving Repr

namespace Tree

def absent : Tree := .scalar none none true ""

def isAlias : Tree → Bool
  | .alias _ => true
  | _ => false

def anchor? : Tree → Option Nat
  | .alias _ => none
  | .scalar anchor .. => anchor
  | .sequence anchor .. => anchor
  | .mapping anchor .. => anchor

mutual

/-- The number of parts that a node is written in: one for a scalar or alias, and two for the ends of
a collection besides its nodes. -/
def parts : Tree → Nat
  | .sequence _ _ items => 2 + itemParts items
  | .mapping _ _ pairs => 2 + pairParts pairs
  | _ => 1

def itemParts : List Tree → Nat
  | [] => 0
  | item :: items => parts item + itemParts items

def pairParts : List (Tree × Tree) → Nat
  | [] => 0
  | (key, value) :: pairs => parts key + parts value + pairParts pairs

end

mutual

/-- The anchored nodes of a tree in the order of the text. -/
def anchored : Tree → List (Nat × Tree)
  | .alias _ => []
  | .scalar anchor tag plain text => mark anchor (.scalar anchor tag plain text)
  | .sequence anchor tag items => mark anchor (.sequence anchor tag items) ++ itemsAnchored items
  | .mapping anchor tag pairs => mark anchor (.mapping anchor tag pairs) ++ pairsAnchored pairs

def itemsAnchored : List Tree → List (Nat × Tree)
  | [] => []
  | item :: items => anchored item ++ itemsAnchored items

def pairsAnchored : List (Tree × Tree) → List (Nat × Tree)
  | [] => []
  | (key, value) :: pairs => anchored key ++ anchored value ++ pairsAnchored pairs

def mark (anchor : Option Nat) (node : Tree) : List (Nat × Tree) :=
  match anchor with
  | some n => [(n, node)]
  | none => []

end

end Tree
end CrdBindings.Yaml
