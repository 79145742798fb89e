import CrdBindings.Definition.OfJson

/-!
Collecting definitions: a definition stands for itself, a list for what its items hold, and any
other value for nothing.
-/

namespace CrdBindings.Bundle
set_option autoImplicit false

def listKind : String := "List"

mutual

/-- The definitions in a value, in document order. -/
def definitions : Json → List Definition
  | .obj members =>
    if Definition.kindOf? (.obj members) = some Definition.definitionKind then
      (Definition.ofJson? (.obj members)).toList
    else if Definition.kindOf? (.obj members) = some listKind then listed members
    else []
  | _ => []

/-- The definitions in the items of a list that is given by its members. -/
def listed : List (String × Json) → List Definition
  | [] => []
  | (key, .arr items) :: members => if key = "items" then all items else listed members
  | (key, _) :: members => if key = "items" then [] else listed members

def all : List Json → List Definition
  | [] => []
  | v :: vs => definitions v ++ all vs

end

end CrdBindings.Bundle
