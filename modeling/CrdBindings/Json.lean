import CrdBindings.Keyed
import CrdBindings.Real64

/-!
JSON values. Numbers keep their class: an integer never equals a real. An object is a list of
members in declared order; equality of objects does not look at the order.
-/

namespace CrdBindings
set_option autoImplicit false

inductive Json where
  | null
  | bool (value : Bool)
  | int (value : Int)
  | real (value : Real64)
  | str (value : String)
  | arr (items : List Json)
  | obj (members : List (String × Json))
deriving Repr

namespace Json

instance : Inhabited Json := ⟨.null⟩

/-- The member of an object, if the value is an object and has the key. -/
def get? (key : String) : Json → Option Json
  | .obj members => Keyed.find? key members
  | _ => none

def asString? : Json → Option String
  | .str s => some s
  | _ => none

def asObject? : Json → Option (List (String × Json))
  | .obj members => some members
  | _ => none

def isTrue : Json → Bool
  | .bool b => b
  | _ => false

mutual

/-- Equality of values: numbers within their class, arrays by position, objects by key. -/
def same : Json → Json → Bool
  | .null, .null => true
  | .bool a, .bool b => a == b
  | .int a, .int b => a == b
  | .real a, .real b => a.same b
  | .str a, .str b => a == b
  | .arr as, .arr bs => sameItems as bs
  | .obj as, .obj bs => as.length == bs.length && sameMembers as bs
  | _, _ => false

def sameItems : List Json → List Json → Bool
  | [], [] => true
  | a :: as, b :: bs => a.same b && sameItems as bs
  | _, _ => false

/-- Whether each member of the first list has an equal one under its key in the second. -/
def sameMembers : List (String × Json) → List (String × Json) → Bool
  | [], _ => true
  | (k, a) :: as, bs =>
    (match Keyed.find? k bs with
      | some b => a.same b
      | none => false) && sameMembers as bs

end

end Json
end CrdBindings
