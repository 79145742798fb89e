import CrdBindings.Catalog

/-!
Registrations one after the other. Each is answered on its own; a refused one changes nothing, and
those behind it go on from the catalog that was there.
-/

namespace CrdBindings
set_option autoImplicit false

structure Registration where
  repository : String
  tags : List String
deriving DecidableEq, Repr

namespace Catalog

def register (c : Catalog) (r : Registration) : Except Failure Unit × Catalog :=
  match c.insert r.repository r.tags with
  | .ok added => (.ok (), added)
  | .error failure => (.error failure, c)

/-- The answers to registrations in turn, and the catalog behind them. -/
def registerAll (c : Catalog) : List Registration → List (Except Failure Unit) × Catalog
  | [] => ([], c)
  | r :: rs =>
    let first := c.register r
    let others := registerAll first.2 rs
    (first.1 :: others.1, others.2)

end Catalog
end CrdBindings
