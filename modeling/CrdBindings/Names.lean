import CrdBindings.Ident

/-!
Registries of names. A claim gives the wanted name when it is free, and otherwise its plain form
with the least number from 2 on that makes it free. The search needs no more tries than there are
names taken.
-/

namespace CrdBindings
set_option autoImplicit false

/-- The names that are taken, the latest first. -/
structure Names where
  taken : List String
deriving Repr

namespace Names

def empty : Names := ⟨[]⟩

/-- A plain name with a number behind it. -/
def numbered (base : String) (n : Nat) : String := base ++ toString n

/-- The first free name with a number from `n` on, among so many tries and one more. Numbers have no
bound here; a program may count in 32 bits with a sign. A claim tries none above `2 + taken.length`, so
such a count does not overflow while fewer than `2 ^ 31 - 2` names are taken, as they are in every
registry that fits in memory. -/
def firstFree (taken : List String) (base : String) : Nat → Nat → String
  | 0, n => numbered base n
  | tries + 1, n =>
    if numbered base n ∈ taken then firstFree taken base tries (n + 1) else numbered base n

def nameFor (names : Names) (wanted : String) : String :=
  if wanted ∈ names.taken then firstFree names.taken (Ident.bare wanted) names.taken.length 2
  else wanted

/-- Takes a name like the wanted one. -/
def claim (names : Names) (wanted : String) : String × Names :=
  (names.nameFor wanted, ⟨names.nameFor wanted :: names.taken⟩)

def claimAll (names : Names) : List String → List String × Names
  | [] => ([], names)
  | wanted :: rest =>
    let (name, names) := names.claim wanted
    let (others, names) := claimAll names rest
    (name :: others, names)

end Names
end CrdBindings
