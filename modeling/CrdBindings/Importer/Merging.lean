import CrdBindings.Importer

/-!
Merging the modules of several imports: of those with one group and version the first is kept.
-/

namespace CrdBindings
set_option autoImplicit false

/-- The modules that are kept, and those that are not, with the source that each came from. -/
structure Merged where
  kept : List TypedModule
  dropped : List (TypedModule × Source)

namespace Import

/-- The modules of imports in order, each with its source. -/
def sourced (imports : List Import) : List (TypedModule × Source) :=
  imports.flatMap fun i => i.modules.map (·, i.source)

/-- Keeps the modules of a list whose group and version are not among those `seen` before. -/
def mergeFrom (seen : List String) : List (TypedModule × Source) → Merged
  | [] => ⟨[], []⟩
  | (m, source) :: rest =>
    if seen.contains m.apiVersion then
      let merged := mergeFrom seen rest
      { merged with dropped := (m, source) :: merged.dropped }
    else
      let merged := mergeFrom (m.apiVersion :: seen) rest
      { merged with kept := m :: merged.kept }

def merge (imports : List Import) : Merged := mergeFrom [] (sourced imports)

end Import
end CrdBindings
