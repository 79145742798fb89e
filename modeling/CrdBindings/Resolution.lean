import CrdBindings.Catalog
import CrdBindings.Reference

/-!
From a reference to the address of its document. Providers are a closed set; a reference to any
other provider has no address, which is not a failure.
-/

namespace CrdBindings
set_option autoImplicit false

/-- How the documents of a provider are addressed. -/
inductive Provider where
  /-- Repositories on GitHub, served as raw documents by doc.crds.dev. -/
  | crdsDev
deriving DecidableEq, Repr

namespace Provider

/-- The provider of a name, in any letter case. -/
def ofName? (name : String) : Option Provider :=
  if Text.lowerAscii name = "github" then some crdsDev else none

def crdsDevBase : String := "https://doc.crds.dev/raw/github.com"

/-- The version that a fragment selects: among the releases of the repository when it is registered,
and as it stands otherwise. -/
def pin (fragment : Fragment) (known : Option (List Version)) : Except Failure Version :=
  match known with
  | some releases => fragment.select releases
  | none => fragment.assume

def address (provider : Provider) (r : Reference) (catalog : Catalog) : Except Failure String :=
  match provider with
  | crdsDev =>
    let base := s!"{crdsDevBase}/{r.account}/{r.repo}"
    match r.version with
    | none => .ok base
    | some fragment =>
      match pin fragment (catalog.releases? r.repository) with
      | .ok v => .ok (s!"{base}@v" ++ v.text)
      | .error failure => .error failure

end Provider

namespace Reference

/-- The address of a reference, if its provider is known. -/
def resolve (r : Reference) (catalog : Catalog) : Except Failure (Option String) :=
  match Provider.ofName? r.provider with
  | some provider => (provider.address r catalog).map some
  | none => .ok none

def resolveText (input : String) (catalog : Catalog) : Except Failure (Option String) :=
  match parse input with
  | .ok r => r.resolve catalog
  | .error failure => .error failure

/-- The address of a reference where no release is known; every failure is a miss. -/
def directAddress? (input : String) : Option String :=
  match resolveText input .empty with
  | .ok address => address
  | .error _ => none

end Reference
end CrdBindings
