import CrdBindings.Catalog.OfText
import CrdBindings.Disk

/-!
Catalogs in files.
-/

namespace CrdBindings.Catalog
set_option autoImplicit false

def ofDisk (d : Disk) (path : String) : Except Failure Catalog :=
  match d.read path with
  | .ok text => ofText text
  | .error fault =>
    .error (.parse s!"Failed to read release catalog {path}: {fault.message}")

end CrdBindings.Catalog
