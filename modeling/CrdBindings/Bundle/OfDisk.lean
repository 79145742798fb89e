import CrdBindings.Bundle.OfText
import CrdBindings.Disk

/-!
Bundles in files.
-/

namespace CrdBindings.Bundle
set_option autoImplicit false

def ofDisk (d : Disk) (path : String) : Except Failure (List Definition) :=
  match d.read path with
  | .ok text => ofText text
  | .error fault => .error (.parse s!"Failed to read CRD file {path}: {fault.message}")

end CrdBindings.Bundle
