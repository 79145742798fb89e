import CrdBindings.Bundle
import CrdBindings.Failure
import CrdBindings.Yaml.Value

/-!
Bundles as text: a sequence of YAML documents. A document that cannot be read refuses the bundle. The
text of the failure has the number of the document; the reason that a YAML library puts behind it, after
a colon, is left out.
-/

namespace CrdBindings.Bundle
set_option autoImplicit false

/-- The definitions of a bundle in document order. -/
def ofText (text : String) : Except Failure (List Definition) :=
  match Yaml.values text with
  | .ok documents => .ok (all documents)
  | .error n => .error (.parse s!"Invalid YAML in document {n}")

end CrdBindings.Bundle
