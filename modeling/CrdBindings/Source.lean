import CrdBindings.Resolution
import CrdBindings.Url.OfText

/-!
What an import starts from: a symbolic reference, a web address or a file. An input is taken for a
reference if it has the form of one, for an address if it starts with a scheme, and for a file
otherwise.
-/

namespace CrdBindings
set_option autoImplicit false

inductive Source where
  | reference (reference : Reference)
  | url (url : Url)
  | file (path : String)
deriving DecidableEq, Repr

namespace Source

def text : Source → String
  | reference r => r.text
  | url u => u.text
  | file path => path

/-- The starts that make an input an address, in any letter case. -/
def urlStarts : List String := ["http://", "https://", "file://"]

def isUrl (input : String) : Bool :=
  urlStarts.any fun start => start.toList.isPrefixOf (Text.lowerAscii input).toList

/-- Reads an address; a refusal carries the input as it was given. -/
def readUrl (input trimmed : String) : Except Failure Source :=
  match Url.read? trimmed with
  | some (.ok u) => .ok (url u)
  | some (.error fault) => .error (.malformedReference input fault.message)
  | none => .ok (file trimmed)

def detect (input : String) : Except Failure Source :=
  let trimmed := Text.trimmed input
  if trimmed.isEmpty then .error (.malformedReference input "empty import source")
  else if Reference.isLikely trimmed then (Reference.parse trimmed).map reference
  else if isUrl trimmed then readUrl input trimmed
  else .ok (file trimmed)

/-- The address of the document of a source; none if no provider handles its reference. -/
def resolve (s : Source) (catalog : Catalog) : Except Failure (Option String) :=
  match s with
  | reference r => r.resolve catalog
  | url u => .ok (some u.text)
  | file path => .ok (some path)

end Source
end CrdBindings
