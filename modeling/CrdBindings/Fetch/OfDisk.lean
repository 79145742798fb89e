import CrdBindings.Disk
import CrdBindings.Fetch
import CrdBindings.Url.OfText

/-!
Documents on a disk. An address of the scheme `file` names a path by its octets; any other text that
is no web address is a path itself.
-/

namespace CrdBindings
set_option autoImplicit false

/-- Whether a text starts with another one that is in lower case, in any letter case. -/
def startsWithAnyCase (start text : String) : Bool :=
  start.toList.isPrefixOf (Text.lowerAscii text).toList

/-- The path of a local file that an address names: the path may be no text, and a foreign address
names none. -/
def localPath? (url : String) : Option (Option String) :=
  if startsWithAnyCase "file://" url then
    match Url.read? url with
    | some (.ok u) => u.filePath?.map fun octets => (Text.charsOf? octets).map String.ofList
    | _ => none
  else some (some url)

def Disk.reply (d : Disk) (url : String) : Reply :=
  match localPath? url with
  | none => .refused "not a local file URL"
  | some none => .refused "file not found"
  | some (some path) =>
    match d.read path with
    | .ok content => .document content
    | .error .notFound => .refused "file not found"
    | .error fault => .refused fault.message

/-- The origin of documents on a disk; nothing else can be reached. -/
def Disk.origin (d : Disk) : Origin := fun url =>
  if startsWithAnyCase "http://" url || startsWithAnyCase "https://" url then
    .refused s!"error sending request for url ({url})"
  else d.reply url

end CrdBindings
