import CrdBindings.Text.Blank
import CrdBindings.Text.LetterCase
import CrdBindings.Text.Percent
import CrdBindings.Url.Ip4
import CrdBindings.Url.Ip6
import CrdBindings.Url.Punycode

/-!
Hosts of addresses: names in ASCII form, and numeric addresses. A name is in lower case; a label with
other characters than ASCII is written in Punycode.
-/

namespace CrdBindings.Url
set_option autoImplicit false

inductive Fault where
  | emptyHost
  | port
  | ip4
  | ip6
  | domain
deriving DecidableEq, Repr

def Fault.message : Fault → String
  | emptyHost => "empty host"
  | port => "invalid port number"
  | ip4 => "invalid IPv4 address"
  | ip6 => "invalid IPv6 address"
  | domain => "invalid international domain name"

inductive Host where
  | domain (name : String)
  | ip4 (address : Nat)
  | ip6 (groups : List Nat)
deriving DecidableEq, Repr

namespace Host

def text : Host → String
  | domain name => name
  | ip4 address => Ip4.text address
  | ip6 groups => "[" ++ Ip6.text groups ++ "]"

/-- The ASCII characters that no name holds. -/
def isForbidden (c : Char) : Bool :=
  c.toNat ≤ 0x20 || c.toNat == 0x7f || "%#/:<>?@[\\]^|".toList.contains c

/-- The characters that do not count in a name. -/
def ignored : List Char := ['\u00ad', '\u200b', '\u2060', '\ufeff']

/-- A variant of a character that does not count in a name. -/
def isVariantMark (c : Char) : Bool :=
  (0x180b ≤ c.toNat && c.toNat ≤ 0x180f) || (0xfe00 ≤ c.toNat && c.toNat ≤ 0xfe0f)

/-- The form of a character in names: full width becomes plain, a capital becomes small, a full stop
of any kind becomes a point. -/
def nameForm (c : Char) : List Char :=
  if ignored.contains c || isVariantMark c then []
  else if c = '。' || c = '｡' then ['.']
  else if c = 'ẞ' then ['s', 's']
  else if 0xff01 ≤ c.toNat && c.toNat ≤ 0xff5e then [(Char.ofNat (c.toNat - 0xfee0)).toLower]
  else Text.lowerChar c

def isAscii (c : Char) : Bool := c.toNat < 0x80

/-- Whether a label that starts as Punycode is the form of a name. -/
def isEncodedLabel (label : List Char) : Bool :=
  match Punycode.decode label with
  | some cs => cs.any (!isAscii ·) && cs.flatMap nameForm == cs && Punycode.encode cs == label
  | none => false

def labelForm? (label : List Char) : Option (List Char) :=
  if "xn--".toList.isPrefixOf label then
    if label.all isAscii && isEncodedLabel (label.drop 4) then some label else none
  else if label.all isAscii then some label
  else if label.any Text.isBlank then none
  else some ("xn--".toList ++ Punycode.encode label)

def asciiForm? (cs : List Char) : Option (List Char) := do
  let labels ← (Text.splitAtChar '.' (cs.flatMap nameForm)).mapM labelForm?
  let name := List.intercalate ['.'] labels
  if name.any isForbidden then none else some name

/-- Reads a name that may hold escapes; one that ends in a number is a numeric address. -/
def readName (cs : List Char) : Except Fault Host :=
  match (Text.charsOf? (Text.percentDecode cs)).bind asciiForm? with
  | none => .error .domain
  | some [] => .error .emptyHost
  | some name =>
    if Ip4.isMeant name then
      match Ip4.read? name with
      | some address => .ok (.ip4 address)
      | none => .error .ip4
    else .ok (.domain (String.ofList name))

/-- Reads a host: groups in brackets, or a name. -/
def read (cs : List Char) : Except Fault Host :=
  match cs with
  | '[' :: rest =>
    match if rest.getLast? = some ']' then Ip6.read? rest.dropLast else none with
    | some groups => .ok (.ip6 groups)
    | none => .error .ip6
  | cs => readName cs

end Host
end CrdBindings.Url
