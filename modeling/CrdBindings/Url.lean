import CrdBindings.Url.Host

/-!
Web addresses of the schemes `http`, `https` and `file`, and the text of each in one form: scheme and
host in lower case, no port that the scheme has anyway, no segments of dots, and escapes for the
characters that may not stand bare.
-/

namespace CrdBindings
set_option autoImplicit false

namespace Url

inductive Scheme where
  | http
  | https
  | file
deriving DecidableEq, Repr

namespace Scheme

def text : Scheme → String
  | http => "http"
  | https => "https"
  | file => "file"

def port? : Scheme → Option Nat
  | http => some 80
  | https => some 443
  | file => none

end Scheme
end Url

/-- An address. The credentials, the segments of the path, the query and the fragment hold escapes. -/
structure Url where
  scheme : Url.Scheme
  credentials : Option String
  host : Option Url.Host
  port : Option Nat
  path : List String
  query : Option String
  fragment : Option String
deriving DecidableEq, Repr

namespace Url

/-- The path, with a slash in front of every segment. -/
def pathText (segments : List String) : String :=
  String.join (segments.map ("/" ++ ·))

/-- A part that is written behind a sign if it is there. -/
def marked (sign : String) (part : Option String) : String :=
  match part with
  | some text => sign ++ text
  | none => ""

def text (u : Url) : String :=
  u.scheme.text ++ "://" ++ (u.credentials.map (· ++ "@")).getD "" ++
    (u.host.map Host.text).getD "" ++ marked ":" (u.port.map toString) ++ pathText u.path ++
    marked "?" u.query ++ marked "#" u.fragment

/-- Whether a segment names a drive: a letter and a colon or a bar. -/
def isDrive : List Char → Bool
  | [letter, sign] => letter.isAlpha && (sign == ':' || sign == '|')
  | _ => false

/-- The octets of the file path that an address names, if it names a local file. A drive at the end is
a directory. -/
def filePath? (u : Url) : Option (List UInt8) :=
  if u.scheme = .file && (u.host.isNone || u.host = some (.domain "localhost")) then
    let octets := u.path.flatMap fun segment => 0x2f :: Text.percentDecode segment.toList
    match octets.reverse with
    | sign :: letter :: _ :: _ =>
      let isDrive := (sign == 0x3a || sign == 0x7c) && (Char.ofNat letter.toNat).isAlpha
      some (if isDrive then octets ++ [0x2f] else octets)
    | _ => some octets
  else none

end Url
end CrdBindings
