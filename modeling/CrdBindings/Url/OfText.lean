import CrdBindings.Url

/-!
Reading addresses. Controls and spaces at the ends, and tabs and line breaks anywhere, do not count; a
backslash counts as a slash. What is read is in the one form in which addresses are written.
-/

namespace CrdBindings.Url
set_option autoImplicit false

/-- The characters that are escaped in a fragment, besides those that are escaped everywhere. -/
def fragmentSet : List Char := [' ', '"', '<', '>', '\x60']

def pathSet : List Char := fragmentSet ++ ['#', '?', '\x7b', '\x7d']

def credentialsSet : List Char := pathSet ++ "/:;=@[\\]^|".toList

def querySet : List Char := [' ', '"', '#', '<', '>', '\'']

def escaped (set : List Char) (cs : List Char) : String := String.ofList (Text.percentEncode set cs)

/-- Removes what does not count in a text. -/
def essential (cs : List Char) : List Char :=
  let isMargin (c : Char) : Bool := c.toNat ≤ 0x20
  let inner := ((cs.dropWhile isMargin).reverse.dropWhile isMargin).reverse
  inner.filter fun c => !(c == '\t' || c == '\n' || c == '\r')

def isSlash (c : Char) : Bool := c == '/' || c == '\\'

def endsAuthority (c : Char) : Bool := isSlash c || c == '?' || c == '#'

def splitPath : List Char → List (List Char)
  | [] => [[]]
  | c :: cs =>
    if isSlash c then [] :: splitPath cs
    else
      match splitPath cs with
      | segment :: segments => (c :: segment) :: segments
      | [] => [[c]]

/-- The spellings of a single dot. -/
def isDot (segment : String) : Bool := segment == "." || segment.toLower == "%2e"

/-- The spellings of two dots. -/
def isDoubleDot (segment : String) : Bool :=
  [".." , "%2e%2e", "%2e.", ".%2e"].contains segment.toLower

/-- Leaves the last segment, unless it is a drive. -/
def leave : List String → List String
  | segment :: below => if isDrive segment.toList then segment :: below else below
  | [] => []

/-- A segment; a drive at the start of a file path has a colon. -/
def settle (isFile : Bool) (below : List String) (segment : String) : String :=
  if isFile && below.isEmpty && isDrive segment.toList then
    String.ofList (segment.toList.take 1 ++ [':'])
  else segment

/-- Walks along a path: the segments that remain, in reverse. Dots at the end leave an empty one. -/
def walk (isFile : Bool) (below : List String) : List String → List String
  | [] => below
  | [last] =>
    if isDoubleDot last then "" :: leave below
    else if isDot last then "" :: below
    else settle isFile below last :: below
  | segment :: segments =>
    if isDoubleDot segment then walk isFile (leave below) segments
    else if isDot segment then walk isFile below segments
    else walk isFile (settle isFile below segment :: below) segments

/-- The segments of a path without dots. -/
def pathOf (isFile : Bool) (cs : List Char) : List String :=
  (walk isFile [] ((splitPath cs).map (escaped pathSet))).reverse

def withoutEmptyStart (segments : List String) : List String :=
  match segments.dropWhile (·.isEmpty) with
  | [] => [""]
  | rest => rest

/-- The query and the fragment behind a path. -/
def tailOf (cs : List Char) : Option String × Option String :=
  let query := cs.takeWhile (· != '#')
  let fragment :=
    match cs.dropWhile (· != '#') with
    | _ :: rest => some (escaped fragmentSet rest)
    | [] => none
  match query with
  | _ :: rest => (some (escaped querySet rest), fragment)
  | [] => (none, fragment)

/-- The path of a text behind its host, and what follows the path. -/
def splitTail (cs : List Char) : List Char × List Char :=
  let inPath (c : Char) : Bool := c != '?' && c != '#'
  (cs.takeWhile inPath, cs.dropWhile inPath)

/-- The part of an authority in front of its last `@`, and the part behind. -/
def splitCredentials (cs : List Char) : List Char × List Char :=
  let host := (cs.reverse.takeWhile (· != '@')).reverse
  (cs.take (cs.length - host.length - 1), host)

/-- Name and password; a password that is empty is left out. -/
def credentialsOf (cs : List Char) : Option String :=
  let name := escaped credentialsSet (cs.takeWhile (· != ':'))
  let password := (cs.dropWhile (· != ':')).drop 1
  let text := if password.isEmpty then name else name ++ ":" ++ escaped credentialsSet password
  if text.isEmpty then none else some text

/-- The host, up to a colon outside of brackets, and what follows it. -/
def splitHost (inBrackets : Bool) : List Char → List Char × List Char
  | [] => ([], [])
  | c :: cs =>
    if c = ':' && !inBrackets then ([], c :: cs)
    else
      let (host, rest) := splitHost (if c = '[' then true else if c = ']' then false else inBrackets) cs
      (c :: host, rest)

/-- The port behind a host, unless the scheme has it anyway. -/
def portOf (scheme : Scheme) (cs : List Char) : Except Fault (Option Nat) :=
  let digits := cs.drop 1
  if !digits.all Char.isDigit || 65535 < Text.ofDigits 10 digits then .error .port
  else if digits.isEmpty || some (Text.ofDigits 10 digits) = scheme.port? then .ok none
  else .ok (some (Text.ofDigits 10 digits))

def readWeb (scheme : Scheme) (cs : List Char) : Except Fault Url := do
  let (user, authority) := splitCredentials (cs.takeWhile (!endsAuthority ·))
  let (hostChars, portChars) := splitHost false authority
  if hostChars.isEmpty then throw .emptyHost
  let host ← Host.read hostChars
  let port ← portOf scheme portChars
  let (path, tail) := splitTail (cs.dropWhile (!endsAuthority ·))
  let (query, fragment) := tailOf tail
  return ⟨scheme, credentialsOf user, host, port, pathOf false (path.drop 1), query, fragment⟩

/-- The host of a file address: none for the local machine. -/
def fileHost (cs : List Char) : Except Fault (Option Host) :=
  if cs.isEmpty then .ok none
  else
    match Host.read cs with
    | .ok host => .ok (if host = .domain "localhost" then none else some host)
    | .error fault => .error fault

/-- Reads what follows the two slashes of a file address. A drive may stand in place of a host, and a
path that starts with a drive has none. -/
def readFile (cs : List Char) : Except Fault Url := do
  let name := cs.takeWhile (!endsAuthority ·)
  let startsWithDrive := isDrive name
  let host ← fileHost (if startsWithDrive then [] else name)
  let (path, tail) := splitTail (if startsWithDrive then cs else cs.drop name.length)
  let (query, fragment) := tailOf tail
  let segments := pathOf true (if host.isSome then path.drop 1 else path)
  let host := if (segments.head?.map (isDrive ·.toList)).getD false then none else host
  return ⟨.file, none, host, none, withoutEmptyStart segments, query, fragment⟩

/-- Reads an address. Nothing if it has none of the schemes. -/
def read? (text : String) : Option (Except Fault Url) :=
  let cs := essential text.toList
  let scheme := Text.lowerAscii (String.ofList (cs.takeWhile (· != ':')))
  let rest := (cs.dropWhile (· != ':')).drop 1
  if scheme = "http" then some (readWeb .http (rest.dropWhile isSlash))
  else if scheme = "https" then some (readWeb .https (rest.dropWhile isSlash))
  else if scheme = "file" then some (readFile (rest.drop 2))
  else none

end CrdBindings.Url
