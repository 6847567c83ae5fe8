import Automation.Failure
import Automation.Http.Address
import Automation.Http.Domain
import Automation.Text.Case
import Automation.Text.Percent
import Automation.Text.Split
import Automation.Value.Conversion

/-!
# URLs

A URL is read into its parts and written in its usual form: scheme and host in lower case, the host
in ASCII, no port where the port is the usual one of the scheme, no dot segments in the path, and
the characters that a part may not hold percent-encoded.  Octets that are encoded already stay.

A URL without a scheme or a host is relative: only path and query of it count, and its path begins
at the root.  Dot segments stay in a path with nothing before it.
-/

namespace Automation.Http

/-- The parts of a URL in their usual form. -/
structure Url where
  /-- The scheme; empty for a relative URL. -/
  scheme : String
  /-- The user, and after a colon the password, as they are encoded. -/
  userInfo : String
  /-- The host; an address of groups goes without its brackets. -/
  host : String
  /-- The port unless it is the usual one. -/
  port : Option Int
  /-- The path. -/
  path : String
  /-- The query, if there is one. -/
  query : Option String
  /-- The fragment, if there is one. -/
  fragment : Option String
deriving Repr, DecidableEq

namespace Url

/-! ## The characters of the parts -/

/-- A printable character of ASCII other than those listed. -/
def printableExcept (excluded : String) (c : Char) : Bool :=
  0x20 < c.toNat && c.toNat < 0x7F && !excluded.toList.contains c

/-- What a path may hold. -/
def pathSafe : Char → Bool := printableExcept "\"#<>?`\x7b\x7d"

/-- What a query may hold. -/
def querySafe : Char → Bool := printableExcept "\"#<>"

/-- What a fragment may hold. -/
def fragmentSafe : Char → Bool := printableExcept "\"<>`"

/-- What a user and a password may hold. -/
def userSafe : Char → Bool := printableExcept "\"#<>?`\x7b\x7d/;=@[\\]^|"

/-- What a host may hold. -/
def hostSafe (c : Char) : Bool :=
  Text.Percent.isUnreserved c || "!$&'()*+,;=\"`\x7b\x7d%|\\".toList.contains c

/-- A part with the characters it may not hold encoded. -/
def encodePart (safe : Char → Bool) (cs : List Char) : String :=
  String.ofList (Text.Percent.encodeKeeping safe cs)

/-! ## Dot segments -/

/-- The segments of a path with the dot segments resolved; `taken` holds those before, the latest
first.  Going up from the root stays there. -/
def resolveDots (taken : List (List Char)) : List (List Char) → List (List Char)
  | [] => taken.reverse
  | segment :: rest =>
    if segment = ['.'] then resolveDots taken rest
    else if segment = ['.', '.'] then
      resolveDots (if taken = [[]] then taken else taken.tail) rest
    else resolveDots (segment :: taken) rest

/-- Segments with a slash between them. -/
def joinSegments : List (List Char) → List Char
  | [] => []
  | [s] => s
  | s :: rest => s ++ '/' :: joinSegments rest

/-- A path without dot segments. -/
def normalPath (cs : List Char) : List Char :=
  joinSegments (resolveDots [] (Text.splitOn '/' cs))

/-! ## Reading -/

/-- A fault of a URL. -/
def fault (message : String) : Fault := .withText .url message

/-- The usual ports of schemes. -/
def usualPorts : List (String × Int) :=
  [("ftp", 21), ("http", 80), ("https", 443), ("ws", 80), ("wss", 443)]

/-- The port of an authority; the usual one is left out where the scheme is in lower case. -/
def readPort (scheme : String) (cs : List Char) : Except Fault (Option Int) :=
  if cs.isEmpty then .ok none
  else
    match integerNumeral? (asciiDigits (Text.trimChars cs)) with
    | some n => .ok (if usualPorts.contains (scheme, n) then none else some n)
    | none => .error (fault ("Invalid port: " ++ Text.quoted (String.ofList cs)))

/-- A name as a fault tells it. -/
def told (kind : String) (cs : List Char) : Fault :=
  fault ("Invalid " ++ kind ++ ": " ++ Text.quoted (String.ofList cs))

/-- The host that a text names: an address, or a name in ASCII. -/
def readHost (cs : List Char) : Except Fault String :=
  if Address.looksLikeQuad cs then
    if Address.isQuad cs then .ok (String.ofList cs) else .error (told "IPv4 address" cs)
  else if cs.head? = some '[' ∧ cs.getLast? = some ']' then
    let inner := (cs.drop 1).dropLast
    if Address.isGrouped inner then .ok (String.ofList inner) else .error (told "IPv6 address" cs)
  else if cs.all fun c => c.toNat < 0x80 then .ok (encodePart hostSafe (cs.map Char.toLower))
  else
    match Domain.toAscii? (Text.lowerChars cs) with
    | some name => .ok (String.ofList name)
    | none => .error (told "IDNA hostname" cs)

/-- The host of an authority and what follows it: brackets hold all up to the last closing one. -/
def cutHost (cs : List Char) : List Char × List Char :=
  if cs.head? = some '[' ∧ cs.contains ']' then
    let tail := (cs.reverse.takeWhile (· != ']')).length
    (cs.take (cs.length - tail), cs.drop (cs.length - tail))
  else (cs.takeWhile (· != ':'), cs.dropWhile (· != ':'))

/-- The authority of a URL: user, host and port. -/
def readAuthority (scheme : String) (cs : List Char) :
    Except Fault (String × String × Option Int) := do
  let reversed := cs.reverse
  let address := (reversed.takeWhile (· != '@')).reverse
  let user := ((reversed.dropWhile (· != '@')).drop 1).reverse
  let (host, rest) := cutHost address
  let host ← readHost host
  let port ← readPort scheme (if rest.head? = some ':' then rest.tail else rest)
  return (encodePart userSafe user, host, port)

/-- A control character of ASCII with its place. -/
def findControl (cs : List Char) : Option (Char × Nat) :=
  (cs.zipIdx).find? fun e => e.1.toNat < 0x20 || e.1.toNat == 0x7F

/-- Whether characters are a scheme, or none. -/
def isScheme (cs : List Char) : Bool :=
  cs.all (fun c => c.isAlphanum || c == '+' || c == '.' || c == '-')
    && (cs.isEmpty || cs.head?.any Char.isAlpha)

/-- The scheme in front of a text, and what follows it. -/
def cutScheme (cs : List Char) : List Char × List Char :=
  match Text.cutAt ':' cs with
  | (scheme, some rest) => if isScheme scheme then (scheme, rest) else ([], cs)
  | (_, none) => ([], cs)

/-- The path of a URL, whose dot segments are resolved unless nothing is before it. -/
def readPath (isBare : Bool) (cs : List Char) : Except Fault String :=
  if !isBare then .ok (encodePart pathSafe (normalPath cs))
  else
    match cs with
    | '/' :: '/' :: _ => .error (fault "Relative URLs cannot have a path starting with '//'")
    | ':' :: _ => .error (fault "Relative URLs cannot have a path starting with ':'")
    | cs => .ok (encodePart pathSafe cs)

/-- The most characters of a URL. -/
def lengthLimit : Nat := 65536

/-- The URL of a text. -/
def read (s : String) : Except Fault Url := do
  let cs := s.toList
  if lengthLimit < cs.length then throw (fault "URL too long")
  if let some (c, place) := findControl cs then
    throw <| fault ("Invalid non-printable ASCII character in URL, "
      ++ Text.quoted (String.ofList [c]) ++ s!" at position {place}.")
  let (schemeChars, rest) := cutScheme cs
  let (front, fragment) := Text.cutAt '#' rest
  let (front, query) := Text.cutAt '?' front
  let scheme := String.ofList schemeChars
  let (authority, path) :=
    match front with
    | '/' :: '/' :: rest => (rest.takeWhile (· != '/'), rest.dropWhile (· != '/'))
    | rest => ([], rest)
  let (userInfo, host, port) ← readAuthority scheme authority
  let isBare := scheme.isEmpty && userInfo.isEmpty && host.isEmpty && port.isNone
  let path ← readPath isBare path
  let query := query.map (encodePart querySafe)
  if scheme.isEmpty || host.isEmpty then
    let path := String.ofList ('/' :: path.toList.dropWhile (· == '/'))
    return { scheme := "", userInfo := "", host := "", port := none, path, query, fragment := none }
  else
    return { scheme := String.ofList (schemeChars.map Char.toLower), userInfo, host, port, path
             query, fragment := fragment.map (encodePart fragmentSafe) }

/-- Whether a URL tells no host. -/
def isRelative (u : Url) : Bool := u.host.isEmpty

/-! ## Writing -/

/-- Where to call: host and port. -/
def address (u : Url) : String :=
  (if u.host.contains ':' then "[" ++ u.host ++ "]" else u.host)
    ++ (match u.port with | some n => s!":{n}" | none => "")

/-- Who is called: user, host and port. -/
def authority (u : Url) : String :=
  (if u.userInfo.isEmpty then "" else u.userInfo ++ "@") ++ u.address

/-- The text of a URL. -/
def text (u : Url) : String :=
  (if u.scheme.isEmpty then "" else u.scheme ++ ":")
    ++ (if u.host.isEmpty then "" else "//" ++ u.authority)
    ++ u.path
    ++ (match u.query with | some q => "?" ++ q | none => "")
    ++ (match u.fragment with | some f => "#" ++ f | none => "")

end Url

end Automation.Http
