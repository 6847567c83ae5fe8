import Automation.Http.Url
import Automation.Json.Content
import Automation.Json.Writer
import Automation.Number.Shortest
import Automation.Text.Case

/-!
# HTTP exchanges

One exchange sends a request and takes what comes back (`request`, `Answer.receive`).
A mapping or a list goes out as compact JSON, any other body as the text that displays it.  An
answer with content is read as JSON where it is JSON and is a text otherwise.

Statuses are answers, whatever they are.  A transport that fails, in time or altogether, is an
error of a collaborator that may pass.  A request that cannot be made fails before it is sent.
-/

namespace Automation.Http

/-- A request as it is sent. -/
structure Request where
  /-- The method. -/
  method : String
  /-- The URL. -/
  url : String
  /-- The headers, with names in lower case. -/
  headers : List (String × String)
  /-- The content. -/
  content : String
  /-- Whether the URL tells no host. -/
  isRelative : Bool := false
deriving Repr, DecidableEq

/-- What a transport does with a request: it answers, or it fails. -/
structure Answer where
  /-- The status. -/
  status : Int := 200
  /-- The content. -/
  content : String := ""
  /-- The name of the way in which the transport fails. -/
  failure : Option String := none
  /-- The seconds by which the clock of durations goes on. -/
  elapse : Double := .zero
deriving Repr, Inhabited

/-- A response as it is read. -/
structure Response where
  /-- The status. -/
  status : Int
  /-- The body, null if there is none. -/
  body : Value
deriving Repr

/-! ## Headers -/

/-- A header added; one that is there already has both values. -/
def addHeader (name value : String) : List (String × String) → List (String × String)
  | [] => [(name, value)]
  | (n, v) :: rest =>
    if n = name then (n, v ++ ", " ++ value) :: rest else (n, v) :: addHeader name value rest

/-- A header in the place of any other of its name. -/
def setHeader (name value : String) (hs : List (String × String)) : List (String × String) :=
  hs.filter (·.1 != name) ++ [(name, value)]

/-- Whether there is a header of a name. -/
def hasHeader (name : String) (hs : List (String × String)) : Bool := hs.any (·.1 == name)

/-- The fault of a text with characters that an encoding does not have, from the first run of
them. -/
def encodingFault (encoding reason : String) (has : Char → Bool) (cs : List Char) : Fault :=
  let start := (cs.takeWhile has).length
  let run := (cs.drop start).takeWhile fun c => !has c
  let place :=
    match run with
    | [c] =>
      "character '" ++ String.ofList (Text.codePointEscape ((Text.half? c).getD c.toNat))
        ++ s!"' in position {start}"
    | _ => s!"characters in position {start}-{start + run.length - 1}"
  .withText .encoding ("'" ++ encoding ++ "' codec can't encode " ++ place ++ ": " ++ reason)

/-- A character of ASCII. -/
def isAscii (c : Char) : Bool := c.toNat < 0x80

/-- A text that is ASCII. -/
def checkAscii (s : String) : Except Fault String :=
  if s.toList.all isAscii then .ok s
  else .error (encodingFault "ascii" "ordinal not in range(128)" isAscii s.toList)

/-- A character that is no half of a pair. -/
def isWholeChar (c : Char) : Bool := (Text.half? c).isNone

/-- A text that is one of Unicode. -/
def checkWhole (s : String) : Except Fault String :=
  if s.toList.all isWholeChar then .ok s
  else .error (encodingFault "utf-8" "surrogates not allowed" isWholeChar s.toList)

/-- The headers as they are sent. -/
def readHeaders : List (String × String) → Except Fault (List (String × String))
  | [] => .ok []
  | (name, value) :: rest => do
    let name ← checkAscii name
    let value ← checkAscii value
    return (String.ofList (name.toList.map Char.toLower), value) :: (← readHeaders rest)

/-- The digit of six bits in base 64. -/
def base64Digit (n : Nat) : Char :=
  if n < 26 then Char.ofNat (65 + n)
  else if n < 52 then Char.ofNat (71 + n)
  else if n < 62 then Char.ofNat (n - 4)
  else if n = 62 then '+'
  else '/'

/-- Octets in base 64. -/
def base64 : List Nat → List Char
  | [] => []
  | [a] => [base64Digit (a / 4), base64Digit (a % 4 * 16), '=', '=']
  | [a, b] =>
    [base64Digit (a / 4), base64Digit (a % 4 * 16 + b / 16), base64Digit (b % 16 * 4), '=']
  | a :: b :: c :: rest =>
    base64Digit (a / 4) :: base64Digit (a % 4 * 16 + b / 16)
      :: base64Digit (b % 16 * 4 + c / 64) :: base64Digit (c % 64) :: base64 rest

/-- The credentials of a user and a password, unless both are empty. -/
def basicCredentials? (userInfo : String) : Option String :=
  let (user, password) := Text.cutAt ':' userInfo.toList
  let user := Text.Percent.decode user
  let password := Text.Percent.decode (password.getD [])
  let plain := user ++ ':' :: password
  if user.isEmpty && password.isEmpty then none
  else some ("Basic "
    ++ String.ofList (base64 ((plain.flatMap String.utf8EncodeChar).map UInt8.toNat)))

/-! ## The request -/

/-- The JSON text of a value, without halves of pairs. -/
def jsonContent (v : Value) : Except Fault String := do
  checkWhole (← (Json.text Json.compactLayout v).mapError FormatError.fault)

/-- The content of a body, and whether it is JSON. -/
def contentOf (body : Value) : Except Fault (String × Bool) :=
  match body with
  | .null => .ok ("", false)
  | .list _ | .mapping _ => do return (← jsonContent body, true)
  | v => do return (← checkWhole (← v.shown.mapError FormatError.fault), false)

/-- The request of a call. -/
def request (url method : String) (headers : List (String × String)) (body : Value) :
    Except Fault Request := do
  let target ← Url.read url
  let headers := (← readHeaders headers).foldl (fun hs h => addHeader h.1 h.2 hs) []
  let (content, isJson) ← contentOf body
  let headers :=
    if isJson && !hasHeader "content-type" headers then
      setHeader "content-type" "application/json" headers
    else headers
  discard (checkAscii target.address)
  let headers :=
    match basicCredentials? target.userInfo with
    | some credentials => setHeader "authorization" credentials headers
    | none => headers
  return { method := Text.upper method, url := target.text, headers, content,
           isRelative := target.isRelative }

/-! ## The answer -/

/-- The failures that are timeouts. -/
def timeoutNames : List String := ["ReadTimeout", "ConnectTimeout", "WriteTimeout", "PoolTimeout"]

/-- The error of a transport that fails in a way. -/
def transportError (name url : String) (timeout : Number) : EngineError :=
  let what :=
    if timeoutNames.contains name then "timed out after " ++ timeout.shortText ++ "s" else name
  .collaborator (.text "http") (.text (what ++ " calling " ++ url))

/-- The fault of a content that nests too deep. -/
def depthFault : Fault :=
  .withText .recursion "maximum recursion depth exceeded while decoding a JSON text"

/-- The body that a content is: a text where it is no JSON. -/
def bodyOf (content : String) : Except Fault Value :=
  if content.isEmpty then .ok .null
  else
    match Json.readContent content with
    | .ok v => .ok v
    | .error (.unreadable .tooDeep) => .error depthFault
    | .error _ => .ok (.text content)

/-- What comes of an answer to a request for a URL. -/
def Answer.receive (a : Answer) (url : String) (timeout : Number) : Except Failure Response :=
  match a.failure, bodyOf a.content with
  | some name, _ => .error (.engine (transportError name url timeout))
  | none, .ok body => .ok ⟨a.status, body⟩
  | none, .error f => .error (.fault f)

/-- The fault of an answer to a request whose URL tells no host. -/
def relativeFault (url : String) : Fault :=
  .withText .value ("unknown url type: " ++ Text.quoted url)

/-- An exchange: the request that was sent, if one was, and what came back. -/
structure Exchange where
  /-- The request. -/
  sent : Option Request
  /-- The response, or the failure. -/
  result : Except Failure Response

/-- The exchange of a call, given how the transport would answer. -/
def exchange (url method : String) (headers : List (String × String)) (body : Value)
    (timeout : Number) (answer : Answer) : Exchange :=
  match request url method headers body with
  | .error f => ⟨none, .error (.fault f)⟩
  | .ok r =>
    if r.isRelative && answer.failure.isNone then
      ⟨some r, .error (.fault (relativeFault r.url))⟩
    else ⟨some r, answer.receive url timeout⟩

end Automation.Http
