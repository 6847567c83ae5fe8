import Automation.Failure
import Automation.Http.Exchange
import Automation.Json.Writer

/-!
# Responses of the service

A response has a status, a body and headers.  Everything that goes wrong is told in one form: a
code, a message and details.  An error of the engine has the status of its code, and any other
fault is an internal error whose text is told only where debugging is on.

A JSON body has no numbers without digits: a successful answer shows them as null, and an error that
would have to show one is an internal error.  An answer that would hold half a pair, or a value that
nests too deep, is an internal error too.
-/

namespace Automation.Api

/-- The body of a response. -/
inductive Body where
  /-- No body. -/
  | empty
  /-- A JSON value. -/
  | json (v : Value)
  /-- A text. -/
  | text (s : String)
deriving Repr

/-- A response. -/
structure Response where
  /-- The status. -/
  status : Int
  /-- The body. -/
  body : Body
  /-- The headers, with names in lower case. -/
  headers : List (String × String) := []
deriving Repr

namespace Response

/-- The value of a header. -/
def header? (r : Response) (name : String) : Option String :=
  (r.headers.find? (·.1 == name)).map (·.2)

/-- The number of octets of a text, as a header tells it. -/
def lengthHeader (s : String) : String × String := ("content-length", toString s.utf8ByteSize)

/-- A response with a JSON body, whose text has some layout. -/
def json (layout : Json.Layout) (status : Int) (v : Value) : Response :=
  { status
    body := .json v
    headers := [lengthHeader (Json.write layout v), ("content-type", "application/json")] }

/-- A response with a text. -/
def plain (status : Int) (s : String) : Response :=
  { status
    body := .text s
    headers := [lengthHeader s, ("content-type", "text/plain; charset=utf-8")] }

/-- A response without a body. -/
def bare (status : Int) : Response := { status, body := .empty }

/-- A response that sends the caller to another address. -/
def redirect (address : String) : Response :=
  { bare 307 with headers := [lengthHeader "", ("location", address)] }

/-! ## Errors -/

/-- The body of an error. -/
def errorBody (code message details : Value) : Value :=
  .mapping [("error", code), ("message", message), ("details", details)]

/-- An internal error, with its text where debugging is on. -/
def internal (debug : Bool) (f : Failure) : Response :=
  .json Json.compactLayout 500 <| errorBody (.text "INTERNAL_ERROR")
    (.text (if debug then f.text else "Internal server error")) .null

/-- The statuses of the codes of errors. -/
def codeStatuses : List (String × Int) :=
  [("RESOURCE_NOT_FOUND", 404), ("VALIDATION_ERROR", 400), ("ACTION_EXECUTION_ERROR", 502),
    ("TRANSIENT_COLLABORATOR_ERROR", 503), ("SERVICE_UNAVAILABLE", 503)]

/-- The status of the code of an error. -/
def codeStatus (code : Value) : Except Fault Int := do
  match ← code.key with
  | .text s => return ((codeStatuses.find? (·.1 == s)).map (·.2)).getD 400
  | _ => return 400

/-- An error, or an internal error if its body cannot be written. -/
def error (debug : Bool) (status : Int) (v : Value) : Response :=
  match Http.jsonContent v with
  | .ok _ => .json Json.compactLayout status v
  | .error f => internal debug (.fault f)

/-- The response to a failure. -/
def ofFailure (debug : Bool) : Failure → Response
  | .engine e =>
    match codeStatus e.code with
    | .ok status => error debug status (errorBody e.code e.message e.details)
    | .error f => internal debug (.fault f)
  | .fault f => internal debug (.fault f)

/-- The usual phrases of statuses. -/
def phrases : List (Int × String) :=
  [(100, "Continue"), (101, "Switching Protocols"), (102, "Processing"), (103, "Early Hints"),
    (200, "OK"), (201, "Created"), (202, "Accepted"), (203, "Non-Authoritative Information"),
    (204, "No Content"), (205, "Reset Content"), (206, "Partial Content"), (207, "Multi-Status"),
    (208, "Already Reported"), (226, "IM Used"), (300, "Multiple Choices"),
    (301, "Moved Permanently"), (302, "Found"), (303, "See Other"), (304, "Not Modified"),
    (305, "Use Proxy"), (307, "Temporary Redirect"), (308, "Permanent Redirect"),
    (400, "Bad Request"), (401, "Unauthorized"), (402, "Payment Required"), (403, "Forbidden"),
    (404, "Not Found"), (405, "Method Not Allowed"), (406, "Not Acceptable"),
    (407, "Proxy Authentication Required"), (408, "Request Timeout"), (409, "Conflict"),
    (410, "Gone"), (411, "Length Required"), (412, "Precondition Failed"),
    (413, "Request Entity Too Large"), (414, "Request-URI Too Long"),
    (415, "Unsupported Media Type"), (416, "Requested Range Not Satisfiable"),
    (417, "Expectation Failed"), (418, "I'm a Teapot"), (421, "Misdirected Request"),
    (422, "Unprocessable Entity"), (423, "Locked"), (424, "Failed Dependency"), (425, "Too Early"),
    (426, "Upgrade Required"), (428, "Precondition Required"), (429, "Too Many Requests"),
    (431, "Request Header Fields Too Large"), (451, "Unavailable For Legal Reasons"),
    (500, "Internal Server Error"), (501, "Not Implemented"), (502, "Bad Gateway"),
    (503, "Service Unavailable"), (504, "Gateway Timeout"), (505, "HTTP Version Not Supported"),
    (506, "Variant Also Negotiates"), (507, "Insufficient Storage"), (508, "Loop Detected"),
    (510, "Not Extended"), (511, "Network Authentication Required")]

/-- The usual phrase of a status. -/
def phrase? (status : Int) : Option String := (phrases.find? (·.1 == status)).map (·.2)

/-- An error of the protocol with a message. -/
def protocolError (debug : Bool) (status : Int) (message : Value) : Response :=
  error debug status (errorBody (.text "HTTP_ERROR") message .null)

/-- An error of the protocol with a message, or else with the usual phrase of its status; a status
without a phrase needs a message. -/
def ofProtocol (debug : Bool) (status : Int) (message : Value) : Response :=
  match message, phrase? status with
  | .null, some s => protocolError debug status (.text s)
  | .null, none =>
    internal debug (.fault (.withText .value (toString status ++ " is not a valid HTTPStatus")))
  | message, _ => protocolError debug status message

/-- An error of the protocol with the usual phrase of its status. -/
def ofStatus (status : Int) : Response :=
  protocolError false status (.text ((phrase? status).getD ""))

/-! ## Answers -/

mutual

/-- A value that JSON can show: null in the place of numbers without digits. -/
def showable : Value → Value
  | .float x => if x.isFinite then .float x else .null
  | .list xs => .list (showableItems xs)
  | .tuple xs => .list (showableItems xs)
  | .mapping m => .mapping (showableEntries m)
  | v => v

/-- Items that JSON can show. -/
def showableItems : List Value → List Value
  | [] => []
  | v :: rest => showable v :: showableItems rest

/-- Entries that JSON can show. -/
def showableEntries : List (Key × Value) → List (Key × Value)
  | [] => []
  | (k, v) :: rest => (k, showable v) :: showableEntries rest

end

mutual

/-- How many values are inside each other. -/
def depth : Value → Nat
  | .list xs => itemsDepth xs + 1
  | .tuple xs => itemsDepth xs + 1
  | .mapping m => entriesDepth m + 1
  | _ => 1

/-- How many values are inside each other in a sequence. -/
def itemsDepth : List Value → Nat
  | [] => 0
  | v :: rest => max (depth v) (itemsDepth rest)

/-- How many values are inside each other in a mapping. -/
def entriesDepth : List (Key × Value) → Nat
  | [] => 0
  | (_, v) :: rest => max (depth v) (entriesDepth rest)

end

/-- How many values may be inside each other in what callers gave and are shown again. -/
def depthLimit : Nat := 255

/-- The fault of an answer that nests too deep. -/
def depthFault : Fault :=
  .withText .value "Circular reference detected (depth exceeded)"

/-- A successful answer, in which what callers gave stands inside `frame` values. -/
def answer (debug : Bool) (frame : Nat) (status : Int) (v : Value) : Response :=
  let v := showable v
  if frame + depthLimit < depth v then internal debug (.fault depthFault)
  else
    match Http.checkWhole (Json.write Json.briefLayout v) with
    | .ok _ => .json Json.briefLayout status v
    | .error f => internal debug (.fault f)

/-- The answer to what came of a request. -/
def ofResult (debug : Bool) (frame : Nat) (status : Int) (r : Except Failure Value) : Response :=
  match r with
  | .ok v => answer debug frame status v
  | .error f => ofFailure debug f

end Response

end Automation.Api
