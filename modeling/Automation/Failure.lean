import Automation.Value.Display

/-!
# Failures

What can go wrong comes in two sorts.  An `EngineError` is an error of the automation itself: it
carries a message, a code and details for the caller.  A `Fault` is any other failure, as a
collaborator or the storage may report it: a kind and the arguments it was reported with.
A `Failure` is one or the other.

Messages and codes are texts when the automation makes the error.  A collaborator may make one
from other values, so they are values here.
-/

namespace Automation

/-! ## Errors of the engine -/

/-- The kinds of errors of the engine. -/
inductive EngineErrorKind where
  /-- An error of no particular kind. -/
  | base
  /-- A rule, a filter or a page that is not acceptable. -/
  | validation
  /-- Something that does not exist. -/
  | notFound
  /-- A side effect that cannot be performed. -/
  | action
  /-- A collaborator that times out or cannot be reached. -/
  | collaborator
  /-- A database that is needed and not configured. -/
  | database
deriving DecidableEq, Repr

/-- The name of a kind of error. -/
def EngineErrorKind.name : EngineErrorKind → String
  | .base => "BookflowException"
  | .validation => "ValidationException"
  | .notFound => "ResourceNotFoundException"
  | .action => "ActionExecutionException"
  | .collaborator => "TransientCollaboratorException"
  | .database => "SqlNotConfiguredException"

/-- An error of the engine. -/
structure EngineError where
  /-- Its kind. -/
  kind : EngineErrorKind
  /-- What happened. -/
  message : Value
  /-- A code for programs. -/
  code : Value
  /-- What it happened to. -/
  details : Value
deriving Repr

namespace EngineError

/-- An error of no particular kind; without a code it takes the name of the kind. -/
def base (message code details : Value) : EngineError :=
  ⟨.base, message, code.orElse (.text EngineErrorKind.base.name), details.orElse (.mapping [])⟩

/-- Something not acceptable, in a field if one is named. -/
def validation (message field : Value) : EngineError :=
  ⟨.validation, message, .text "VALIDATION_ERROR",
    .mapping (if field.truthy then [("field", field)] else [])⟩

/-- A resource of some type that does not exist. -/
def notFound (resourceType id : Value) : EngineError :=
  ⟨.notFound, .text (resourceType.display ++ " not found: " ++ id.display),
    .text "RESOURCE_NOT_FOUND", .mapping [("resource_type", resourceType), ("resource_id", id)]⟩

/-- A side effect of an action that cannot be performed. -/
def action (actionType message : Value) : EngineError :=
  ⟨.action, message, .text "ACTION_EXECUTION_ERROR", .mapping [("action_type", actionType)]⟩

/-- A collaborator that times out or cannot be reached. -/
def collaborator (name message : Value) : EngineError :=
  ⟨.collaborator, .text (name.display ++ ": " ++ message.display),
    .text "TRANSIENT_COLLABORATOR_ERROR", .mapping [("collaborator", name)]⟩

/-- A database that is needed and not configured. -/
def database : EngineError :=
  ⟨.database, .text "This operation requires a SQL database that is not configured.",
    .text "SERVICE_UNAVAILABLE", .mapping []⟩

end EngineError

namespace EngineErrorKind

/-- The names of the arguments that an error of a kind must be made from. -/
def needed : EngineErrorKind → List String
  | .base | .validation => ["message"]
  | .notFound => ["resource_type", "resource_id"]
  | .action => ["action_type", "message"]
  | .collaborator => ["collaborator", "message"]
  | .database => []

/-- The number of arguments that an error of a kind may be made from besides. -/
def spare : EngineErrorKind → Nat
  | .base => 2
  | .validation => 1
  | _ => 0

/-- Whether the message of an error of a kind is made from the texts of its arguments. -/
def tellsArguments : EngineErrorKind → Bool
  | .notFound | .collaborator => true
  | _ => false

/-- Things counted: the plural takes an s. -/
def counted (n : Nat) (thing : String) : String :=
  s!"{n} " ++ thing ++ (if n = 1 then "" else "s")

/-- What is said of arguments whose number does not fit the kind.  The error itself counts as an
argument where the numbers are told. -/
def arityMessage (k : EngineErrorKind) (given : Nat) : String :=
  let missing := (k.needed.drop given).map Text.quoted
  k.name ++ ".__init__() "
    ++ (if missing.isEmpty then
        (if k.spare = 0 then "takes " ++ counted (k.needed.length + 1) "positional argument"
          else s!"takes from {k.needed.length + 1} to "
            ++ counted (k.needed.length + k.spare + 1) "positional argument")
          ++ s!" but {given + 1} were given"
      else "missing " ++ counted missing.length "required positional argument" ++ ": "
        ++ " and ".intercalate missing)

end EngineErrorKind

/-- The error of a kind made from arguments, or what is said if their number does not fit. -/
def EngineError.ofArguments : EngineErrorKind → List Value → Except String EngineError
  | .base, [message] => .ok (base message .null .null)
  | .base, [message, code] => .ok (base message code .null)
  | .base, [message, code, details] => .ok (base message code details)
  | .validation, [message] => .ok (validation message .null)
  | .validation, [message, field] => .ok (validation message field)
  | .notFound, [resourceType, id] => .ok (notFound resourceType id)
  | .action, [actionType, message] => .ok (action actionType message)
  | .collaborator, [name, message] => .ok (collaborator name message)
  | .database, [] => .ok database
  | kind, arguments => .error (kind.arityMessage arguments.length)

/-! ## Other faults -/

/-- The kinds of other failures. -/
inductive FaultKind where
  /-- Something unforeseen. -/
  | runtime
  /-- A value that is not acceptable. -/
  | value
  /-- A value of the wrong sort. -/
  | type
  /-- A key that is absent. -/
  | key
  /-- A number out of range. -/
  | overflow
  /-- A wait that took too long. -/
  | timeout
  /-- An error of the operating system. -/
  | system
  /-- A row that breaks a rule of the database. -/
  | integrity
  /-- A row that the database has no form for. -/
  | statement
  /-- A URL that is not one. -/
  | url
  /-- A character that an encoding does not have. -/
  | encoding
  /-- Something that nests too deep. -/
  | recursion
deriving DecidableEq, Repr

/-- The name of a kind of failure. -/
def FaultKind.name : FaultKind → String
  | .runtime => "RuntimeError"
  | .value => "ValueError"
  | .type => "TypeError"
  | .key => "KeyError"
  | .overflow => "OverflowError"
  | .timeout => "TimeoutError"
  | .system => "OSError"
  | .integrity => "IntegrityError"
  | .statement => "StatementError"
  | .url => "InvalidURL"
  | .encoding => "UnicodeEncodeError"
  | .recursion => "RecursionError"

/-- The names of the system errors with a name of their own, by number. -/
def systemErrorNames : List (Int × String) :=
  [(1, "PermissionError"), (2, "FileNotFoundError"), (3, "ProcessLookupError"),
    (4, "InterruptedError"), (10, "ChildProcessError"), (11, "BlockingIOError"),
    (13, "PermissionError"), (17, "FileExistsError"), (20, "NotADirectoryError"),
    (21, "IsADirectoryError"), (32, "BrokenPipeError"), (103, "ConnectionAbortedError"),
    (104, "ConnectionResetError"), (108, "BrokenPipeError"), (110, "TimeoutError"),
    (111, "ConnectionRefusedError"), (114, "BlockingIOError"), (115, "BlockingIOError")]

/-- A value that has a text. -/
abbrev Sayable := { v : Value // v.hasText = true }

/-- A failure that is no error of the engine.  It can be told: what it was reported with has a text.
A failure that has none cannot be reported where it is caught; it makes another one there. -/
structure Fault where
  /-- Its kind. -/
  kind : FaultKind
  /-- What it was reported with. -/
  arguments : List Sayable
deriving Repr

/-- Several values told as one: nothing, the only one, or a tuple. -/
def argumentsText : List Value → String
  | [] => ""
  | [v] => v.display
  | vs => (Value.tuple vs).inspect

/-- Values that all have texts. -/
def sayable? : List Value → Option (List Sayable)
  | [] => some []
  | v :: rest => if h : v.hasText then (sayable? rest).map (⟨v, h⟩ :: ·) else none

/-- An error that the operating system tells: a number, a text, and up to two files. -/
structure SystemReport where
  /-- The number. -/
  number : Value
  /-- The text. -/
  message : Value
  /-- The third argument. -/
  file : Value
  /-- The fifth argument. -/
  other : Value

namespace SystemReport

/-- The report that arguments make; only two to five arguments make one. -/
def ofArguments? : List Value → Option SystemReport
  | [number, message] => some ⟨number, message, .null, .null⟩
  | [number, message, file] => some ⟨number, message, file, .null⟩
  | [number, message, file, _] => some ⟨number, message, file, .null⟩
  | [number, message, file, _, other] => some ⟨number, message, file, other⟩
  | _ => none

/-- The name of an error with a number. -/
def name? (r : SystemReport) : Option String :=
  let named (number : Int) := (systemErrorNames.find? fun e => e.1 == number).map (·.2)
  match r.number with
  | .int number => named number
  | .bool b => named (if b then 1 else 0)
  | _ => none

/-- The name of the errors whose third argument may be a number of characters. -/
def blockingName : String := "BlockingIOError"

/-- The text of the report: two files are told with an arrow between them. -/
def text (r : SystemReport) (isBlocking : Bool) : String :=
  let told := "[Errno " ++ r.number.display ++ "] " ++ r.message.display
  match r.file, r.other with
  | .null, _ => told
  | .int _, _ | .bool _, _ =>
    if isBlocking then told else told ++ ": " ++ r.file.inspect ++ otherFile
  | _, _ => told ++ ": " ++ r.file.inspect ++ otherFile
where
  /-- The second file. -/
  otherFile : String :=
    match r.other with
    | .null => ""
    | file => " -> " ++ file.inspect

end SystemReport

namespace Fault

/-- A fault of a kind with a message. -/
def withText (kind : FaultKind) (message : String) : Fault := ⟨kind, [⟨.text message, rfl⟩]⟩

/-- The values that a fault was reported with. -/
def values (f : Fault) : List Value := f.arguments.map Subtype.val

/-- The name of a fault: a system error with a number may have a name of its own. -/
def name (f : Fault) : String :=
  match f.kind, SystemReport.ofArguments? f.values with
  | .system, some r => r.name?.getD f.kind.name
  | _, _ => f.kind.name

/-- The text of a fault: its argument, an absent key being quoted; several arguments as a tuple,
those of a system error as a report. -/
def text (f : Fault) : String :=
  match f.kind, f.values, SystemReport.ofArguments? f.values with
  | .key, [v], _ => v.inspect
  | .system, _, some r => r.text (f.name == SystemReport.blockingName)
  | .timeout, _, some r => r.text false
  | _, vs, _ => argumentsText vs

/-- The largest number of characters. -/
def countLimit : Nat := Nat.pow 2 63

/-- A fault made from arguments.  The third argument of an error of a call that would block may be
a number of characters, but no fraction and no number out of range. -/
def ofArguments (kind : FaultKind) (arguments : List Sayable) : Fault :=
  let f : Fault := ⟨kind, arguments⟩
  if f.name == SystemReport.blockingName then
    match SystemReport.ofArguments? f.values with
    | some ⟨_, _, .float _, _⟩ =>
      withText .type "'float' object cannot be interpreted as an integer"
    | some ⟨_, _, .int n, _⟩ =>
      if n < -(countLimit : Int) ∨ (countLimit : Int) ≤ n then
        withText .value "cannot fit 'int' into an index-sized integer"
      else f
    | _ => f
  else f

end Fault

/-- The fault of a value that has no text. -/
def FormatError.fault (e : FormatError) : Fault :=
  match e with
  | .tooLong | .noDigits => .withText .value e.message
  | .unordered .. | .badKey _ | .noForm _ => .withText .type e.message

/-! ## Either -/

/-- An error of the engine or another fault. -/
inductive Failure where
  /-- An error of the engine. -/
  | engine (e : EngineError)
  /-- Another fault. -/
  | fault (f : Fault)
deriving Repr

namespace Failure

/-- The name of the kind of a failure. -/
def name : Failure → String
  | .engine e => e.kind.name
  | .fault f => f.name

/-- The text of a failure. -/
def text : Failure → String
  | .engine e => e.message.display
  | .fault f => f.text

/-- What the result of an action says about a failure: the message of an engine's error as it is,
and the text of a fault, or its name where the text is empty. -/
def report : Failure → Value
  | .engine e => e.message
  | .fault f => .text (if f.text.isEmpty then f.name else f.text)

/-- The failure of a kind made from arguments; arguments that do not fit make a fault of type, and
arguments without a text, where one is needed, the fault of that. -/
def ofSpec (kind : String) (arguments : List Value) : Failure :=
  let kinds := [EngineErrorKind.base, .validation, .notFound, .action, .collaborator, .database]
  match kinds.find? fun k => k.name == kind with
  | some k =>
    match EngineError.ofArguments k arguments with
    | .ok e =>
      if k.tellsArguments && !itemsHaveText arguments then .fault FormatError.tooLong.fault
      else .engine e
    | .error message => .fault (.withText .type message)
  | none =>
    let kinds := [FaultKind.runtime, .value, .type, .key, .overflow, .timeout, .system]
    match sayable? arguments with
    | some arguments =>
      .fault (.ofArguments ((kinds.find? fun k => k.name == kind).getD .runtime) arguments)
    | none => .fault FormatError.tooLong.fault

end Failure

end Automation
