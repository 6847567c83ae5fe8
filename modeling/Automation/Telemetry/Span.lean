import Automation.Failure
import Automation.Text.Case

/-!
# Spans

A span tells of one operation that was carried out: its name, attributes, how it ended, and the
events on the way.  An operation that is traced (`Traced`) puts on its span the attributes given
beforehand and those of its named arguments that are known to be harmless
(`safeArguments`), never any other.  A failure is told twice: by the operation and by the
span that it leaves.

A span keeps only the latest of its attributes and of its events, `Span.capacity` of each.
-/

namespace Automation

/-- How an operation ended. -/
inductive SpanStatus where
  /-- Well. -/
  | ok
  /-- With a failure. -/
  | error
deriving DecidableEq, Repr

/-- The name of a status. -/
def SpanStatus.name : SpanStatus → String
  | .ok => "OK"
  | .error => "ERROR"

/-- Something that happened in the course of an operation. -/
structure SpanEvent where
  /-- What happened. -/
  name : String
  /-- Particulars. -/
  attributes : Mapping
deriving Repr

/-- One operation. -/
structure Span where
  /-- The name; nothing for an operation that goes by the name of its code. -/
  name : Option String
  /-- The attributes. -/
  attributes : Mapping
  /-- How it ended. -/
  status : SpanStatus
  /-- The events, in order. -/
  events : List SpanEvent
deriving Repr

namespace Span

/-- The number of attributes and of events that are kept. -/
def capacity : Nat := 128

/-- The latest members of a list, as many as are kept. -/
def latest {α : Type} (xs : List α) : List α := xs.drop (xs.length - capacity)

mutual

/-- A value as an attribute has it: a sequence is a list, and entries without a name are left
out. -/
def attributeValue : Value → Value
  | .list xs => .list (attributeItems xs)
  | .tuple xs => .list (attributeItems xs)
  | .mapping m => .mapping (attributeEntries m)
  | v => v

/-- The items of a sequence as an attribute has them. -/
def attributeItems : List Value → List Value
  | [] => []
  | v :: rest => attributeValue v :: attributeItems rest

/-- The entries of a mapping as an attribute has them. -/
def attributeEntries : List (Key × Value) → List (Key × Value)
  | [] => []
  | (.text s, v) :: rest =>
    if s.isEmpty then attributeEntries rest
    else (.text s, attributeValue v) :: attributeEntries rest
  | _ :: rest => attributeEntries rest

end

/-- An attribute put on as the latest one; one without a name is ignored. -/
def putAttribute (attributes : Mapping) (key : Key) (value : Value) : Mapping :=
  match key with
  | .text s =>
    if s.isEmpty then attributes
    else latest ((attributes.filter fun e => !e.1.same key) ++ [(key, attributeValue value)])
  | _ => attributes

/-- Attributes put on one after the other. -/
def putAttributes (attributes more : Mapping) : Mapping :=
  more.foldl (fun acc e => putAttribute acc e.1 e.2) attributes

/-- The arguments that never tell of a customer. -/
def safeArguments : List String :=
  ["event_type", "workflow_id", "action_type", "status", "limit", "page"]

/-- Whether an argument goes onto the span: its name is known, whatever its case. -/
def isSafe (name : String) : Bool :=
  !name.startsWith "_" && safeArguments.contains (Text.lower name)

/-- The attributes of the arguments that go onto the span. -/
def argumentAttributes (arguments : Mapping) : Mapping :=
  arguments.filterMap fun e =>
    match e.1 with
    | .text s => if isSafe s then some ("arg." ++ s, .text e.2.display) else none
    | _ => none

/-- The name of the sort of a failure with where it is declared. -/
def failureType : Failure → String
  | .engine e => "bookflow.domain.exceptions." ++ e.kind.name
  | .fault f => f.name

/-- The event of a failure. -/
def failureEvent (f : Failure) : SpanEvent :=
  { name := "exception"
    attributes := [("exception.type", .text (failureType f)),
      ("exception.message", .text f.text)] }

end Span

/-- An operation that is traced. -/
structure Traced where
  /-- The name of its spans, if it has one. -/
  name : Option String
  /-- The attributes of all its spans. -/
  attributes : Mapping
deriving Repr

namespace Traced

/-- The attributes with which a span starts. -/
def startAttributes (t : Traced) (arguments : Mapping) : Mapping :=
  Span.putAttributes (Span.putAttributes [] t.attributes) (Span.argumentAttributes arguments)

/-- The name of its spans; an empty one is none. -/
def spanName (t : Traced) : Option String := t.name.filter fun s => !s.isEmpty

/-- The span of a run that goes well. -/
def succeeded (t : Traced) (arguments attributes : Mapping) (events : List SpanEvent) : Span :=
  { name := t.spanName
    attributes := Span.putAttributes (t.startAttributes arguments) attributes
    status := .ok
    events := Span.latest <|
      events.map fun e => { e with attributes := Span.putAttributes [] e.attributes } }

/-- The span of a run that fails. -/
def failed (t : Traced) (arguments : Mapping) (f : Failure) : Span :=
  { name := t.spanName
    attributes := t.startAttributes arguments
    status := .error
    events := [Span.failureEvent f, Span.failureEvent f] }

end Traced

end Automation
