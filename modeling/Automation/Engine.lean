import Automation.Collaborator.Behaviour
import Automation.Collaborator.CustomerService
import Automation.Email.Outbox
import Automation.Execution.Log
import Automation.Http.Exchange
import Automation.Telemetry.Span

/-!
# The engine

An `Engine` is all that the automation keeps: the workflows, the log of executions, notifications
and emails, the clock, and the identifiers that were issued.  It also knows how the world outside
behaves and what was asked of it.

Every change of an engine is one of the small steps below or a function made of them.
-/

namespace Automation

/-- A notification that is kept. -/
structure Notification where
  /-- Its identifier. -/
  id : String
  /-- The title. -/
  title : String
  /-- The message. -/
  message : String
  /-- The sort of notification. -/
  type : String
  /-- How urgent it is. -/
  priority : String
  /-- For whom it is, if not for all. -/
  userId : Option String
  /-- When it was created. -/
  createdAt : Timestamp
deriving Repr

/-- The limits that triggers keep to. -/
structure Limits where
  /-- How many workflows one trigger carries out at a time; at least one. -/
  concurrency : Int := 8
  /-- The seconds that an action may take. -/
  actionTimeout : Number := .double (.ofInt 15)
  /-- The seconds that a webhook may take. -/
  webhookTimeout : Number := .double (.ofInt 10)
deriving Repr

/-- The automation with all it keeps. -/
structure Engine where
  /-- The workflows. -/
  repository : Repository
  /-- The executions. -/
  log : Log
  /-- The notifications. -/
  notifications : List Notification := []
  /-- The emails. -/
  outbox : List Email.Message := []
  /-- The time of day. -/
  clock : Timestamp
  /-- The seconds on the clock that durations are measured with. -/
  ticks : Double := .zero
  /-- The number of identifiers that were issued. -/
  issued : Nat := 0
  /-- The limits of triggers. -/
  limits : Limits := {}
  /-- How collaborators behave. -/
  outside : Outside := fun _ => {}
  /-- How the network answers each request, if there is one. -/
  network : Option (Nat → Http.Answer) := none
  /-- The customer service, if customers are kept there. -/
  customers : Option CustomerService := none
  /-- The failure of every listing of workflows. -/
  listFailure : Option Failure := none
  /-- The failure of every recording of an execution. -/
  recordFailure : Option Failure := none
  /-- The failures of recording the executions of single workflows, by their identifiers. -/
  recordFailures : String → Option Failure := fun _ => none
  /-- The collaborators called so far. -/
  called : List Channel := []
  /-- The calls so far. -/
  journal : List Call := []
  /-- The requests sent over the network so far. -/
  sent : List Http.Request := []
  /-- The spans of the operations that have ended. -/
  spans : List Span := []
  /-- The number of calls that are going on. -/
  busy : Nat := 0
  /-- The highest number of calls that went on at a time. -/
  peak : Nat := 0

namespace Engine

/-- An engine without anything in it. -/
def empty (b : Backend) (clock : Timestamp) : Engine :=
  { repository := .empty b, log := .empty b, clock }

/-- Where workflows and executions are kept. -/
def backend (s : Engine) : Backend := s.repository.backend

/-- The number of workflows that one trigger carries out at a time. -/
def slots (s : Engine) : Nat := max 1 s.limits.concurrency.toNat

/-- Why the executions of a workflow cannot be recorded, if so. -/
def unrecordable? (s : Engine) (workflowId : String) : Option Failure :=
  s.recordFailure.or (s.recordFailures workflowId)

/-! ## Small steps -/

/-- The identifier of a number. -/
def identifier (n : Nat) : String := "id" ++ Timestamp.padded 4 n

/-- A fresh identifier. -/
def issue (s : Engine) : String × Engine :=
  (identifier (s.issued + 1), { s with issued := s.issued + 1 })

/-- Later by some seconds on the clock of durations. -/
def elapse (s : Engine) (seconds : Double) : Engine := { s with ticks := s.ticks.add seconds }

/-- Later by some microseconds; the clock does not leave the calendar. -/
def advance (s : Engine) (microseconds : Int) : Engine :=
  { s with clock := (s.clock.later? microseconds).getD s.clock }

/-- A notification kept under a fresh identifier. -/
def notify (s : Engine) (title message type priority : String) (userId : Option String) :
    String × Engine :=
  let (id, s) := s.issue
  let n := { id, title, message, type, priority, userId, createdAt := s.clock }
  (id, { s with notifications := s.notifications ++ [n] })

/-- An email delivered into the outbox. -/
def deliver (s : Engine) (m : Email.Message) : Engine :=
  { s with outbox := Email.deliver s.outbox m }

/-- A span added. -/
def addSpan (s : Engine) (span : Span) : Engine := { s with spans := s.spans ++ [span] }

/-- The collaborators with other behaviours, from their first calls on. -/
def withOutside (s : Engine) (outside : Outside) : Engine := { s with outside, called := [] }

/-- The number of calls of a collaborator so far. -/
def callsOf (s : Engine) (c : Channel) : Nat := s.called.count c

/-- A call begun. -/
def beginCall (s : Engine) (c : Call) : Engine :=
  { s with
    called := s.called ++ [c.channel]
    journal := s.journal ++ [c]
    busy := s.busy + 1
    peak := max s.peak (s.busy + 1) }

/-- A call ended. -/
def endCall (s : Engine) : Engine := { s with busy := s.busy - 1 }

end Engine

end Automation
