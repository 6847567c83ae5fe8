import Automation.Execution.Record
import Automation.Engine
import Automation.Workflow.Rules

/-!
# Carrying out an action

An action is carried out in two steps, between which others may be carried on with.
`Engine.begin` prepares the call and makes it, unless the action is settled without one: its kind
is unknown, its configuration fails a check, or there is no one to call.  `Engine.finish` takes
the reply, or finds that the time ran out, and settles the action.

Whatever happens ends in an `ActionResult`; a failure of a collaborator is an error in it.
Each result leaves a span that tells the kind of the action and nothing else.
-/

namespace Automation

/-- No time at all, or less. -/
def Number.isSpent (n : Number) : Bool := n.lt (.int 0) || n.eq (.int 0)

/-- The kinds of actions that can be carried out when those of some names are taken away.  Every
kind is needed. -/
def ActionType.handlers (dropped : List String) : Except Fault (List String) :=
  let missing := all.filter fun t => dropped.contains t.name
  if missing.isEmpty then .ok ((all.map name).mergeSort fun a b => decide (a ≤ b))
  else .error <| .withText .value
    ("No handler registered for action types: " ++ listedNames (missing.map name))

/-- Where an action is carried out. -/
structure Place where
  /-- The workflow. -/
  workflowId : String
  /-- The place of the action in the workflow. -/
  position : Nat
deriving DecidableEq, Repr

/-- An action that waits for a collaborator. -/
structure Pending where
  /-- The kind of the action. -/
  type : ActionType
  /-- When it was started, on the clock of durations. -/
  start : Double
  /-- What is wanted of the collaborator. -/
  call : Call
  /-- What was asked of whom. -/
  made : Call
  /-- How the collaborator behaves. -/
  behaviour : Behaviour
deriving Repr

/-- An action after its first step. -/
inductive Begun where
  /-- It is settled. -/
  | settled (r : ActionResult)
  /-- It waits. -/
  | pending (p : Pending)

namespace Engine

/-- The name of the operation of carrying out an action. -/
def executeName : String := "action_dispatcher.execute"

/-- The result of an action that was started at a time, with its span. -/
def settle (s : Engine) (actionType : String) (start : Double) (o : Outcome) :
    ActionResult × Engine :=
  ({ actionType := .text actionType
     success := o.isSuccess
     duration := start.elapsed s.ticks
     error := o.error
     output := if o.isSuccess then o.output else [] },
   s.addSpan {
     name := some executeName
     attributes := [("action_type", .text actionType)]
     status := .ok
     events := [] })

/-- The behaviour of a client that makes a request over the network, and the request. -/
def overNetwork (s : Engine) (answers : Nat → Http.Answer) (c : Call) : Behaviour × Engine :=
  match c with
  | .http url method headers body timeout =>
    let answer := answers s.sent.length
    let e := Http.exchange url method headers body timeout answer
    let behaviour : Behaviour :=
      match e.result with
      | .ok r => { status := r.status }
      | .error f => { raises := some f }
    match e.sent with
    | some r => ({ behaviour with elapse := answer.elapse }, { s with sent := s.sent ++ [r] })
    | none => (behaviour, s)
  | _ => ({}, s)

/-- How the collaborator behaves that is called on an occasion. -/
def behaviourOf (s : Engine) (place : Place) (c : Call) : Behaviour × Engine :=
  match c.channel, s.network with
  | .http, some answers => s.overNetwork answers c
  | channel, _ =>
    (s.outside ⟨channel, s.callsOf channel, place.workflowId, place.position⟩, s)

/-- What is asked of whom when a call is wanted: customers may be kept by a service. -/
def route (s : Engine) (c : Call) : Except EngineError Call :=
  match c, s.customers with
  | .customer id fields, some service => service.update id fields
  | c, _ => .ok c

/-- A call made. -/
def make (s : Engine) (place : Place) (type : ActionType) (start : Double) (call made : Call) :
    Pending × Engine :=
  let (behaviour, s) := s.behaviourOf place made
  ({ type, start, call, made, behaviour }, (s.beginCall made).elapse behaviour.elapse)

/-- The first step of an action. -/
def begin (s : Engine) (a : Action) (context : Value) (place : Place) : Begun × Engine :=
  let refuse (name : String) (error : Value) : Begun × Engine :=
    let (r, s) := s.settle name s.ticks ⟨error, []⟩
    (.settled r, s)
  match ActionType.ofValue? a.type with
  | none => refuse a.type.display (.text "unsupported action type")
  | some type =>
    match a.prepare type context s.limits.webhookTimeout with
    | .error e => refuse type.name (.text e.message)
    | .ok call =>
      match s.route call with
      | .error e => refuse type.name (Failure.engine e).report
      | .ok made =>
        let (p, s) := s.make place type s.ticks call made
        (.pending p, s)

/-- What a collaborator does where nothing else is said. -/
def usualReply (s : Engine) (c : Call) (b : Behaviour) : Reply × Engine :=
  match c with
  | .email recipient subject template values =>
    match Email.render recipient subject template values with
    | .ok m => (.value (.bool true), s.deliver m)
    | .error e => (.raised (.fault e.fault), s)
  | .notification title message type priority userId =>
    let (id, s) := s.notify title message type priority userId
    (.value (.text id), s)
  | .customer .. => (.value (.bool true), s)
  | .http .. => (.response b.status, s)

/-- What a collaborator that was called comes back with. -/
def reply (s : Engine) (c : Call) (b : Behaviour) : Reply × Engine :=
  match b.raises, b.returns, c with
  | some f, _, _ => (.raised f, s)
  | none, _, .http .. => (.response b.status, s)
  | none, some v, _ => (.value v, s)
  | none, none, c => s.usualReply c b

/-- What a reply means for a call that was made by way of the customer service. -/
def throughService (wanted made : Call) (r : Reply) : Reply :=
  match wanted, made, r with
  | .customer _ fields, .http .., .response status =>
    match CustomerService.accept fields status with
    | .ok found => .value (.bool found)
    | .error f => .raised f
  | _, _, r => r

/-- The second step of an action: the reply, or the end of its time. -/
def finish (s : Engine) (p : Pending) (expired : Bool) : ActionResult × Engine :=
  let s := s.endCall
  let (r, s) := if expired then (Reply.expired, s) else s.reply p.made p.behaviour
  let r := throughService p.call p.made r
  s.settle p.type.name p.start (p.call.settle s.limits.actionTimeout r)

/-- Whether the time of an action runs out before its collaborator comes back: it hangs, which is
what too long a call does, or it lets others go first while there is no time at all.  The seconds
that a call adds to the clock of durations are not compared with the time of the action. -/
def runsOut (s : Engine) (b : Behaviour) : Bool :=
  b.hangs || (b.suspends && s.limits.actionTimeout.isSpent)

/-- An action carried out with nothing in between. -/
def execute (s : Engine) (a : Action) (context : Value) (place : Place) : ActionResult × Engine :=
  match s.begin a context place with
  | (.settled r, s) => (r, s)
  | (.pending p, s) => s.finish p (s.runsOut p.behaviour)

/-- An action of any kind with any configuration, carried out with nothing in between.  What is no
mapping, also after its placeholders are filled, is no configuration. -/
def executeAny (s : Engine) (type config context : Value) (place : Place) :
    ActionResult × Engine :=
  match config, ActionType.ofValue? type with
  | .mapping config, _ => s.execute ⟨type, config⟩ context place
  | _, none => s.execute ⟨type, []⟩ context place
  | v, some t => s.settle t.name s.ticks (Outcome.refused (PrepareError.ofOther context v).message)

end Engine

end Automation
