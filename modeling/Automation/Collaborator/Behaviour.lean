import Automation.Action.Call
import Automation.Failure

/-!
# How collaborators behave

Collaborators are outside of the automation, and anything may come of a call.  A `Behaviour` says
what comes of one: how far it moves the clock that durations are read from, how often the
collaborator lets others go first, whether it comes back in time, and with what.  `Outside` gives
the behaviour of every call, by the occasion on which it is made.

No clock decides whether an action is in time.  A collaborator that takes longer than the action may
is one that `hangs`, as is one that never comes back; a call is cut off in both cases, and nothing
tells them apart.

A script gives the behaviours of one collaborator call by call; its last one goes for all calls
after it, and without a script a collaborator does what it usually does.
-/

namespace Automation

/-- What a collaborator does in one call. -/
structure Behaviour where
  /-- The seconds by which the clock of durations goes on.  The time of an action is up when its
  collaborator `hangs`, and this clock has no part in it. -/
  elapse : Double := .zero
  /-- How often the collaborator lets others go first. -/
  pauses : Nat := 0
  /-- Whether it does not come back within the time of the action. -/
  hangs : Bool := false
  /-- The failure it comes back with. -/
  raises : Option Failure := none
  /-- The value it comes back with in the place of the usual one. -/
  returns : Option Value := none
  /-- The status that an HTTP client comes back with. -/
  status : Int := 200
deriving Repr, Inhabited

/-- Whether others are carried on with before the collaborator comes back. -/
def Behaviour.suspends (b : Behaviour) : Bool := b.hangs || b.pauses != 0

/-- The occasion of a call. -/
structure Occasion where
  /-- The collaborator. -/
  channel : Channel
  /-- How many calls of it there were before. -/
  number : Nat
  /-- The workflow that is carried out. -/
  workflowId : String
  /-- The place of the action in the workflow. -/
  position : Nat
deriving DecidableEq, Repr

/-- How all collaborators behave. -/
abbrev Outside := Occasion → Behaviour

/-- The member of a list at a place, the last one beyond the end. -/
def atOrLast {α : Type} (other : α) : List α → Nat → α
  | [], _ => other
  | [x], _ => x
  | x :: _ :: _, 0 => x
  | _ :: y :: rest, n + 1 => atOrLast other (y :: rest) n

/-- The behaviour of collaborators that keep to scripts. -/
def scripted (scripts : Channel → List Behaviour) : Outside :=
  fun o => atOrLast {} (scripts o.channel) o.number

/-- The seconds of a number of milliseconds. -/
def secondsOfMilliseconds (n : Number) : Double :=
  match n with
  | .int n => .ofRat ((n : Rat) / 1000)
  | .double x => x.divNat 1000

end Automation
