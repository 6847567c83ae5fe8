import Automation.Text.Blank
import Automation.Text.Case
import Automation.Value

/-!
# Vocabulary

The fixed words of the automation: kinds of events, kinds of actions, comparison operators and
execution statuses.  Each has a list of all its members in their usual order, a name, and a
reading of names.  Names of event kinds are read without regard to case and to blanks around
them; all other names are read as they stand.
-/

namespace Automation

/-- The kinds of events a workflow can be bound to. -/
inductive EventType where
  | appointmentCreated
  | appointmentUpdated
  | appointmentCancelled
  | paymentReceived
  | paymentFailed
  | customerCreated
  | requestSubmitted
  | systemMaintenance
deriving DecidableEq, Repr, Inhabited

namespace EventType

/-- All kinds of events. -/
def all : List EventType :=
  [.appointmentCreated, .appointmentUpdated, .appointmentCancelled, .paymentReceived,
    .paymentFailed, .customerCreated, .requestSubmitted, .systemMaintenance]

/-- The name of a kind of event. -/
def name : EventType → String
  | .appointmentCreated => "APPOINTMENT_CREATED"
  | .appointmentUpdated => "APPOINTMENT_UPDATED"
  | .appointmentCancelled => "APPOINTMENT_CANCELLED"
  | .paymentReceived => "PAYMENT_RECEIVED"
  | .paymentFailed => "PAYMENT_FAILED"
  | .customerCreated => "CUSTOMER_CREATED"
  | .requestSubmitted => "REQUEST_SUBMITTED"
  | .systemMaintenance => "SYSTEM_MAINTENANCE"

/-- The kind of event with a name, in any case and with blanks around it. -/
def ofName? (s : String) : Option EventType := all.find? fun t => t.name == Text.upper (Text.trim s)

theorem mem_all (t : EventType) : t ∈ all := by cases t <;> decide

end EventType

/-- The kinds of actions. -/
inductive ActionType where
  | sendEmail
  | createNotification
  | updateCustomer
  | webhook
deriving DecidableEq, Repr, Inhabited

namespace ActionType

/-- All kinds of actions. -/
def all : List ActionType := [.sendEmail, .createNotification, .updateCustomer, .webhook]

/-- The name of a kind of action. -/
def name : ActionType → String
  | .sendEmail => "send_email"
  | .createNotification => "create_notification"
  | .updateCustomer => "update_customer"
  | .webhook => "webhook"

/-- The kind of action with a name. -/
def ofName? (s : String) : Option ActionType := all.find? fun t => t.name == s

/-- The kind of action that a value names. -/
def ofValue? (v : Value) : Option ActionType := v.text?.bind ofName?

theorem ofName?_name (t : ActionType) : ofName? t.name = some t := by cases t <;> decide

end ActionType

/-- The comparison operators of conditions. -/
inductive Operator where
  | equals
  | notEquals
  | greaterThan
  | lessThan
  | contains
  | isIn
deriving DecidableEq, Repr, Inhabited

namespace Operator

/-- All operators. -/
def all : List Operator := [.equals, .notEquals, .greaterThan, .lessThan, .contains, .isIn]

/-- The name of an operator. -/
def name : Operator → String
  | .equals => "equals"
  | .notEquals => "not_equals"
  | .greaterThan => "greater_than"
  | .lessThan => "less_than"
  | .contains => "contains"
  | .isIn => "in"

/-- The operator with a name. -/
def ofName? (s : String) : Option Operator := all.find? fun t => t.name == s

/-- The operator that a value names. -/
def ofValue? (v : Value) : Option Operator := v.text?.bind ofName?

theorem ofName?_name (t : Operator) : ofName? t.name = some t := by cases t <;> decide

end Operator

/-- How the actions of one workflow went. -/
inductive Status where
  /-- Every action succeeded. -/
  | success
  /-- Some succeeded and some failed. -/
  | mixed
  /-- None succeeded. -/
  | failed
deriving DecidableEq, Repr, Inhabited

namespace Status

/-- All statuses. -/
def all : List Status := [.success, .mixed, .failed]

/-- The name of a status. -/
def name : Status → String
  | .success => "success"
  | .mixed => "partial"
  | .failed => "failed"

/-- The status with a name. -/
def ofName? (s : String) : Option Status := all.find? fun t => t.name == s

/-- The status of a workflow whose actions succeeded or failed as listed.  Without actions it is
a success. -/
def ofOutcomes (succeeded : List Bool) : Status :=
  if succeeded.all id then .success
  else if succeeded.all (!·) then .failed
  else .mixed

end Status

end Automation
