import Automation.Workflow.Store

/-!
# Starter workflows

Blueprints of common workflows.  A workflow made from a starter has the event, the conditions and
the actions of the starter; only its description and its activity may be chosen otherwise.
-/

namespace Automation

/-- A blueprint of a workflow. -/
structure Starter where
  /-- Its identifier. -/
  id : String
  /-- Its name. -/
  name : String
  /-- What it is for. -/
  description : String
  /-- The area it belongs to. -/
  category : String
  /-- The kind of event. -/
  eventType : EventType
  /-- The conditions. -/
  conditions : List Condition
  /-- The actions. -/
  actions : List Action

namespace Starter

/-- A placeholder for the value at a path. -/
def placeholder (path : String) : String := "\x7b\x7b" ++ path ++ "\x7d\x7d"

/-- A text that is one placeholder. -/
def fill (path : String) : Value := .text (placeholder path)

/-- A condition of a starter. -/
def condition (field : String) (operator : Operator) (value : Value) : Condition :=
  ⟨.text field, .text operator.name, value⟩

/-- An action of a starter. -/
def action (type : ActionType) (config : Mapping) : Action := ⟨.text type.name, config⟩

/-- An email to the customer of the event. -/
def customerEmail (templateId : String) (values : Mapping) : Action :=
  action .sendEmail
    [("templateId", .text templateId), ("to", fill "customer.email"),
      ("variables", .mapping (("customerName", fill "customer.name") :: values))]

/-- A notification for the studio. -/
def studioNote (title message type : String) (priority : Mapping) : Action :=
  let shown : Mapping :=
    [("title", .text title), ("message", .text message), ("type", .text type)]
  action .createNotification (shown ++ priority)

/-- The high priority of a notification. -/
def highPriority : Mapping := [("priority", .text "high")]

/-- All starters. -/
def all : List Starter := [
  { id := "consultation_confirmation"
    name := "Consultation Confirmation"
    description := "Email the customer and notify the studio when a consultation is booked"
    category := "appointments"
    eventType := .appointmentCreated
    conditions := [condition "appointment.type" .equals (.text "consultation")]
    actions := [
      customerEmail "appointment_confirmation"
        [("appointmentDate", fill "appointment.startTime")],
      studioNote "New Consultation Booked"
        ("Consultation appointment created for " ++ placeholder "customer.name")
        "appointment_created" []] },
  { id := "payment_receipt"
    name := "Payment Receipt"
    description := "Send a receipt for payments over $100"
    category := "payments"
    eventType := .paymentReceived
    conditions := [condition "payment.amount" .greaterThan (.int 100)]
    actions := [customerEmail "payment_receipt" [("amount", fill "payment.amount")]] },
  { id := "vip_payment"
    name := "VIP Payment Handling"
    description := "Receipt, staff alert and customer tagging for VIP payments over $500"
    category := "payments"
    eventType := .paymentReceived
    conditions := [condition "payment.amount" .greaterThan (.int 500),
      condition "customer.isVip" .equals (.bool true)]
    actions := [
      customerEmail "vip_payment_receipt" [("amount", fill "payment.amount")],
      studioNote "VIP Payment Received"
        ("VIP customer " ++ placeholder "customer.name" ++ " paid $"
          ++ placeholder "payment.amount")
        "payment_received" highPriority,
      action .updateCustomer
        [("customerId", fill "customer.id"),
          ("updates", .mapping [("lastVipPaymentAt", fill "payment.createdAt")])]] },
  { id := "payment_failed_alert"
    name := "Failed Payment Alert"
    description := "Alert the studio when a payment fails"
    category := "payments"
    eventType := .paymentFailed
    conditions := []
    actions := [
      studioNote "Payment Failed"
        ("Payment of $" ++ placeholder "payment.amount" ++ " from "
          ++ placeholder "customer.name" ++ " failed")
        "payment_failed" highPriority] },
  { id := "cancellation_follow_up"
    name := "Cancellation Follow-up"
    description := "Let the customer know their appointment was cancelled"
    category := "appointments"
    eventType := .appointmentCancelled
    conditions := []
    actions := [customerEmail "appointment_cancelled" []] },
  { id := "new_customer_welcome"
    name := "New Customer Welcome"
    description := "Welcome email for newly registered customers"
    category := "customers"
    eventType := .customerCreated
    conditions := [condition "customer.email" .notEquals .null]
    actions := [customerEmail "customer_welcome" []] }]

/-- What may be chosen otherwise than the starter has it. -/
def customizable : List String := ["description", "is_active"]

/-- The starter with an identifier. -/
def find (id : Value) : Except Failure Starter := do
  discard (id.key.mapError Failure.fault)
  match all.find? fun s => .some s.id == id.text? with
  | some s => return s
  | none => throw (.engine (.notFound (.text "Workflow template") id))

/-- Whether a key names what may be chosen. -/
def isCustomizable (k : Key) : Bool := k.text?.any customizable.contains

/-- The choices that are made, if all of them may be made. -/
def checkChoices (choices : Mapping) : Except Failure Unit :=
  match Key.sorted ((choices.map Prod.fst).filter fun k => !isCustomizable k) with
  | .error e => .error (.fault e.fault)
  | .ok [] => .ok ()
  | .ok unknown => .error (.engine (RuleError.unknownCustomizations unknown).toEngineError)

/-- The draft of a workflow made from a starter. -/
def draft (s : Starter) (name : Value) (choices : Mapping) : Except Failure Draft := do
  checkChoices choices
  return {
    name
    eventType := .text s.eventType.name
    actions := .list (s.actions.map Action.toValue)
    conditions := .list (s.conditions.map Condition.toValue)
    description := (Mapping.find? "description" choices).getD (.text s.description)
    isActive := (Mapping.find? "is_active" choices).getD (.bool true) }

/-- The draft of a workflow made from the starter of an identifier. -/
def customized (id name choices : Value) : Except Failure Draft := do
  let s ← find id
  s.draft name (← (Mapping.ofOptional choices).mapError Failure.fault)

end Starter

end Automation
