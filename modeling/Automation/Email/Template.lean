import Automation.Value.Display

/-!
# Email templates

An email template has a subject and a body made of fragments.  A fragment shows a literal, a fact
with another to fall back on, or a labelled fact that is left out when it is not present.

Facts are looked up by name among the variables of the email.  An unknown fact shows as nothing and
counts as not present; null shows as the word for nothing.
-/

namespace Automation.Email

/-- A part of the body of an email. -/
inductive Fragment where
  /-- A text as it is. -/
  | literal (s : String)
  /-- The fact of a name, or else a part of another fact. -/
  | fact (name object part : String)
  /-- A label and the fact of a name, nothing if the fact is not present. -/
  | labelled (label name : String)

/-- A template of an email. -/
structure Template where
  /-- Its identifier. -/
  id : String
  /-- The subject. -/
  subject : String
  /-- The body. -/
  body : List Fragment

/-- A part of a fact; only a mapping has parts. -/
def part? (fact : Option Value) (name : String) : Option Value :=
  match fact with
  | some (.mapping m) => Mapping.find? name m
  | _ => none

/-- The label and the value that a fragment shows. -/
def Fragment.parts (values : Mapping) : Fragment → String × Option Value
  | .literal s => (s, none)
  | .fact name object part =>
    match Mapping.find? name values with
    | some v => ("", if v.truthy then some v else part? (values.find? object) part)
    | none => ("", part? (values.find? object) part)
  | .labelled label name =>
    match Mapping.find? name values with
    | some v => if v.truthy then (label, some v) else ("", none)
    | none => ("", none)

/-- The text of a fragment. -/
def Fragment.text (values : Mapping) (f : Fragment) : String :=
  let (label, value) := f.parts values
  label ++ (value.map Value.display).getD ""

/-- The body of an email. -/
def Template.text (t : Template) (values : Mapping) : String :=
  t.body.foldl (fun s fragment => s ++ fragment.text values) ""

/-- Whether all values that an email shows have texts. -/
def Template.hasText (t : Template) (values : Mapping) : Bool :=
  t.body.all fun f => (f.parts values).2.all Value.hasText

/-- The salutation of every template. -/
def salutation : List Fragment :=
  [.literal "Hi ", .fact "customerName" "customer" "name", .literal ",\n\n"]

/-- All templates. -/
def templates : List Template := [
  { id := "appointment_confirmation"
    subject := "Your appointment is confirmed"
    body := salutation ++ [
      .literal "Your appointment on ", .fact "appointmentDate" "appointment" "startTime",
      .literal " is confirmed.", .labelled "\nArtist: " "artistName"] },
  { id := "appointment_reminder"
    subject := "Reminder: upcoming appointment"
    body := salutation ++ [
      .literal "This is a reminder of your appointment on ",
      .fact "appointmentDate" "appointment" "startTime", .literal "."] },
  { id := "appointment_cancelled"
    subject := "Your appointment was cancelled"
    body := salutation ++ [
      .literal "Your appointment has been cancelled. Reply to this email to rebook."] },
  { id := "payment_receipt"
    subject := "Payment receipt"
    body := salutation ++ [
      .literal "We received your payment of $", .fact "amount" "payment" "amount",
      .literal ". Thank you!"] },
  { id := "vip_payment_receipt"
    subject := "Thank you for your payment"
    body := salutation ++ [
      .literal "We received your payment of $", .fact "amount" "payment" "amount",
      .labelled " on " "paymentDate",
      .literal ". As a VIP customer you have priority booking for your next session."] },
  { id := "customer_welcome"
    subject := "Welcome to the studio"
    body := salutation ++ [.literal "Thanks for signing up!"] }]

/-- The template with an identifier. -/
def template? (id : String) : Option Template := templates.find? (·.id == id)

end Automation.Email
