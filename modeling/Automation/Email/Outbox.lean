import Automation.Email.Template

/-!
# The outbox

Emails are not transported: they are rendered and kept in an outbox, which holds the latest
hundred.  A text that is the identifier of a template stands for the template, any other text is
the body itself.
-/

namespace Automation.Email

/-- A rendered email. -/
structure Message where
  /-- The recipient. -/
  recipient : String
  /-- The subject. -/
  subject : String
  /-- The body. -/
  body : String
deriving Repr, DecidableEq

/-- The subject of an email that has no other. -/
def defaultSubject : String := "Message from the studio"

/-- The number of emails that an outbox holds. -/
def outboxLimit : Nat := 100

/-- The text unless it is empty. -/
def nonEmpty? (s : String) : Option String := if s.isEmpty then none else some s

/-- The email that a template, or else a body, makes. -/
def compose (recipient : String) (subject : Option String) (templateOrBody : String)
    (values : Mapping) : Message :=
  match template? templateOrBody with
  | some t =>
    { recipient
      subject := ((subject.bind nonEmpty?).or (nonEmpty? t.subject)).getD defaultSubject
      body := t.text values }
  | none =>
    { recipient
      subject := (subject.bind nonEmpty?).getD defaultSubject
      body := templateOrBody }

/-- The email that a template makes if the values that it shows have texts, or that a body makes. -/
def render (recipient : String) (subject : Option String) (templateOrBody : String)
    (values : Mapping) : Except FormatError Message :=
  if (template? templateOrBody).all fun t => t.hasText values then
    .ok (compose recipient subject templateOrBody values)
  else .error .tooLong

/-- The outbox after an email is put into it. -/
def deliver (outbox : List Message) (m : Message) : List Message :=
  let grown := outbox ++ [m]
  grown.drop (grown.length - outboxLimit)

end Automation.Email
