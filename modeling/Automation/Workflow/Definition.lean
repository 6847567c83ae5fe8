import Automation.Condition
import Automation.Time.Timestamp
import Automation.Value.Conversion

/-!
# Workflow definitions

A workflow binds one kind of event to conditions, all of which must hold, and to actions, which
are carried out in their order.  An action is a kind with a configuration; the texts of the
configuration may hold placeholders.
-/

namespace Automation

/-- One side effect.  An action that came from outside may hold anything as its kind; a stored
rule holds the name of a kind of action. -/
structure Action where
  /-- The name of the kind. -/
  type : Value
  /-- The configuration. -/
  config : Mapping
deriving Repr, Inhabited

namespace Action

/-- The action as a mapping. -/
def toMapping (a : Action) : Mapping := [("type", a.type), ("config", .mapping a.config)]

/-- That mapping as a value. -/
def toValue (a : Action) : Value := .mapping a.toMapping

/-- The action that a mapping describes; an absent kind is an empty text. -/
def ofMapping (m : Mapping) : Except Fault Action := do
  return ⟨(Mapping.find? "type" m).getD (.text ""), ← Mapping.ofOptional (m.getD "config")⟩

end Action

/-- A workflow. -/
structure Definition where
  /-- Its identifier. -/
  id : String
  /-- Its name. -/
  name : String
  /-- What it is for. -/
  description : Option String
  /-- The kind of event it is bound to. -/
  eventType : EventType
  /-- Whether events trigger it. -/
  isActive : Bool
  /-- The conditions, all of which must hold. -/
  conditions : List Condition
  /-- The actions, in order. -/
  actions : List Action
  /-- When it was created. -/
  createdAt : Timestamp
  /-- When it was last changed. -/
  updatedAt : Timestamp
deriving Repr, Inhabited

namespace Definition

/-- Whether events of a kind trigger the workflow. -/
def triggersOn (d : Definition) (t : EventType) : Bool := d.isActive && d.eventType == t

/-- Whether the workflow is to be carried out for an event. -/
def matchedBy (d : Definition) (context : Value) : Bool := Condition.allHold d.conditions context

end Definition

end Automation
