import Automation.Workflow.Definition

/-!
# Rules for workflows

What a caller says about a workflow is checked and brought to a normal form before it is stored.
A name is not blank and loses the blanks around it; a description is a text or null; the kind of
event, the operators and the kinds of actions are known; conditions have a path; there is at least
one action.  The first rule that is broken gives the error (`RuleError`), in the order name,
description, event, activity, conditions, actions.

`Draft.check` checks all six fields of a new workflow, `Patch.apply` those of a changed one, where
the fields that the patch leaves out come from the workflow as it is and are checked again.
-/

namespace Automation

/-- A rule that is broken. -/
inductive RuleError where
  /-- The name is no text, or blank. -/
  | emptyName
  /-- The description is neither a text nor null. -/
  | badDescription
  /-- No known kind of event. -/
  | unknownEventType (given : Value)
  /-- The activity is no truth value. -/
  | badActivity
  /-- The conditions are no list. -/
  | conditionsNotList
  /-- A condition is no mapping. -/
  | conditionNotObject (index : Nat)
  /-- A condition without a path. -/
  | emptyField (index : Nat)
  /-- A condition with an unknown operator. -/
  | unknownOperator (index : Nat) (given : Value)
  /-- The actions are no list, or an empty one. -/
  | noActions
  /-- An action is no mapping. -/
  | actionNotObject (index : Nat)
  /-- The configuration of an action is neither a mapping nor null. -/
  | configNotObject (index : Nat)
  /-- An action of an unknown kind. -/
  | unknownAction (index : Nat) (given : Value)
  /-- Customizations of a starter that cannot be customized. -/
  | unknownCustomizations (keys : List Key)
deriving Repr

/-- Names as they are listed in a message. -/
def listedNames (names : List String) : String := (Value.list (names.map Value.text)).inspect

/-- Keys as they are listed in a message. -/
def listedKeys (ks : List Key) : String := bracketed "[" "]" (joined ", " (inspectKeys ks))

namespace RuleError

/-- What is wrong. -/
def message : RuleError → String
  | .emptyName => "Workflow name must not be empty"
  | .badDescription => "description must be a string"
  | .unknownEventType v =>
    "Unknown event type: " ++ v.inspect ++ ". Expected one of "
      ++ listedNames (EventType.all.map EventType.name)
  | .badActivity => "is_active must be a boolean"
  | .conditionsNotList => "conditions must be a list"
  | .conditionNotObject i => s!"conditions[{i}] must be an object"
  | .emptyField i => s!"conditions[{i}].field must not be empty"
  | .unknownOperator i v =>
    s!"conditions[{i}].operator " ++ v.inspect ++ " is not one of "
      ++ listedNames (Operator.all.map Operator.name)
  | .noActions => "A workflow needs at least one action"
  | .actionNotObject i => s!"actions[{i}] must be an object"
  | .configNotObject i => s!"actions[{i}].config must be an object"
  | .unknownAction i v =>
    s!"actions[{i}].type " ++ v.inspect ++ " is not one of "
      ++ listedNames (ActionType.all.map ActionType.name)
  | .unknownCustomizations keys => "Unsupported customizations: " ++ listedKeys keys

/-- The field in which it is wrong. -/
def field : RuleError → String
  | .emptyName => "name"
  | .badDescription => "description"
  | .unknownEventType _ => "event_type"
  | .badActivity => "is_active"
  | .conditionsNotList | .conditionNotObject _ | .emptyField _ | .unknownOperator .. => "conditions"
  | .noActions | .actionNotObject _ | .configNotObject _ | .unknownAction .. => "actions"
  | .unknownCustomizations _ => "customizations"

/-- The error of the engine that reports it. -/
def toEngineError (e : RuleError) : EngineError :=
  .validation (.text e.message) (.text e.field)

end RuleError

/-! ## The fields -/

/-- A name: not blank, and without the blanks around it. -/
def checkName (v : Value) : Except RuleError String :=
  match v with
  | .text s => if Text.blank s then .error .emptyName else .ok (Text.trim s)
  | _ => .error .emptyName

/-- A description: a text or null. -/
def checkDescription (v : Value) : Except RuleError (Option String) :=
  match v with
  | .null => .ok none
  | .text s => .ok (some s)
  | _ => .error .badDescription

/-- A kind of event, named in any case. -/
def checkEventType (v : Value) : Except RuleError EventType :=
  match v.text?.bind EventType.ofName? with
  | some t => .ok t
  | none => .error (.unknownEventType v)

/-- An activity: a truth value. -/
def checkActivity (v : Value) : Except RuleError Bool :=
  match v with
  | .bool b => .ok b
  | _ => .error .badActivity

/-- A condition with a path and a known operator, in normal form. -/
def checkCondition (index : Nat) (c : Condition) : Except RuleError Condition :=
  match c.field with
  | .text s =>
    if Text.blank s then .error (.emptyField index)
    else
      match Operator.ofValue? c.operator with
      | some op => .ok ⟨.text (Text.trim s), .text op.name, c.value⟩
      | none => .error (.unknownOperator index c.operator)
  | _ => .error (.emptyField index)

/-- The condition that a value describes. -/
def readCondition (index : Nat) (v : Value) : Except RuleError Condition :=
  match v with
  | .mapping m => checkCondition index (.ofMapping m)
  | _ => .error (.conditionNotObject index)

/-- An action of a known kind. -/
def checkAction (index : Nat) (a : Action) : Except RuleError Action :=
  match ActionType.ofValue? a.type with
  | some t => .ok ⟨.text t.name, a.config⟩
  | none => .error (.unknownAction index a.type)

/-- The action that a value describes. -/
def readAction (index : Nat) (v : Value) : Except RuleError Action :=
  match v with
  | .mapping m =>
    let type := (Mapping.find? "type" m).getD (.text "")
    match Mapping.getD m "config" with
    | .null => checkAction index ⟨type, []⟩
    | .mapping config => checkAction index ⟨type, config⟩
    | _ => .error (.configNotObject index)
  | _ => .error (.actionNotObject index)

/-- A check of every member of a list, which is given its place; the first error ends it. -/
def checkEach {α β : Type} (check : Nat → α → Except RuleError β) :
    (index : Nat) → List α → Except RuleError (List β)
  | _, [] => .ok []
  | index, x :: rest => do
    let y ← check index x
    let ys ← checkEach check (index + 1) rest
    return y :: ys

/-- The conditions that a value describes; null is none. -/
def readConditions (v : Value) : Except RuleError (List Condition) :=
  match v with
  | .null => .ok []
  | v =>
    match v.items? with
    | some items => checkEach readCondition 0 items
    | none => .error .conditionsNotList

/-- The actions that a value describes. -/
def readActions (v : Value) : Except RuleError (List Action) :=
  match v.items? with
  | some (item :: items) => checkEach readAction 0 (item :: items)
  | _ => .error .noActions

/-- The conditions of a workflow, checked again. -/
def checkConditions (cs : List Condition) : Except RuleError (List Condition) :=
  checkEach checkCondition 0 cs

/-- The actions of a workflow, checked again. -/
def checkActions (as : List Action) : Except RuleError (List Action) :=
  if as.isEmpty then .error .noActions else checkEach checkAction 0 as

/-! ## New and changed workflows -/

/-- What a caller says about a new workflow. -/
structure Draft where
  /-- The name. -/
  name : Value
  /-- The kind of event. -/
  eventType : Value
  /-- The actions. -/
  actions : Value
  /-- The conditions. -/
  conditions : Value := .list []
  /-- The description. -/
  description : Value := .null
  /-- The activity. -/
  isActive : Value := .bool true

/-- The workflow that a draft describes. -/
def Draft.check (d : Draft) (id : String) (now : Timestamp) : Except RuleError Definition := do
  let name ← checkName d.name
  let description ← checkDescription d.description
  let eventType ← checkEventType d.eventType
  let isActive ← checkActivity d.isActive
  let conditions ← readConditions d.conditions
  let actions ← readActions d.actions
  return { id, name, description, eventType, isActive, conditions, actions,
           createdAt := now, updatedAt := now }

/-- What a caller says about a change: the fields left out stay. -/
structure Patch where
  /-- The name. -/
  name : Option Value := none
  /-- The description. -/
  description : Option Value := none
  /-- The kind of event. -/
  eventType : Option Value := none
  /-- The activity. -/
  isActive : Option Value := none
  /-- The conditions. -/
  conditions : Option Value := none
  /-- The actions. -/
  actions : Option Value := none

/-- The check of a field that a patch sets, or of the field as it is. -/
def checkChange {α : Type} (given : Option Value) (read : Value → Except RuleError α)
    (current : Except RuleError α) : Except RuleError α :=
  match given with
  | some v => read v
  | none => current

/-- The workflow after a change. -/
def Patch.apply (p : Patch) (d : Definition) (now : Timestamp) : Except RuleError Definition := do
  let name ← checkChange p.name checkName (checkName (.text d.name))
  let description ← checkChange p.description checkDescription (.ok d.description)
  let eventType ← checkChange p.eventType checkEventType (.ok d.eventType)
  let isActive ← checkChange p.isActive checkActivity (.ok d.isActive)
  let conditions ← checkChange p.conditions readConditions (checkConditions d.conditions)
  let actions ← checkChange p.actions readActions (checkActions d.actions)
  return { d with name, description, eventType, isActive, conditions, actions, updatedAt := now }

end Automation
