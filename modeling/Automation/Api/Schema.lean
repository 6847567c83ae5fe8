import Automation.Api.Issue
import Automation.Number.Lenient
import Automation.Settings
import Automation.Time.Internet
import Automation.Workflow.Rules

/-!
# The schema of requests

What a request holds is read field by field.  Every field that is missing or has the wrong form is
an `Issue` with its place, in the order of the fields.  Fields that are not known are ignored.

The rules for workflows are none of the schema's business: a name may be blank here.
-/

namespace Automation.Api

/-! ## Kinds of fields -/

/-- A way of reading a value at a place. -/
abbrev FieldReader (α : Type) := List Value → Value → Checked α

/-- A text of any length. -/
def readAnyText : FieldReader String := fun place v =>
  match v with
  | .text s => .ok s
  | _ => Issue.single .textType place v

/-- A text of Unicode of a limited length. -/
def readText (least most : Nat) : FieldReader String := fun place v =>
  match v with
  | .text s =>
    if !s.toList.all Http.isWholeChar then Issue.single .unicode place v
    else if s.length < least then Issue.single (.tooShort least) place v
    else if most < s.length then Issue.single (.tooLong most) place v
    else .ok s
  | _ => Issue.single .textType place v

/-- An integer that takes the place of a truth value. -/
def boolOfInt (place : List Value) (v : Value) (n : Int) : Checked Bool :=
  if n = 0 then .ok false
  else if n = 1 then .ok true
  else if -9223372036854775808 ≤ n ∧ n ≤ 9223372036854775807 then
    Issue.single .boolParsing place v
  else Issue.single .boolType place v

/-- A truth value, or a word or a number for one. -/
def readBool : FieldReader Bool := fun place v =>
  match v with
  | .bool b => .ok b
  | .text s =>
    match Settings.readBool s with
    | .ok b => .ok b
    | .error _ => Issue.single .boolParsing place v
  | .int n => boolOfInt place v n
  | .float x =>
    match x.toRat? with
    | some r =>
      if r.den = 1 then boolOfInt place v r.num else Issue.single .boolType place v
    | none => Issue.single .boolType place v
  | _ => Issue.single .boolType place v

/-- A mapping. -/
def readMapping : FieldReader Mapping := fun place v =>
  match v with
  | .mapping m =>
    match m.find? fun e => !e.1.text?.all (·.toList.all Http.isWholeChar) with
    | some (k, _) => Issue.single .unicode (place ++ [k.value]) k.value
    | none => .ok m
  | _ => Issue.single .mappingType place v

/-- A field that may be null. -/
def readNullable {α : Type} (read : FieldReader α) : FieldReader (Option α) := fun place v =>
  match v with
  | .null => .ok none
  | v => (read place v).map some

/-- The members of a list, the next one being at `index`. -/
def readMembers {α : Type} (read : FieldReader α) (place : List Value) :
    (index : Nat) → List Value → Checked (List α)
  | _, [] => .ok []
  | index, v :: rest =>
    (Checked.both (read (place ++ [.int index]) v) (readMembers read place (index + 1) rest)).map
      fun e => e.1 :: e.2

/-- A list. -/
def readList {α : Type} (read : FieldReader α) : FieldReader (List α) := fun place v =>
  match v with
  | .list xs => readMembers read place 0 xs
  | _ => Issue.single .listType place v

/-- An object with fields. -/
def readObject {α : Type} (read : List Value → Mapping → Checked α) : FieldReader α :=
  fun place v =>
    match v with
    | .mapping m => read place m
    | _ => Issue.single .objectType place v

/-- A field that must be there. -/
def required {α : Type} (read : FieldReader α) (key : String) (place : List Value) (m : Mapping) :
    Checked α :=
  match Mapping.find? key m with
  | some v => read (place ++ [.text key]) v
  | none => Issue.single .missing (place ++ [.text key]) (.mapping m)

/-- A field that may be left out. -/
def optional {α : Type} (read : FieldReader α) (key : String) (place : List Value) (m : Mapping) :
    Checked (Option α) :=
  match Mapping.find? key m with
  | some v => (read (place ++ [.text key]) v).map some
  | none => .ok none

/-! ## Bodies -/

/-- A condition. -/
def readConditionBody : FieldReader Value := readObject fun place m =>
  (Checked.both (required (readText 0 255) "field" place m)
    (required (readText 0 32) "operator" place m)).map fun (path, operator) =>
      (Condition.mk (.text path) (.text operator) (m.getD "value")).toValue

/-- An action. -/
def readActionBody : FieldReader Value := readObject fun place m =>
  (Checked.both (required (readText 0 64) "type" place m)
    (optional readMapping "config" place m)).map fun (type, config) =>
      (Action.mk (.text type) (config.getD [])).toValue

/-- A new workflow. -/
def readDraft : FieldReader Draft := readObject fun place m =>
  (Checked.both (required (readText 0 255) "name" place m) <|
    Checked.both (required (readText 0 64) "event_type" place m) <|
    Checked.both (required (readList readActionBody) "actions" place m) <|
    Checked.both (optional (readList readConditionBody) "conditions" place m) <|
    Checked.both (optional (readNullable readAnyText) "description" place m)
      (optional readBool "is_active" place m)).map
  fun (name, eventType, actions, conditions, description, isActive) =>
    { name := .text name
      eventType := .text eventType
      actions := .list actions
      conditions := .list (conditions.getD [])
      description := Settings.textOrNull (description.getD none)
      isActive := .bool (isActive.getD true) }

/-- A field that is null, or a value. -/
def orNull (v : Option Value) : Value := v.getD .null

/-- A change of a workflow: the fields that are there. -/
def readPatch : FieldReader Patch := readObject fun place m =>
  let text (read : FieldReader String) (key : String) :=
    optional (readNullable fun place v => (read place v).map Value.text) key place m
  let list (read : FieldReader Value) (key : String) :=
    optional (readNullable fun place v => (readList read place v).map Value.list) key place m
  let bool (key : String) :=
    optional (readNullable fun place v => (readBool place v).map Value.bool) key place m
  (Checked.both (text (readText 0 255) "name") <|
    Checked.both (text readAnyText "description") <|
    Checked.both (text (readText 0 64) "event_type") <|
    Checked.both (bool "is_active") <|
    Checked.both (list readConditionBody "conditions") (list readActionBody "actions")).map
  fun (name, description, eventType, isActive, conditions, actions) =>
    { name := name.map orNull
      description := description.map orNull
      eventType := eventType.map orNull
      isActive := isActive.map orNull
      conditions := conditions.map orNull
      actions := actions.map orNull }

/-- A choice of a starter. -/
structure StarterChoice where
  /-- The starter. -/
  templateId : String
  /-- The name of the workflow. -/
  name : String
  /-- What is chosen otherwise. -/
  customizations : Mapping

/-- A choice of a starter. -/
def readStarterChoice : FieldReader StarterChoice := readObject fun place m =>
  (Checked.both (required (readText 1 128) "template_id" place m) <|
    Checked.both (required (readText 0 255) "name" place m)
      (optional readMapping "customizations" place m)).map
  fun (templateId, name, customizations) =>
    { templateId, name, customizations := customizations.getD [] }

/-- An event. -/
structure EventBody where
  /-- The kind of event. -/
  eventType : String
  /-- The event. -/
  context : Mapping

/-- An event. -/
def readEvent : FieldReader EventBody := readObject fun place m =>
  (Checked.both (required (readText 0 64) "event_type" place m)
    (optional readMapping "context" place m)).map
  fun (eventType, context) => { eventType, context := context.getD [] }

/-! ## Queries -/

/-- The parameters of a query. -/
abbrev Query := List (String × String)

/-- A parameter that is read in some way; the last one of its name counts. -/
def parameter {α : Type} (q : Query) (name : String) (default : α)
    (read : String → Except Flaw α) : Checked α :=
  match q.reverse.find? (·.1 == name) with
  | none => .ok default
  | some (_, s) =>
    match read s with
    | .ok x => .ok x
    | .error flaw => Issue.single flaw [.text "query", .text name] (.text s)

/-- A text that may be left out. -/
def textParameter (q : Query) (name : String) : Checked Value :=
  parameter q name .null fun s => .ok (.text s)

/-- A truth value that may be left out. -/
def boolParameter (q : Query) (name : String) : Checked (Option Bool) :=
  parameter q name none fun s =>
    ((Settings.readBool s).map some).mapError fun _ => .boolParsing

/-- A timestamp that may be left out. -/
def timeParameter (q : Query) (name : String) : Checked (Option Timestamp) :=
  parameter q name none fun s =>
    match Timestamp.readInternet s with
    | .ok t => .ok (some t)
    | .error (.malformed reason) => .error (.timestampOrDate reason)
    | .error .yearZero => .error (.timestamp "year 0 is out of range")

/-- An integer between bounds. -/
def intParameter (q : Query) (name : String) (default least : Int) (most : Option Int) :
    Checked Int :=
  parameter q name default fun s => do
    let n ← (lenientInteger s).mapError fun
      | .malformed => Flaw.intParsing
      | .tooLong => Flaw.intSize
    if n < least then throw (.tooSmall least)
    match most with
    | some m => if m < n then throw (.tooLarge m) else return n
    | none => return n

/-- The page and its size. -/
def pageParameters (q : Query) : Checked (Int × Int) :=
  Checked.both (intParameter q "page" 1 1 none) (intParameter q "limit" 50 1 (some 200))

end Automation.Api
