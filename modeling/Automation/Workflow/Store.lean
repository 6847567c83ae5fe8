import Automation.Workflow.Repository

/-!
# The workflow store

Every change of a workflow goes through the store: it checks what the caller says and leaves the
repository as it is when it refuses.  An update is two steps on the repository, a reading and a
replacement with the check in between (`Store.merge?`); a deletion may fall between them, and then
the replacement finds nothing.

A trigger reads the workflows once (`Store.active`); what happens to them later does not reach it.
-/

namespace Automation

/-- Why the store refuses. -/
inductive StoreError where
  /-- A rule is broken. -/
  | rule (e : RuleError)
  /-- No workflow has this identifier. -/
  | unknown (id : String)
  /-- The storage reports a fault. -/
  | storage (f : Fault)
deriving Repr

namespace StoreError

/-- The failure that reports it. -/
def toFailure : StoreError → Failure
  | .rule e => .engine e.toEngineError
  | .unknown id => .engine (.notFound (.text "Workflow") (.text id))
  | .storage f => .fault f

end StoreError

namespace Store

/-- A new workflow under a fresh identifier. -/
def create (r : Repository) (id : String) (now : Timestamp) (d : Draft) :
    Except StoreError (Definition × Repository) :=
  match d.check id now with
  | .error e => .error (.rule e)
  | .ok definition =>
    match r.add definition with
    | .error f => .error (.storage f)
    | .ok result => .ok result

/-- The workflow with an identifier. -/
def get (r : Repository) (id : String) : Except StoreError Definition :=
  match r.get? id with
  | some d => .ok d
  | none => .error (.unknown id)

/-- The first step of an update: the workflow read and the change checked. -/
def merge? (r : Repository) (id : String) (now : Timestamp) (p : Patch) :
    Except StoreError Definition :=
  match get r id with
  | .error e => .error e
  | .ok d =>
    match p.apply d now with
    | .error e => .error (.rule e)
    | .ok merged => .ok merged

/-- The second step of an update: the changed workflow put in its place. -/
def put (r : Repository) (merged : Definition) : Except StoreError (Definition × Repository) :=
  match r.replace? merged with
  | some (.ok result) => .ok result
  | some (.error f) => .error (.storage f)
  | none => .error (.unknown merged.id)

/-- A changed workflow. -/
def update (r : Repository) (id : String) (now : Timestamp) (p : Patch) :
    Except StoreError (Definition × Repository) := do
  put r (← merge? r id now p)

/-- A workflow removed. -/
def delete (r : Repository) (id : String) : Except StoreError Repository :=
  match r.delete? id with
  | some r => .ok r
  | none => .error (.unknown id)

/-- The filter of a listing, the kind of event named in any case. -/
def checkFilter (isActive : Option Bool) (eventType : Value) :
    Except StoreError DefinitionFilter :=
  match eventType with
  | .null => .ok { isActive }
  | v =>
    match checkEventType v with
    | .ok t => .ok { isActive, eventType := some t.name }
    | .error e => .error (.rule e)

/-- The workflows that a listing shows. -/
def list (r : Repository) (isActive : Option Bool) (eventType : Value) :
    Except StoreError (List Definition) := do
  return r.list (← checkFilter isActive eventType)

/-- The active workflows bound to a kind of event, in the order of a listing. -/
def active (r : Repository) (t : EventType) : List Definition :=
  (r.list { isActive := some true, eventType := some t.name }).filter (·.triggersOn t)

end Store

end Automation
