import Automation.Workflow.Row
import Automation.Workflow.Rules

/-!
# Stored workflows

A repository keeps workflows by their identifiers.  It has one of two backends.  In memory the
workflows are kept as they are and listed in the order in which they came.  In the database they are
kept as rows and listed by their time of creation and then by identifier; replacing one keeps its
identifier and its time of creation.  A row is read in the same way every time, so it is kept here
as what it is read as.

Every operation is one step: nothing comes between its reading and its writing.  Memory copies what
it is given and what it gives away, and copying a value that nests some hundreds deep fails where
the stack has no room for it.  How much room there is depends on the caller, so this is not told
here.
-/

namespace Automation

/-- Where workflows and executions are kept. -/
inductive Backend where
  /-- In the memory of the process. -/
  | memory
  /-- In a relational database. -/
  | database
deriving DecidableEq, Repr, Inhabited

/-- Which workflows a listing shows; a field left out admits all. -/
structure DefinitionFilter where
  /-- Only active or only inactive ones. -/
  isActive : Option Bool := none
  /-- Only those bound to the kind of event of this name. -/
  eventType : Option String := none

namespace DefinitionFilter

/-- The workflows that a listing in memory shows: what one field leaves, the next one looks at. -/
def sift (f : DefinitionFilter) (ds : List Definition) : List Definition :=
  let ds := match f.isActive with
    | some b => ds.filter fun d => d.isActive == b
    | none => ds
  match f.eventType with
  | some name => ds.filter fun d => d.eventType.name == name
  | none => ds

/-- The conditions of the query that lists rows. -/
def clauses (f : DefinitionFilter) : List (WorkflowRow → Bool) :=
  (f.isActive.toList.map fun b row => row.isActive == b)
    ++ f.eventType.toList.map fun name row => row.eventType == name

end DefinitionFilter

/-- The stored workflows. -/
structure Repository where
  /-- The backend. -/
  backend : Backend
  /-- The workflows in the order in which they came. -/
  definitions : List Definition
deriving Inhabited

namespace Repository

/-- A repository without workflows. -/
def empty (b : Backend) : Repository := ⟨b, []⟩

/-- The workflow with an identifier. -/
def get? (r : Repository) (id : String) : Option Definition := r.definitions.find? (·.id == id)

/-- Whether the row of a workflow comes before that of another in a listing. -/
def rowBefore (d e : Definition) : Bool :=
  (WorkflowRow.ofDefinition d).listedBefore (WorkflowRow.ofDefinition e)

/-- All workflows in the order of a listing. -/
def listing (r : Repository) : List Definition :=
  match r.backend with
  | .memory => r.definitions
  | .database => r.definitions.mergeSort rowBefore

/-- The workflows that a listing shows. -/
def list (r : Repository) (f : DefinitionFilter) : List Definition :=
  match r.backend with
  | .memory => f.sift r.listing
  | .database =>
    r.listing.filter fun d => f.clauses.all fun clause => clause (WorkflowRow.ofDefinition d)

/-- A new workflow added at the end; answers it as it is kept.  The database refuses what it has no
form for before it looks for the identifier. -/
def add (r : Repository) (d : Definition) : Except Fault (Definition × Repository) :=
  match r.backend with
  | .memory =>
    match r.get? d.id with
    | some _ => .error (.withText .value ("Duplicate workflow id: " ++ d.id))
    | none => .ok (d, { r with definitions := r.definitions ++ [d] })
  | .database => do
    let kept ← (WorkflowRow.ofDefinition d).written
    match r.get? d.id with
    | some _ => throw ⟨.integrity, []⟩
    | none => return (kept, { r with definitions := r.definitions ++ [kept] })

/-- What is kept in the place of `old` when `d` replaces it. -/
def replacement (b : Backend) (old d : Definition) : Except Fault Definition :=
  match b with
  | .memory => .ok d
  | .database => ((WorkflowRow.ofDefinition old).apply d).written

/-- A workflow put in the place of the one with its identifier; nothing if there is none. -/
def replace? (r : Repository) (d : Definition) :
    Option (Except Fault (Definition × Repository)) :=
  (r.get? d.id).map fun old => do
    let kept ← replacement r.backend old d
    return (kept,
      { r with definitions := r.definitions.map fun e => if e.id = d.id then kept else e })

/-- The workflow with an identifier removed; nothing if there is none. -/
def delete? (r : Repository) (id : String) : Option Repository :=
  (r.get? id).map fun _ => { r with definitions := r.definitions.filter fun e => e.id != id }

end Repository

end Automation
