import Automation.Execution.History
import Automation.Execution.Statistics
import Automation.Engine
import Automation.Workflow.Starter

/-!
# Management

What callers may ask of the engine besides triggering events: workflows are created, changed, looked
up and deleted, executions are recorded and listed, statistics are made.

A request that is refused leaves the workflows and the log as they are.  A new workflow takes its
identifier before it is checked, so a refused one uses it up.
-/

namespace Automation

namespace Engine

/-- The failure of listing workflows, if that fails. -/
def checkListing (s : Engine) : Except Failure Unit :=
  match s.listFailure with
  | some f => .error f
  | none => .ok ()

/-! ## Workflows -/

/-- A new workflow. -/
def createWorkflow (s : Engine) (d : Draft) : Except StoreError Definition × Engine :=
  let (id, s) := s.issue
  match Store.create s.repository id s.clock d with
  | .ok (definition, repository) => (.ok definition, { s with repository })
  | .error e => (.error e, s)

/-- A new workflow made from a starter. -/
def createFromStarter (s : Engine) (id name choices : Value) :
    Except Failure Definition × Engine :=
  match Starter.customized id name choices with
  | .error f => (.error f, s)
  | .ok draft =>
    let (result, s) := s.createWorkflow draft
    (result.mapError StoreError.toFailure, s)

/-- A workflow changed. -/
def updateWorkflow (s : Engine) (id : String) (p : Patch) :
    Except StoreError Definition × Engine :=
  match Store.update s.repository id s.clock p with
  | .ok (definition, repository) => (.ok definition, { s with repository })
  | .error e => (.error e, s)

/-- A workflow deleted between the two steps of changing it. -/
def updateDeleted (s : Engine) (id : String) (p : Patch) : Except StoreError Definition × Engine :=
  match Store.merge? s.repository id s.clock p with
  | .error e => (.error e, s)
  | .ok merged =>
    let s := { s with repository := (s.repository.delete? id).getD s.repository }
    match Store.put s.repository merged with
    | .ok (definition, repository) => (.ok definition, { s with repository })
    | .error e => (.error e, s)

/-- A workflow deleted. -/
def deleteWorkflow (s : Engine) (id : String) : Except StoreError Unit × Engine :=
  match Store.delete s.repository id with
  | .ok repository => (.ok (), { s with repository })
  | .error e => (.error e, s)

/-- The workflows that a listing shows. -/
def listWorkflows (s : Engine) (isActive : Option Bool) (eventType : Value) :
    Except Failure (List Definition) := do
  let filter ← (Store.checkFilter isActive eventType).mapError StoreError.toFailure
  s.checkListing
  return s.repository.list filter

/-- The active workflows bound to a kind of event. -/
def activeWorkflows (s : Engine) (eventType : Value) : Except Failure (List Definition) := do
  let t ← (checkEventType eventType).mapError fun e => .engine e.toEngineError
  s.checkListing
  return Store.active s.repository t

/-! ## Executions -/

/-- A page of the history. -/
def history (s : Engine) (q : HistoryRequest) : Except Failure HistoryPage :=
  (s.log.history q).mapError HistoryError.toFailure

/-- Statistics of all workflows. -/
def statistics (s : Engine) (since : Option Timestamp) : Except Failure Statistics := do
  s.checkListing
  (s.log.statistics s.repository.listing since).mapError .fault

/-- Statistics of one workflow. -/
def metrics (s : Engine) (id : String) : Except Failure Metrics := do
  discard ((Store.get s.repository id).mapError StoreError.toFailure)
  (s.log.metrics id).mapError .fault

end Engine

end Automation
