import Automation.Execution.Grouping
import Automation.Execution.Log

/-!
# Statistics

Counts and averages over the execution log, recomputed from the records each time they are asked
for: of all workflows together (`Statistics.of`), and of one (`Metrics.of`).  There are none if the
kinds of actions cannot be put in an order, or if the average duration is beyond the doubles.
-/

namespace Automation

/-- How many records have each of the statuses that occur. -/
def statusCounts (rs : List ExecutionRecord) : List (Status × Nat) := tally [] (rs.map (·.status))

/-- How many records are of each kind of event, also of those that do not occur. -/
def eventCounts (rs : List ExecutionRecord) : List (EventType × Nat) :=
  tally (EventType.all.map fun t => (t, 0)) (rs.map (·.eventType))

/-- The success rate of records. -/
def recordRate (rs : List ExecutionRecord) : Double :=
  successRate (counted (statusCounts rs) .success) rs.length

/-- The fault of an average beyond the doubles. -/
def averageFault : Fault := .withText .overflow "int too large to convert to float"

/-- The average duration of records. -/
def recordAverage (rs : List ExecutionRecord) : Except Fault Double :=
  match averageDuration? (rs.map (·.totalDuration)) with
  | some x => .ok x
  | none => .error averageFault

/-- The counts of one kind of action. -/
structure ActionCounts where
  /-- The kind. -/
  actionType : Key
  /-- How often it was carried out. -/
  total : Nat
  /-- How often it succeeded. -/
  successful : Nat
deriving Repr

/-- How often it failed. -/
def ActionCounts.failed (c : ActionCounts) : Nat := c.total - c.successful

/-- One of the workflows executed most often. -/
structure TopWorkflow where
  /-- The workflow. -/
  workflowId : String
  /-- Its name, if it still exists. -/
  name : Option String
  /-- How often it was executed. -/
  count : Nat
  /-- How often that went well, in percent. -/
  successRate : Double
deriving Repr

/-- Statistics of all workflows. -/
structure Statistics where
  /-- The number of workflows. -/
  workflows : Nat
  /-- The number of active workflows. -/
  activeWorkflows : Nat
  /-- The number of executions. -/
  executions : Nat
  /-- The number of executions that were successes. -/
  successful : Nat
  /-- The number of executions of which some actions failed. -/
  mixed : Nat
  /-- The number of executions that failed. -/
  failed : Nat
  /-- How many executions were successes, in percent. -/
  successRate : Double
  /-- How long an execution took on average, in milliseconds. -/
  averageDuration : Double
  /-- The number of executions of each status. -/
  byStatus : List (Status × Nat)
  /-- The number of executions for each kind of event. -/
  byEventType : List (EventType × Nat)
  /-- The counts of each kind of action that occurs, in the order of the kinds. -/
  actions : List ActionCounts
  /-- The workflows executed most often. -/
  top : List TopWorkflow
deriving Repr

/-- The number of workflows among those executed most often. -/
def topLimit : Nat := 5

/-- The results of all actions of records. -/
def allResults (rs : List ExecutionRecord) : List ActionResult := rs.flatMap (·.results)

/-- The kind of each result, with whether it was a success. -/
def keyedOutcomes (results : List ActionResult) : Except Fault (List (Key × Bool)) :=
  results.mapM fun r => do return (← r.actionType.key, r.success)

/-- How often each kind of action was carried out, and how often it succeeded. -/
def actionTotals (outcomes : List (Key × Bool)) : List (Key × Nat × Nat) :=
  gather Key.same (0, 0) Prod.fst (fun o n => (n.1 + 1, if o.2 then n.2 + 1 else n.2)) [] outcomes

/-- The fault of kinds of actions that are in no order. -/
def kindOrderFault : Fault := .withText .type "'<' not supported between kinds of actions"

/-- The counts of each kind of action among results. -/
def actionBreakdown (results : List ActionResult) : Except Fault (List ActionCounts) := do
  match sortByKey? (actionTotals (← keyedOutcomes results)) with
  | some totals => return totals.map fun (kind, total, successful) => ⟨kind, total, successful⟩
  | none => throw kindOrderFault

/-- The records of each workflow, in their order. -/
def byWorkflow (rs : List ExecutionRecord) : List (String × List ExecutionRecord) :=
  gather (fun id other => id == other) [] (·.workflowId) (fun r items => items ++ [r]) [] rs

/-- Whether a workflow with its records is ranked before another: by the number of records, the
greater one first, then by identifier. -/
def rankedBefore (a b : String × List ExecutionRecord) : Bool :=
  if a.2.length = b.2.length then decide (a.1 ≤ b.1) else decide (b.2.length < a.2.length)

/-- The workflows executed most often. -/
def topWorkflows (definitions : List Definition) (rs : List ExecutionRecord) : List TopWorkflow :=
  (((byWorkflow rs).mergeSort rankedBefore).take topLimit).map fun (id, items) =>
    { workflowId := id
      name := (definitions.find? (·.id == id)).map (·.name)
      count := items.length
      successRate := recordRate items }

/-- The statistics of workflows and records. -/
def Statistics.of (definitions : List Definition) (rs : List ExecutionRecord) :
    Except Fault Statistics := do
  let actions ← actionBreakdown (allResults rs)
  let averageDuration ← recordAverage rs
  return {
    workflows := definitions.length
    activeWorkflows := definitions.countP (·.isActive)
    executions := rs.length
    successful := counted (statusCounts rs) .success
    mixed := counted (statusCounts rs) .mixed
    failed := counted (statusCounts rs) .failed
    successRate := recordRate rs
    averageDuration
    byStatus := Status.all.map fun s => (s, counted (statusCounts rs) s)
    byEventType := eventCounts rs
    actions
    top := topWorkflows definitions rs }

/-- The filter of the statistics from an instant on. -/
def sinceFilter (since : Option Timestamp) : Except Fault ExecutionFilter := do
  return { start := ← since.mapM Timestamp.inUtc }

/-- The statistics of workflows and of the records of a log, perhaps only those from an instant
on. -/
def Log.statistics (l : Log) (definitions : List Definition) (since : Option Timestamp) :
    Except Fault Statistics := do
  Statistics.of definitions (← l.listing (← sinceFilter since))

/-- Statistics of one workflow. -/
structure Metrics where
  /-- The workflow. -/
  workflowId : String
  /-- The number of executions. -/
  executions : Nat
  /-- The number of executions that were successes. -/
  successful : Nat
  /-- The number of executions of which some actions failed. -/
  mixed : Nat
  /-- The number of executions that failed. -/
  failed : Nat
  /-- How many executions were successes, in percent. -/
  successRate : Double
  /-- How long an execution took on average, in milliseconds. -/
  averageDuration : Double
  /-- When the workflow was last started. -/
  lastExecuted : Option Timestamp
deriving Repr

/-- The latest of some timestamps, and of those of one instant the first. -/
def Timestamp.latest? : List Timestamp → Option Timestamp
  | [] => none
  | t :: ts => some (ts.foldl (fun latest u => if latest.before u then u else latest) t)

/-- The statistics of one workflow from its records. -/
def Metrics.of (id : String) (rs : List ExecutionRecord) : Except Fault Metrics := do
  let averageDuration ← recordAverage rs
  return {
    workflowId := id
    executions := rs.length
    successful := counted (statusCounts rs) .success
    mixed := counted (statusCounts rs) .mixed
    failed := counted (statusCounts rs) .failed
    successRate := recordRate rs
    averageDuration
    lastExecuted := Timestamp.latest? (rs.map (·.triggeredAt)) }

/-- The statistics of one workflow from a log. -/
def Log.metrics (l : Log) (id : String) : Except Fault Metrics := do
  Metrics.of id (← l.listing { workflowId := .text id })

end Automation
