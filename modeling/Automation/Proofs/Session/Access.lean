import Automation.Proofs.Execution.Listing
import Automation.Proofs.Execution.Same
import Automation.Proofs.Session.Basic
import Automation.Proofs.Workflow.Update

/-!
# Calls that can be answered alike

A session of an engine may also give records to the log (`Access`).  This module says which calls
two backends can be expected to answer alike (`Access.Plain`) and when answers are alike (`Agree`):
the workflows in them are equal, the records are equal up to the form of their durations, and the
failures are equal.

What is kept is JSON as it can be written (`Value.isJson`), since the database keeps the JSON text
of it.  Filters look for names, and their bounds can be told in UTC.
-/

namespace Automation

/-! ## Calls -/

/-- A call that reads or changes what is kept: an operation, or a record given to the log. -/
inductive Access where
  | ask (o : Operation)
  | record (r : ExecutionRecord)

/-- A draft whose conditions and actions carry JSON. -/
structure Draft.Plain (p : Draft) : Prop where
  conditions : ∀ cs, DescribesConditions p.conditions cs → ∀ c ∈ cs, c.value.isJson = true
  actions : ∀ as, DescribesActions p.actions as → ∀ a ∈ as, entriesJson a.config = true

/-- A patch whose conditions and actions carry JSON. -/
structure Patch.Plain (p : Patch) : Prop where
  conditions : ∀ v ∈ p.conditions, ∀ cs, DescribesConditions v cs →
    ∀ c ∈ cs, c.value.isJson = true
  actions : ∀ v ∈ p.actions, ∀ as, DescribesActions v as → ∀ a ∈ as, entriesJson a.config = true

theorem Patch.IsJson.plain {p : Patch} (h : p.IsJson) : p.Plain where
  conditions v hv _ hcs c hc := (hcs.isJson (h.conditions v hv) c hc).value
  actions v hv _ has a ha := (has.isJson (h.actions v hv) a ha).config

/-- A name that a filter looks for: a text, or null for any. -/
inductive Value.IsName : Value → Prop where
  | null : IsName .null
  | text (s : String) : IsName (.text s)

/-- A filter of names and of bounds that can be told in UTC. -/
structure ExecutionFilter.Plain (f : ExecutionFilter) : Prop where
  workflowId : f.workflowId.IsName
  eventType : f.eventType.IsName
  status : f.status.IsName
  convertible : f.Convertible

/-- The calls that both backends answer alike.  A page of the history may lie beyond the last one,
but not beyond what the database can skip, which is more than any log holds. -/
inductive Access.Plain : Access → Prop where
  | create {draft : Draft} (h : draft.Plain) : Plain (.ask (.create draft))
  | update (id : String) {patch : Patch} (h : patch.Plain) : Plain (.ask (.update id patch))
  | delete (id : String) : Plain (.ask (.delete id))
  | get (id : String) : Plain (.ask (.get id))
  | list (isActive : Option Bool) (eventType : Value) : Plain (.ask (.list isActive eventType))
  | active (eventType : Value) : Plain (.ask (.active eventType))
  | executions {filter : ExecutionFilter} (h : filter.Plain) : Plain (.ask (.executions filter))
  | history {request : HistoryRequest} (h : request.filter.Plain)
      (within : ∀ f, request.check = .ok f → (request.page - 1) * request.limit < Log.skipLimit) :
      Plain (.ask (.history request))
  | record {r : ExecutionRecord} (h : r.Plain) : Plain (.record r)

namespace Access

/-- The time at which a call writes, if it is not refused. -/
def writtenAt (clock : Timestamp) : Access → List Timestamp
  | .ask (.create _) => [clock]
  | .ask (.createFromStarter ..) => [clock]
  | .ask (.update ..) => [clock]
  | .record r => [r.triggeredAt]
  | _ => []

end Access

/-- Answers that are equal, the durations of records being equal numbers. -/
inductive Answer.Same : Answer → Answer → Prop where
  | refl (a : Answer) : Same a a
  | records {rs qs : List ExecutionRecord} (h : List.Forall₂ ExecutionRecord.Same rs qs) :
      Same (.records rs) (.records qs)
  | page {rs qs : List ExecutionRecord} (h : List.Forall₂ ExecutionRecord.Same rs qs)
      (total : Nat) (page limit : Int) :
      Same (.page ⟨rs, total, page, limit⟩) (.page ⟨qs, total, page, limit⟩)

namespace Engine

/-- What a call comes to. -/
def access (s : Engine) : Access → Except Failure Answer × Engine
  | .ask o => s.perform o
  | .record r =>
    match s.record r with
    | .ok s' => (.ok (.recorded r), s')
    | .error f => (.error f, s)

/-- The answers to calls that are made one after the other. -/
def answers (s : Engine) : List (Surroundings × Access) → List (Except Failure Answer)
  | [] => []
  | (w, a) :: rest => ((s.amid w).access a).1 :: ((s.amid w).access a).2.answers rest

/-- The time at which a call has written; none if it was refused. -/
def written (s : Engine) (a : Access) : List Timestamp :=
  if (s.access a).1.isOk then a.writtenAt s.clock else []

/-- The times at which calls have written that are made one after the other. -/
def writes (s : Engine) : List (Surroundings × Access) → List Timestamp
  | [] => []
  | (w, a) :: rest => (s.amid w).written a ++ ((s.amid w).access a).2.writes rest

end Engine

end Automation
