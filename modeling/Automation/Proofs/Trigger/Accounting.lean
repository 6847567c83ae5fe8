import Automation.Proofs.Trigger.Run
import Automation.Proofs.Workflow.Reachable
import Automation.Trigger.Result
import Mathlib.Algebra.GroupWithZero.Nat
import Mathlib.Data.List.Perm.Basic

/-!
# What a trigger accounts for

A trigger looks up the workflows that match, carries them out in any order, and puts together what
came of it in the order of the workflows.  The executions in that order are the *runs* of the
trigger (`Engine.Accounts`), and the result is made of nothing else (`accounts_trigger`).

`trigger_accounts` says what that comes to for the workflows of a reachable store: the workflows
that match are named in the order of a listing, each action of each of them has one result of its
kind, and the log gains the records that could be kept and no other.
-/

namespace Automation

/-! ## The workflows that match -/

namespace Engine

/-- The active workflows of a kind of event whose conditions all hold, in the order of a listing. -/
def matching (s : Engine) (t : EventType) (context : Value) : List Definition :=
  s.repository.listing.filter fun d =>
    d.isActive && d.eventType == t && d.conditions.all fun c => c.holds context

end Engine

/-- A workflow is carried out for an event in which all its conditions hold. -/
theorem Definition.matchedBy_eq (d : Definition) (context : Value) :
    d.matchedBy context = d.conditions.all fun c => c.holds context := rfl

theorem Store.active_eq (r : Repository) (t : EventType) :
    active r t = r.listing.filter fun d => d.isActive && d.eventType == t := by
  rw [active, Repository.list_eq, List.filter_filter]
  refine List.filter_congr fun d _ => ?_
  by_cases h : d.eventType = t
  · simp [DefinitionFilter.admits, Definition.triggersOn, h]
  · simp [Definition.triggersOn, h]

theorem Engine.lookUp_mapping {s : Engine} (hlist : s.listFailure = none) {v : Value}
    {t : EventType} (ht : checkEventType v = .ok t) (m : Mapping) :
    s.lookUp v (.mapping m) = .ok ⟨t, .mapping m, s.matching t (.mapping m)⟩ := by
  simp [lookUp, ht, hlist, Mapping.ofOptional_mapping, Store.active_eq, matching,
    Definition.matchedBy_eq, List.filter_filter, Bool.and_comm]

/-! ## Executions in the order of the workflows -/

theorem TriggerResult.executionAt_of_mem {finished : List Finished} {f : Finished}
    (hnodup : (finished.map (·.place)).Nodup) (hf : f ∈ finished) :
    executionAt finished f.place = some f := by
  rw [executionAt]
  cases hfind : finished.find? fun g => g.place == f.place with
  | none => simpa using List.find?_eq_none.1 hfind f hf
  | some g =>
    have hg := List.mem_of_find?_eq_some hfind
    have hplace : g.place = f.place := by simpa using List.find?_some hfind
    rw [List.inj_on_of_nodup_map hnodup hg hf hplace]

/-- Executions at all the places are put into the order of the places. -/
theorem TriggerResult.inOrder_eq {m : Match} {finished runs : List Finished}
    (hplaces : runs.map (·.place) = List.range m.definitions.length)
    (hperm : runs.Perm finished) : inOrder m finished = runs := by
  have hnodup : (finished.map (·.place)).Nodup := by
    rw [← (hperm.map _).nodup_iff, hplaces]
    exact List.nodup_range
  calc inOrder m finished
      = (runs.map (·.place)).filterMap (executionAt finished) := by rw [inOrder, hplaces]
    _ = runs.filterMap fun f => executionAt finished f.place := List.filterMap_map
    _ = runs.filterMap some := List.filterMap_congr fun f hf =>
        executionAt_of_mem hnodup (hperm.mem_iff.1 hf)
    _ = runs := List.filterMap_some

namespace Match

theorem map_definition_tasks (m : Match) (trigger : Nat) :
    (m.tasks trigger).map (·.definition) = m.definitions :=
  List.ext_getElem (by simp [tasks]) fun i _ _ => by simp [tasks]

theorem map_place_tasks (m : Match) (trigger : Nat) :
    (m.tasks trigger).map (·.place) = List.range m.definitions.length :=
  List.ext_getElem (by simp [tasks]) fun i _ _ => by simp [tasks]

/-- A task of a trigger is fresh, and for the event of the trigger. -/
theorem mem_tasks {m : Match} {trigger : Nat} {t : Task} (h : t ∈ m.tasks trigger) :
    t.ticket = t ∧ t.trigger = trigger ∧ t.eventType = m.eventType ∧ t.context = m.context := by
  obtain ⟨i, hi, rfl⟩ := List.mem_mapIdx.1 h
  exact ⟨rfl, rfl, rfl, rfl⟩

theorem ticket_tasks (m : Match) (trigger : Nat) : ∀ t ∈ m.tasks trigger, t.ticket = t :=
  fun _ h => (mem_tasks h).1

end Match

/-! ## Runs of a trigger -/

namespace Engine

/-- The runs of a trigger, with the engine that they leave: an execution for each of the workflows,
in their order. -/
structure Accounts (s : Engine) (m : Match) (runs : List Finished) (s' : Engine) : Prop where
  completes : List.Forall₂ (Task.Completes s) (m.tasks 0) runs
  settled : ∀ f ∈ runs, Schedule.Settled s f
  /-- The log grows by the records that are kept. -/
  log : ∃ kept, s'.log = { s.log with records := s.log.records ++ kept } ∧
    kept.Perm (Schedule.keptRecords s.log.backend runs)
  /-- The identifiers of the records were issued meanwhile. -/
  issued : ∀ f ∈ runs, Issued s.issued s'.issued f.record.id
  nodup : (runs.map fun f => f.record.id).Nodup
  steady : s.Steady s'

/-- The result of a trigger, made from its runs. -/
def resultOf (m : Match) (runs : List Finished) : TriggerResult where
  success := runs.all fun f => f.fault.isNone
  workflowIds := m.definitions.map (·.id)
  executed := (runs.flatMap fun f => f.record.results).length
  issues := runs.flatMap TriggerResult.issuesOf
  executionIds := (runs.filter fun f => f.fault.isNone).map (·.record.id)

/-- Runs stay what they are while nothing more is recorded. -/
theorem Accounts.of_quiet {s s' s'' : Engine} {m : Match} {runs : List Finished}
    (h : s.Accounts m runs s') (hquiet : s'.Quiet s'') : s.Accounts m runs s'' where
  completes := h.completes
  settled := h.settled
  log := hquiet.log.symm ▸ h.log
  issued f hf := (h.issued f hf).mono le_rfl hquiet.issued
  nodup := h.nodup
  steady := h.steady.trans hquiet.toSteady

/-- Where the books of a trigger are right and no task is left, it has runs, and its result is made
from them. -/
theorem accounts_of_books {s engine : Engine} {m : Match} {finished : List Finished}
    (h : Schedule.Books s (m.tasks 0) engine finished []) :
    ∃ runs, s.Accounts m runs engine ∧ runs.Perm finished ∧
      (triggered finished 0 (.ok m)).1 = resultOf m runs := by
  obtain ⟨tickets, htickets, hperm⟩ := h.tickets
  rw [List.map_nil, List.append_nil] at hperm
  obtain ⟨runs, hruns, hfinished⟩ : ∃ runs, List.Forall₂ (Task.Completes s) (m.tasks 0) runs ∧
      runs.Perm finished := List.perm_comp_forall₂ hperm.symm htickets
  have hall : (finished.filter fun f => f.trigger == 0) = finished := by
    rw [List.filter_eq_self]
    intro f hf
    obtain ⟨t, ht, hcompletes⟩ := exists_mem_of_forall₂ hruns f (hfinished.mem_iff.2 hf)
    rw [hcompletes.trigger, (Match.mem_tasks ht).2.1]
    rfl
  have hplaces : runs.map (·.place) = List.range m.definitions.length := by
    rw [← m.map_place_tasks 0]
    exact (map_eq_map_of_forall₂ hruns fun t f hc => hc.place.symm).symm
  refine ⟨runs, ⟨hruns, ?_, ⟨_, h.log, ?_⟩, ?_, ?_, h.steady⟩, hfinished, ?_⟩
  · exact fun f hf => h.settled f (hfinished.mem_iff.1 hf)
  · exact ((hfinished.symm.filter _).map _)
  · exact fun f hf => h.issued f (hfinished.mem_iff.1 hf)
  · exact (hfinished.map _).nodup_iff.2 h.nodup
  · rw [triggered, hall, TriggerResult.of, TriggerResult.inOrder_eq hplaces hfinished]
    rfl

theorem tasksOf_singleton (m : Match) : tasksOf [.ok m] = m.tasks 0 := by
  simp [tasksOf]

/-- A trigger that looks up its workflows is a run of the schedule. -/
theorem trigger_of_lookUp {s : Engine} {v context : Value} {m : Match}
    (h : s.lookUp v context = .ok m) :
    let done := Schedule.run { engine := s, ready := m.tasks 0 }
    s.trigger v context = ((triggered done.finished 0 (.ok m)).1,
      done.engine.addSpan (triggered done.finished 0 (.ok m)).2) := by
  simp only [trigger, h, tasksOf_singleton]

/-- A trigger that looks up its workflows has runs, and its result is made from them. -/
theorem accounts_trigger {s : Engine} {v context : Value} {m : Match}
    (h : s.lookUp v context = .ok m) :
    ∃ runs, s.Accounts m runs (s.trigger v context).2 ∧
      (s.trigger v context).1 = resultOf m runs := by
  have hbooks := Schedule.books_run s (m.ticket_tasks 0)
  obtain ⟨runs, haccounts, -, hresult⟩ := accounts_of_books hbooks
  rw [trigger_of_lookUp h]
  exact ⟨runs, haccounts.of_quiet ⟨⟨rfl, rfl, rfl, rfl, rfl, rfl, rfl, rfl, le_rfl⟩, rfl⟩, hresult⟩

end Engine

/-! ## Accounts of a reachable store -/

/-- The status of a workflow that has actions says whether all, none or some of them succeeded. -/
theorem Status.ofResults_iff {rs : List ActionResult} (hne : rs ≠ []) :
    (ofResults rs = .success ↔ ∀ r ∈ rs, r.success = true) ∧
    (ofResults rs = .failed ↔ ∀ r ∈ rs, r.success = false) ∧
    (ofResults rs = .mixed ↔ (∃ r ∈ rs, r.success = true) ∧ ∃ r ∈ rs, r.success = false) := by
  obtain ⟨r, hr⟩ := List.exists_mem_of_ne_nil rs hne
  have hall : ((rs.map (·.success)).all id = true) ↔ ∀ r ∈ rs, r.success = true := by simp
  have hnone : ((rs.map (·.success)).all (!·) = true) ↔ ∀ r ∈ rs, r.success = false := by simp
  rw [ofResults, ofOutcomes]
  by_cases h1 : ∀ r ∈ rs, r.success = true
  · rw [if_pos (hall.2 h1)]
    refine ⟨iff_of_true rfl h1, iff_of_false nofun ?_, iff_of_false nofun ?_⟩
    · intro h2
      cases (h1 r hr).symm.trans (h2 r hr)
    · rintro ⟨-, q, hq, hfailed⟩
      cases (h1 q hq).symm.trans hfailed
  · rw [if_neg (mt hall.1 h1)]
    by_cases h2 : ∀ r ∈ rs, r.success = false
    · rw [if_pos (hnone.2 h2)]
      refine ⟨iff_of_false nofun h1, iff_of_true rfl h2, iff_of_false nofun ?_⟩
      rintro ⟨⟨q, hq, hsucceeded⟩, -⟩
      cases (h2 q hq).symm.trans hsucceeded
    · rw [if_neg (mt hnone.1 h2)]
      refine ⟨iff_of_false nofun h1, iff_of_false nofun h2, iff_of_true rfl ⟨?_, ?_⟩⟩
      · simpa using h2
      · simpa using h1

/-- The execution of a workflow for an event. -/
structure Engine.Execution (s : Engine) (t : EventType) (context : Value) (d : Definition)
    (f : Finished) : Prop where
  workflowId : f.record.workflowId = d.id
  eventType : f.record.eventType = t
  /-- The actions are carried out one after the other, with a result for each. -/
  carriedOut : s.CarriedOut context d.id d.actions f.record.results
  /-- There is one result for each action, in order, and of its kind. -/
  results : List.Forall₂ (fun a r => r.actionType = a.type) d.actions f.record.results
  success : f.record.status = .success ↔ ∀ r ∈ f.record.results, r.success = true
  failed : f.record.status = .failed ↔ ∀ r ∈ f.record.results, r.success = false
  mixed : f.record.status = .mixed ↔
    (∃ r ∈ f.record.results, r.success = true) ∧ ∃ r ∈ f.record.results, r.success = false
  /-- The record is kept if it can be. -/
  kept : f.fault = none ↔ s.Recordable f.record
  /-- In memory it can be kept unless the recording of this workflow fails. -/
  memory : s.log.backend = .memory → (f.fault = none ↔ s.unrecordable? d.id = none)

theorem Engine.recordable_iff_of_memory {s : Engine} (h : s.log.backend = .memory)
    (r : ExecutionRecord) : s.Recordable r ↔ s.unrecordable? r.workflowId = none := by
  constructor
  · exact fun hr => hr.available
  · intro havailable
    refine ⟨havailable, by rw [h]; rfl, ?_⟩
    rw [h]
    exact nofun

theorem Schedule.Settled.fault_eq_none_iff {s : Engine} {f : Finished} (h : Settled s f) :
    f.fault = none ↔ s.Recordable f.record := by
  rcases h with ⟨hr, hfault⟩ | ⟨hr, failure, hfault, -⟩
  · exact iff_of_true hfault hr
  · exact iff_of_false (by simp [hfault]) hr

/-- What is carried out of a valid workflow is an execution of it. -/
theorem Task.Completes.execution {s : Engine} {t : Task} {f : Finished} (h : t.Completes s f)
    (hsettled : Schedule.Settled s f) (hvalid : t.definition.Valid) :
    s.Execution t.eventType t.context t.definition f := by
  have hresults : List.Forall₂ (fun a r => r.actionType = a.type) t.definition.actions
      f.record.results := by
    refine forall₂_imp_of_mem h.results.forall₂ fun a ha r _ hyields => ?_
    obtain ⟨kind, hkind⟩ := hvalid.actions a ha
    obtain ⟨_, hyields⟩ := hyields
    rw [hyields.reportedBy.type, hkind, Value.display]
  have hne : f.record.results ≠ [] := by
    intro hempty
    rw [hempty] at hresults
    exact hvalid.actions_ne_nil (List.forall₂_nil_right_iff.1 hresults)
  obtain ⟨hsuccess, hfailed, hmixed⟩ := Status.ofResults_iff hne
  rw [← h.status] at hsuccess hfailed hmixed
  refine ⟨h.workflowId, h.eventType, h.results, hresults, hsuccess, hfailed, hmixed,
    hsettled.fault_eq_none_iff, ?_⟩
  intro hmemory
  rw [hsettled.fault_eq_none_iff, Engine.recordable_iff_of_memory hmemory, h.workflowId]

theorem Repository.listing_perm (r : Repository) : r.listing.Perm r.definitions := by
  rw [listing]
  split
  · exact .refl _
  · exact List.mergeSort_perm _ _

/-- What an execution that was not a full success adds to the issues: the actions that failed, and
then the fault of its recording. -/
def Finished.issues (f : Finished) : List TriggerIssue :=
  ((f.record.results.filter fun r => !r.success).map fun r =>
    { workflowId := some f.record.workflowId
      actionType := r.actionType
      error := r.error.orElse (.text "action failed") })
  ++ f.fault.toList.map fun text =>
    { workflowId := some f.record.workflowId, actionType := .null, error := .text text }

theorem TriggerResult.issuesOf_eq (f : Finished) : issuesOf f = f.issues := by
  rw [issuesOf, Finished.issues]
  cases f.fault <;> rfl

namespace Engine

/-- The runs of a trigger of valid workflows are executions of them. -/
theorem Accounts.executions {s s' : Engine} {m : Match} {runs : List Finished}
    (h : s.Accounts m runs s') (hvalid : ∀ d ∈ m.definitions, d.Valid) :
    List.Forall₂ (s.Execution m.eventType m.context) m.definitions runs := by
  rw [← m.map_definition_tasks 0, List.forall₂_map_left_iff]
  refine forall₂_imp_of_mem h.completes fun t ht f hf hcompletes => ?_
  have hmem : t.definition ∈ m.definitions := by
    rw [← m.map_definition_tasks 0]
    exact List.mem_map_of_mem ht
  obtain ⟨-, -, hevent, hcontext⟩ := Match.mem_tasks ht
  rw [← hevent, ← hcontext]
  exact hcompletes.execution (h.settled f hf) (hvalid _ hmem)

theorem valid_of_mem_matching {s : Engine} (hs : s.repository.Sound) {t : EventType}
    {context : Value} {d : Definition} (hd : d ∈ s.matching t context) : d.Valid :=
  hs.valid d (s.repository.listing_perm.mem_iff.1 (List.mem_of_mem_filter hd))

/-- What a trigger accounts for, in an engine whose store is reachable and can be read.

Some executions, one for each of the workflows that match and in the order of a listing, make up the
result and all that is added to the log.  Each carries out the actions of its workflow and has one
result for each of them.  The records that could be kept are the ones whose identifiers are told,
and they are what the log gains. -/
theorem trigger_accounts (s : Engine) (hs : s.repository.Reachable) (hlist : s.listFailure = none)
    (v : Value) (t : EventType) (ht : DescribesEventType v t) (context : Mapping) :
    ∃ runs : List Finished,
      List.Forall₂ (s.Execution t (.mapping context)) (s.matching t (.mapping context)) runs ∧
      (s.trigger v (.mapping context)).1.workflowIds =
        (s.matching t (.mapping context)).map (·.id) ∧
      (s.trigger v (.mapping context)).1.executed =
        ((s.matching t (.mapping context)).map (·.actions.length)).sum ∧
      (s.trigger v (.mapping context)).1.issues = runs.flatMap Finished.issues ∧
      (s.trigger v (.mapping context)).1.executionIds =
        (runs.filter fun f => f.fault.isNone).map (·.record.id) ∧
      ((s.trigger v (.mapping context)).1.success = true ↔ ∀ f ∈ runs, f.fault = none) ∧
      (∃ kept, (s.trigger v (.mapping context)).2.log =
          { s.log with records := s.log.records ++ kept } ∧
        kept.Perm ((runs.filter fun f => f.fault.isNone).map fun f =>
          s.log.backend.storedRecord f.record)) ∧
      (runs.map fun f => f.record.id).Nodup ∧
      (s.trigger v (.mapping context)).2.repository = s.repository := by
  have hlookUp := lookUp_mapping hlist (checkEventType_eq_ok_iff.2 ht) context
  obtain ⟨runs, haccounts, hresult⟩ := accounts_trigger hlookUp
  have hexecutions := haccounts.executions fun d hd => valid_of_mem_matching hs.sound hd
  rw [hresult]
  refine ⟨runs, hexecutions, rfl, ?_, ?_, rfl, ?_, haccounts.log, haccounts.nodup,
    haccounts.steady.repository⟩
  · have hlengths : (s.matching t (.mapping context)).map (·.actions.length) =
        runs.map fun f => f.record.results.length :=
      map_eq_map_of_forall₂ hexecutions fun d f h => h.results.length_eq
    rw [hlengths, resultOf, List.length_flatMap]
  · exact congrArg runs.flatMap (funext TriggerResult.issuesOf_eq)
  · simp [resultOf]

/-- A draft that answers failed payments with notifications, those for one plan or for any. -/
def paymentDraft (name : String) (notifications : Nat) (plan : Option String) : Draft where
  name := .text name
  eventType := .text "payment_failed"
  actions := .list (.replicate notifications (.mapping [("type", .text "create_notification")]))
  conditions := .list (plan.toList.map fun plan =>
    .mapping [("field", .text "plan"), ("operator", .text "equals"), ("value", .text plan)])

/-- An engine that keeps three workflows for failed payments: for the basic plan, for any plan, and
for the golden plan.  It cannot record the executions of the second. -/
def halfRecorded : Engine :=
  let s := ((empty .memory ⟨0, some 0⟩).createWorkflow (paymentDraft "first" 2 (some "basic"))).2
  let s := (s.createWorkflow (paymentDraft "second" 1 none)).2
  { (s.createWorkflow (paymentDraft "third" 1 (some "gold"))).2 with
    recordFailures := fun id =>
      if id = "id0002" then some (.fault (.withText .runtime "disk full")) else none }

theorem reachable_halfRecorded : halfRecorded.repository.Reachable :=
  reachable_createWorkflow
    (reachable_createWorkflow (reachable_createWorkflow ⟨.memory, [], rfl⟩ _) _) _

/-- A payment for the basic plan. -/
def basicPayment : Mapping := [("plan", .text "basic")]

/-- The third workflow is for another plan and is left out.  Both others are carried out, and as the
second execution is not recorded the trigger is no success. -/
theorem trigger_accounts_halfRecorded :
    halfRecorded.repository.Reachable ∧ halfRecorded.listFailure = none ∧
      DescribesEventType (.text "payment_failed") .paymentFailed ∧
      halfRecorded.repository.definitions.map (·.id) = ["id0001", "id0002", "id0003"] ∧
      (halfRecorded.trigger (.text "payment_failed") (.mapping basicPayment)).1.workflowIds
        = ["id0001", "id0002"] ∧
      (halfRecorded.trigger (.text "payment_failed") (.mapping basicPayment)).1.executed = 3 ∧
      (halfRecorded.trigger (.text "payment_failed") (.mapping basicPayment)).1.success
        = false := by
  have hs : halfRecorded.repository.Reachable := reachable_halfRecorded
  have ht : DescribesEventType (.text "payment_failed") .paymentFailed := .text (by decide +kernel)
  obtain ⟨runs, hruns, hids, hexecuted, -, -, hsuccess, -⟩ :=
    trigger_accounts halfRecorded hs rfl (.text "payment_failed") .paymentFailed ht basicPayment
  obtain ⟨first, second, hmatching, hfirst, hsecond⟩ : ∃ first second,
      halfRecorded.matching .paymentFailed (.mapping basicPayment) = [first, second] ∧
        (first.id, first.actions.length) = ("id0001", 2) ∧
        (second.id, second.actions.length) = ("id0002", 1) := ⟨_, _, rfl, by decide +kernel, by
    decide +kernel⟩
  obtain ⟨hid₁, hlength₁⟩ := Prod.mk.inj hfirst
  obtain ⟨hid₂, hlength₂⟩ := Prod.mk.inj hsecond
  rw [hmatching] at hruns hids hexecuted
  refine ⟨hs, rfl, ht, rfl, ?_, ?_, ?_⟩
  · rw [hids, List.map_cons, List.map_cons, hid₁, hid₂, List.map_nil]
  · rw [hexecuted, List.map_cons, List.map_cons, hlength₁, hlength₂]
    rfl
  · rw [Bool.eq_false_iff]
    intro htrue
    obtain - | ⟨-, hrest⟩ := hruns
    obtain - | ⟨hrun, -⟩ := hrest
    have hfault := (hrun.memory rfl).1 (hsuccess.1 htrue _ (by simp))
    rw [hid₂] at hfault
    cases hfault

end Engine

end Automation
