import Automation.Proofs.Trigger.Isolation

/-!
# Workflows one after the other

The simplest way to carry out the workflows of a trigger is one after the other, each action with
nothing in between (`Engine.oneByOne`).  It is what all other orders are compared with.

Two executions of a workflow come to the same (`Finished.Agrees`) if what an action comes to depends
on nothing but the action (`Engine.Independent`), since an execution is then told by its workflow.
Whether its record is kept is told by its workflow and its results too, provided that no identifier
was used before it was issued (`Engine.Foretells`).  So the results of triggers agree that are made
from such executions (`agrees_resultOf`).
-/

namespace Automation

/-! ## Actions whose outcomes depend on nothing else -/

/-- Results that say the same of an action, and bring what the database can keep or else what it
cannot. -/
structure ActionResult.Agrees (r r' : ActionResult) : Prop where
  verdict : r'.verdict = r.verdict
  storable : entriesStorable r'.output = entriesStorable r.output

namespace Engine

/-- What an action comes to depends on the action, its place and the event, whatever is done before
it and meanwhile. -/
def Independent (s : Engine) : Prop :=
  ∀ {a : Action} {context : Value} {place : Place} {r r' : ActionResult},
    s.Yields a context place r → s.Yields a context place r' → r.Agrees r'

variable {s s' s₀ : Engine} {outcomes : Place → Behaviour} {a : Action} {context : Value}
  {place : Place} {r r' : ActionResult}

theorem Asks.congr {t : ActionType} {wanted made : Call} (hlimits : s'.limits = s.limits)
    (hcustomers : s'.customers = s.customers) (h : s.Asks a context t wanted made) :
    s'.Asks a context t wanted made :=
  ⟨h.type, hlimits ▸ h.prepared, (route_congr hcustomers wanted).trans h.routed⟩

/-- The call for which an action waits is the one that it asks for, and its collaborator behaves as
is said for its place. -/
theorem Awaits.made (hfixed : s.Fixed outcomes) {p : Pending} (h : s.Awaits a context place p) :
    ∃ t, s.Asks a context t p.call p.made ∧ p.behaviour = outcomes place := by
  obtain ⟨u, u', hsteady, hbegin⟩ := h
  rcases u.begin_cases a context place with ⟨message, -, -, hcase⟩ | ⟨t, wanted, made, hasks, hcase⟩
  · cases hcase.symm.trans hbegin
  · cases hcase.symm.trans hbegin
    exact ⟨t, hasks.congr hsteady.limits.symm hsteady.customers.symm,
      (hfixed.steady hsteady).behaviourOf_eq place made⟩

/-- An action that is settled without a call is a failure and brings nothing. -/
theorem settled_of_begin (h : s.begin a context place = (.settled r, s')) :
    r.success = false ∧ r.output = [] := by
  rcases s.begin_cases a context place with ⟨message, -, -, hcase⟩ | ⟨t, wanted, made, -, hcase⟩
  · cases hcase.symm.trans h
    exact ⟨rfl, rfl⟩
  · cases hcase.symm.trans h

/-- A failure brings nothing. -/
theorem output_finish_of_failed {p : Pending} {expired : Bool}
    (h : (s.finish p expired).1.success = false) : (s.finish p expired).1.output = [] := by
  obtain ⟨u, -, hfinish⟩ := s.finish_settles p expired
  rw [hfinish] at h ⊢
  simp only [settle] at h ⊢
  simp [h]

theorem storable_finish_eq (hlimits : s'.limits = s.limits) {p p' : Pending}
    (hcall : p'.call = p.call) (hmade : p'.made = p.made) (hbehaviour : p'.behaviour = p.behaviour)
    (hrouted : Call.Routed p.call p.made) (expired : Bool) :
    entriesStorable (s'.finish p' expired).1.output =
      entriesStorable (s.finish p expired).1.output := by
  obtain ⟨herror, hstorable⟩ :=
    settle_replyTo_alike hlimits hcall hmade hbehaviour hrouted expired
  obtain ⟨u, -, hfinish⟩ := s.finish_settles p expired
  obtain ⟨u', -, hfinish'⟩ := s'.finish_settles p' expired
  rw [hfinish, hfinish']
  simp only [settle, Outcome.isSuccess_congr herror]
  split
  · exact hstorable
  · rfl

theorem Yields.storable_eq (hfixed : s.Fixed outcomes) (h : s.Yields a context place r)
    (h' : s.Yields a context place r') : entriesStorable r'.output = entriesStorable r.output := by
  have hverdict : r'.verdict = r.verdict :=
    (h'.verdict_eq hfixed).trans (h.verdict_eq hfixed).symm
  have hsuccess : r'.success = r.success := congrArg (fun verdict => verdict.2.1) hverdict
  cases h with
  | settled steady hbegin =>
    obtain ⟨hfailed, hnothing⟩ := settled_of_begin hbegin
    rw [hfailed] at hsuccess
    cases h' with
    | settled steady' hbegin' => rw [hnothing, (settled_of_begin hbegin').2]
    | finished awaits' steady' => rw [hnothing, output_finish_of_failed hsuccess]
  | @finished u p awaits steady =>
    cases h' with
    | settled steady' hbegin' =>
      obtain ⟨hfailed', hnothing'⟩ := settled_of_begin hbegin'
      rw [hfailed'] at hsuccess
      rw [hnothing', output_finish_of_failed hsuccess.symm]
    | @finished u' p' awaits' steady' =>
      obtain ⟨t, hasks, hbehaviour⟩ := awaits.made hfixed
      obtain ⟨t', hasks', hbehaviour'⟩ := awaits'.made hfixed
      obtain ⟨-, hcall, hmade⟩ := hasks'.unique hasks
      have hsame : p'.behaviour = p.behaviour := hbehaviour'.trans hbehaviour.symm
      rw [hsame]
      exact storable_finish_eq (steady'.limits.trans steady.limits.symm) hcall hmade hsame
        (routed_of_route hasks.routed) _

/-- Collaborators whose behaviours are fixed by the places of the actions make their outcomes depend
on nothing else. -/
theorem Fixed.independent (hfixed : s.Fixed outcomes) : s.Independent := fun h h' =>
  ⟨(h'.verdict_eq hfixed).trans (h.verdict_eq hfixed).symm, h.storable_eq hfixed h'⟩

/-- The results of actions that are carried out twice agree one by one. -/
theorem CarriedOut.agrees (hindependent : s.Independent) {workflowId : String} {as : List Action}
    {rs rs' : List ActionResult} (h : s.CarriedOut context workflowId as rs)
    (h' : s.CarriedOut context workflowId as rs') : List.Forall₂ ActionResult.Agrees rs rs' := by
  have hlength : as.length = rs.length := h.forall₂.length_eq
  have hlength' : as.length = rs'.length := h'.forall₂.length_eq
  refine List.forall₂_iff_get.2 ⟨hlength.symm.trans hlength', fun i hi hi' => ?_⟩
  have hbound : i < as.length := hlength ▸ hi
  have ha : as[i]? = some as[i] := List.getElem?_eq_getElem hbound
  exact hindependent (h.yields ha (List.getElem?_eq_getElem hi))
    (h'.yields ha (List.getElem?_eq_getElem hi'))

end Engine

/-! ## Recordings that depend on the execution -/

namespace Engine

/-- Why the record of an execution under a fresh identifier is not kept, if so. -/
def loss? (s : Engine) (r : ExecutionRecord) : Option Failure :=
  (s.unrecordable? r.workflowId).or ((s.log.backend.refusal? r).map .fault)

/-- All the identifiers in the log of a database were issued. -/
def Numbered (s : Engine) : Prop :=
  s.log.backend = .database → ∀ q ∈ s.log.records, Issued 0 s.issued q.id

/-- The fault of an execution is told by its record. -/
structure Foretells (s : Engine) (f : Finished) : Prop where
  fault : f.fault =
    (s.loss? f.record).map fun failure => "failed to record execution: " ++ failure.text
  duration : ∃ x, f.record.totalDuration = .double x

variable {s s₀ : Engine}

theorem record_of_fresh {r : ExecutionRecord}
    (hfresh : s.log.backend = .database → ∀ q ∈ s.log.records, q.id ≠ r.id) :
    (s.loss? r = none ∧ s.record r = .ok (s.withRecord r)) ∨
      ∃ failure, s.loss? r = some failure ∧ s.record r = .error failure := by
  have hfree : ¬ (s.log.backend = .database ∧ s.log.records.any (·.id == r.id) = true) := by
    rintro ⟨hdatabase, htaken⟩
    obtain ⟨q, hq, hid⟩ := List.any_eq_true.1 htaken
    exact hfresh hdatabase q hq (by simpa using hid)
  rw [loss?, record]
  cases havailable : s.unrecordable? r.workflowId with
  | some failure => exact .inr ⟨failure, rfl, rfl⟩
  | none =>
    cases hform : s.log.backend.refusal? r with
    | some fault => exact .inr ⟨.fault fault, rfl, by simp [Log.append_eq, hform]⟩
    | none =>
      refine .inl ⟨rfl, ?_⟩
      simp only [Log.append_eq, hform, Bool.and_eq_true, decide_eq_true_eq, if_neg hfree,
        withRecord]

theorem loss?_of_steady (hsteady : s₀.Steady s) (hbackend : s.log.backend = s₀.log.backend)
    (r : ExecutionRecord) : s.loss? r = s₀.loss? r := by
  rw [loss?, loss?, hsteady.unrecordable?_eq, hbackend]

/-- The fault of an execution that is concluded under a fresh identifier. -/
theorem foretells_conclude (hsteady : s₀.Steady s) (hbackend : s.log.backend = s₀.log.backend)
    (hfresh : s.log.backend = .database → ∀ q ∈ s.log.records, q.id ≠ s.issue.1) (t : Task)
    (progress : Progress) : s₀.Foretells (t.conclude progress s).1 := by
  have hloss : s.issue.2.loss? (t.recordOf progress s) = s₀.loss? (t.recordOf progress s) :=
    loss?_of_steady (s := s) hsteady hbackend _
  rcases record_of_fresh (s := s.issue.2) (r := t.recordOf progress s) hfresh with
    ⟨hnone, hrecord⟩ | ⟨failure, hsome, hrecord⟩
  · rw [Task.conclude_of_ok hrecord]
    exact ⟨by rw [← hloss, hnone]; rfl, _, rfl⟩
  · rw [Task.conclude_of_error hrecord]
    exact ⟨by rw [← hloss, hsome]; rfl, _, rfl⟩

end Engine

/-- Where the books are right, the next identifier is not in the log of a database. -/
theorem Schedule.Books.fresh {s₀ engine : Engine} {ts left : List Task} {finished : List Finished}
    (h : Books s₀ ts engine finished left) (hnumbered : s₀.Numbered) :
    engine.log.backend = .database → ∀ q ∈ engine.log.records, q.id ≠ engine.issue.1 := by
  have hnext : Engine.Issued engine.issued (engine.issued + 1) engine.issue.1 :=
    Engine.issued_next engine.issued
  rw [h.log]
  intro hdatabase q hq
  rcases List.mem_append.1 hq with hq | hq
  · exact (hnumbered hdatabase q hq).ne hnext h.steady.issued
  · obtain ⟨f, hf, rfl⟩ := List.mem_map.1 hq
    rw [Backend.id_storedRecord]
    exact (h.issued f (List.mem_of_mem_filter hf)).ne hnext le_rfl

/-! ## Executions that come to the same -/

/-- A backend has a form for the record of both of two executions or of neither, if their results
agree and their durations are numbers. -/
theorem Backend.refusal?_congr {b : Backend} {r r' : ExecutionRecord} {x x' : Double}
    (hresults : List.Forall₂ ActionResult.Agrees r.results r'.results)
    (hr : r.totalDuration = .double x) (hr' : r'.totalDuration = .double x')
    (hnumbers : b = .database → x ≠ .nan ∧ x' ≠ .nan) : b.refusal? r' = b.refusal? r := by
  cases b with
  | memory => rfl
  | database =>
    obtain ⟨hx, hx'⟩ := hnumbers rfl
    have hform : ∀ a a' : ActionResult, a.Agrees a' → a.isStorable = a'.isStorable := by
      intro a a' h
      have htype : a'.actionType = a.actionType := congrArg Prod.fst h.verdict
      have herror : a'.error = a.error := congrArg (fun verdict => verdict.2.2) h.verdict
      rw [ActionResult.isStorable, ActionResult.isStorable, htype, herror, h.storable]
    have hstorable := congrArg (fun forms : List Bool => forms.all id)
      (map_eq_map_of_forall₂ hresults hform)
    simp only [List.all_map, Function.comp_def, id_eq] at hstorable
    simp only [refusal?, hr, hr', Number.toDouble?, beq_iff_eq, if_neg hx, if_neg hx', hstorable]

/-- Two executions of a workflow that come to the same. -/
structure Finished.Agrees (f f' : Finished) : Prop where
  workflowId : f'.record.workflowId = f.record.workflowId
  status : f'.record.status = f.record.status
  verdicts : f'.record.results.map ActionResult.verdict = f.record.results.map ActionResult.verdict
  fault : f'.fault = f.fault

/-- The duration of an execution is a number. -/
def Finished.IsMeasured (f : Finished) : Prop := f.record.totalDuration ≠ .double .nan

theorem Task.Completes.agrees {s : Engine} (hindependent : s.Independent) {t : Task}
    {f f' : Finished} (h : t.Completes s f) (h' : t.Completes s f') (hf : s.Foretells f)
    (hf' : s.Foretells f')
    (hmeasured : s.log.backend = .database → f.IsMeasured ∧ f'.IsMeasured) : f.Agrees f' := by
  have hresults := h.results.agrees hindependent h'.results
  have hverdicts : f'.record.results.map ActionResult.verdict =
      f.record.results.map ActionResult.verdict :=
    (map_eq_map_of_forall₂ hresults fun _ _ hagrees => hagrees.verdict.symm).symm
  have hworkflow : f'.record.workflowId = f.record.workflowId :=
    h'.workflowId.trans h.workflowId.symm
  refine ⟨hworkflow, by rw [h.status, h'.status, Status.ofResults_congr hverdicts], hverdicts, ?_⟩
  obtain ⟨x, hx⟩ := hf.duration
  obtain ⟨x', hx'⟩ := hf'.duration
  have hrefusal : s.log.backend.refusal? f'.record = s.log.backend.refusal? f.record := by
    refine Backend.refusal?_congr hresults hx hx' fun hdatabase => ?_
    obtain ⟨hnumber, hnumber'⟩ := hmeasured hdatabase
    refine ⟨fun hnan => hnumber (hx.trans (congrArg Number.double hnan)), fun hnan => ?_⟩
    exact hnumber' (hx'.trans (congrArg Number.double hnan))
  rw [hf.fault, hf'.fault, Engine.loss?, Engine.loss?, hworkflow, hrefusal]

/-- Two results of a trigger that tell the same but for the identifiers of the executions. -/
structure TriggerResult.Agrees (r r' : TriggerResult) : Prop where
  success : r'.success = r.success
  workflowIds : r'.workflowIds = r.workflowIds
  executed : r'.executed = r.executed
  issues : r'.issues = r.issues
  executions : r'.executionIds.length = r.executionIds.length

theorem TriggerResult.issuesOf_congr {f f' : Finished} (h : f.Agrees f') :
    issuesOf f' = issuesOf f := by
  have hissues : ∀ g : Finished, issuesOf g =
      (((g.record.results.map ActionResult.verdict).filter fun verdict => !verdict.2.1).map
        fun verdict => ⟨some g.record.workflowId, verdict.1,
          verdict.2.2.orElse (.text "action failed")⟩) ++
      g.fault.toList.map fun text => ⟨some g.record.workflowId, .null, .text text⟩ := by
    intro g
    rw [issuesOf_eq, Finished.issues, List.filter_map, List.map_map]
    rfl
  rw [hissues, hissues, h.workflowId, h.verdicts, h.fault]

/-- Results that are made from executions that come to the same agree. -/
theorem agrees_resultOf {m : Match} {runs runs' : List Finished}
    (h : List.Forall₂ Finished.Agrees runs runs') :
    (Engine.resultOf m runs).Agrees (Engine.resultOf m runs') := by
  have hfaults : runs'.map (·.fault.isNone) = runs.map (·.fault.isNone) :=
    (map_eq_map_of_forall₂ h fun f f' hagrees => by rw [hagrees.fault]).symm
  have hlengths : runs'.map (fun f => f.record.results.length) =
      runs.map fun f => f.record.results.length :=
    (map_eq_map_of_forall₂ h fun f f' hagrees => by
      simpa using (congrArg List.length hagrees.verdicts).symm).symm
  have hissues : runs'.map TriggerResult.issuesOf = runs.map TriggerResult.issuesOf :=
    (map_eq_map_of_forall₂ h fun f f' hagrees =>
      (TriggerResult.issuesOf_congr hagrees).symm).symm
  have hcount : ∀ fs : List Finished, (Engine.resultOf m fs).executionIds.length =
      (fs.map (·.fault.isNone)).countP id := by
    intro fs
    rw [List.countP_map, Engine.resultOf, List.length_map, ← List.countP_eq_length_filter]
    rfl
  refine ⟨Engine.success_resultOf_congr hfaults, rfl, ?_, ?_, ?_⟩
  · rw [Engine.resultOf, Engine.resultOf, List.length_flatMap, List.length_flatMap, hlengths]
  · simp only [Engine.resultOf, List.flatMap_def, hissues]
  · rw [hcount, hcount, hfaults]

/-! ## One after the other -/

namespace Engine

/-- The results of some actions after those of others, each carried out with nothing in between. -/
def executeAll (context : Value) (workflowId : String) :
    List ActionResult → List Action → Engine → List ActionResult × Engine
  | rs, [], s => (rs, s)
  | rs, a :: rest, s =>
    let (r, s) := s.execute a context ⟨workflowId, rs.length⟩
    executeAll context workflowId (rs ++ [r]) rest s

end Engine

/-- A task carried out with nothing in between. -/
def Task.perform (t : Task) (s : Engine) : Finished × Engine :=
  let (results, s') := Engine.executeAll t.context t.definition.id [] t.definition.actions s
  t.conclude ⟨s.clock, s.ticks, results⟩ s'

/-- Tasks carried out one after the other. -/
def Task.performAll : List Task → Engine → List Finished × Engine
  | [], s => ([], s)
  | t :: ts, s =>
    let (f, s) := t.perform s
    let (fs, s) := performAll ts s
    (f :: fs, s)

/-- What comes of a trigger that carries out its workflows one after the other. -/
def Engine.oneByOne (s : Engine) (m : Match) : TriggerResult :=
  (Engine.triggered (Task.performAll (m.tasks 0) s).1 0 (.ok m)).1

namespace Engine

variable {s s₀ : Engine}

theorem yields_execute (hsteady : s₀.Steady s) (a : Action) (context : Value) (place : Place) :
    s₀.Yields a context place (s.execute a context place).1 ∧
      s.Quiet (s.execute a context place).2 := by
  have hquiet := s.quiet_begin a context place
  rw [execute]
  cases hbegin : s.begin a context place with
  | mk begun u =>
    rw [hbegin] at hquiet
    cases begun with
    | settled r => exact ⟨.settled hsteady hbegin, hquiet⟩
    | pending p =>
      have hsteady' : s₀.Steady u := hsteady.trans hquiet.toSteady
      have hresult := Yields.finished ⟨s, u, hsteady, hbegin⟩ hsteady'
      rw [← hsteady'.runsOut_eq] at hresult
      exact ⟨hresult, hquiet.trans (u.quiet_finish p _)⟩

theorem carriedOut_executeAll (context : Value) (workflowId : String) (as : List Action) :
    ∀ (done : List Action) (rs : List ActionResult) (s : Engine), s₀.Steady s →
      s₀.CarriedOut context workflowId done rs →
      s₀.CarriedOut context workflowId (done ++ as) (executeAll context workflowId rs as s).1 ∧
        s.Quiet (executeAll context workflowId rs as s).2 := by
  induction as with
  | nil =>
    intro done rs s _ hdone
    rw [List.append_nil]
    exact ⟨hdone, .refl s⟩
  | cons a rest ih =>
    intro done rs s hsteady hdone
    obtain ⟨hyields, hquiet⟩ := yields_execute hsteady a context ⟨workflowId, rs.length⟩
    obtain ⟨hall, hquiet'⟩ := ih (done ++ [a]) (rs ++ [_]) _ (hsteady.trans hquiet.toSteady)
      (hdone.snoc hyields)
    rw [List.append_assoc, List.singleton_append] at hall
    exact ⟨hall, hquiet.trans hquiet'⟩

end Engine

namespace Schedule

variable {s₀ s : Engine} {ts left : List Task} {finished : List Finished} {t : Task}

/-- A task carried out with nothing in between is done, and told by its record. -/
theorem Books.perform (h : Books s₀ ts s finished (t :: left)) :
    Books s₀ ts (t.perform s).2 (finished ++ [(t.perform s).1]) left ∧
      (s₀.Numbered → s₀.Foretells (t.perform s).1) := by
  obtain ⟨hall, hquiet⟩ := Engine.carriedOut_executeAll t.context t.definition.id
    t.definition.actions [] [] s h.steady .nil
  have hbooks : Books s₀ ts _ finished (t :: left) := h.suspend (h.sound t (by simp)) rfl hquiet
  refine ⟨?_, fun hnumbered => ?_⟩
  · have hleads : t.Leads s₀ _ (.finished (t.perform s).1, (t.perform s).2) :=
      Task.leads_conclude h.steady.clock hall
    cases hleads with
    | finished completes concludes => exact hbooks.finish completes concludes
  · have hbackend := congrArg Log.backend hbooks.log
    exact Engine.foretells_conclude hbooks.steady hbackend (hbooks.fresh hnumbered) t _

theorem Books.performAll (h : Books s₀ ts s finished left) :
    Books s₀ ts (Task.performAll left s).2 (finished ++ (Task.performAll left s).1) [] ∧
      (s₀.Numbered → ∀ f ∈ (Task.performAll left s).1, s₀.Foretells f) := by
  induction left generalizing s finished with
  | nil =>
    rw [Task.performAll, List.append_nil]
    exact ⟨h, fun _ => List.forall_mem_nil _⟩
  | cons t left ih =>
    obtain ⟨hbooks, hone⟩ := h.perform
    obtain ⟨hall, hothers⟩ := ih hbooks
    rw [List.append_assoc] at hall
    exact ⟨hall, fun hnumbered => List.forall_mem_cons.2 ⟨hone hnumbered, hothers hnumbered⟩⟩

end Schedule

/-- The books of a trigger before its first turn. -/
theorem Engine.books_tasks (s : Engine) (m : Match) :
    Schedule.Books s (m.tasks 0) s [] (m.tasks 0) := by
  simpa using (Schedule.kept_start s (m.ticket_tasks 0)).books

/-- Executions of the workflows of a trigger, in any order, come to what the workflows come to one
after the other.  A database keeps all of them or none alike if durations are numbers. -/
theorem Engine.agrees_oneByOne {s : Engine} {m : Match} {engine : Engine} {finished : List Finished}
    (hindependent : s.Independent) (hnumbered : s.Numbered)
    (hbooks : Schedule.Books s (m.tasks 0) engine finished [])
    (hforetells : ∀ f ∈ finished, s.Foretells f)
    (hmeasured : s.log.backend = .database →
      ∀ f ∈ finished ++ (Task.performAll (m.tasks 0) s).1, f.IsMeasured) :
    (s.oneByOne m).Agrees (triggered finished 0 (.ok m)).1 := by
  obtain ⟨hserial, hforetold⟩ := (s.books_tasks m).performAll
  obtain ⟨runs, haccounts, hperm, hresult⟩ := accounts_of_books hserial
  obtain ⟨runs', haccounts', hperm', hresult'⟩ := accounts_of_books hbooks
  rw [oneByOne, hresult']
  rw [List.nil_append] at hresult hperm
  rw [hresult]
  refine agrees_resultOf (forall₂_imp_of_mem (forall₂_of_common haccounts.completes
    haccounts'.completes (T := fun f f' => ∃ t : Task, t.Completes s f ∧ t.Completes s f')
    fun t f f' h h' => ⟨t, h, h'⟩) ?_)
  rintro f hf f' hf' ⟨t, h, h'⟩
  have hmem := hperm.mem_iff.1 hf
  have hmem' := hperm'.mem_iff.1 hf'
  refine h.agrees hindependent h' (hforetold hnumbered f hmem) (hforetells f' hmem') ?_
  intro hdatabase
  exact ⟨hmeasured hdatabase f (List.mem_append_right _ hmem),
    hmeasured hdatabase f' (List.mem_append_left _ hmem')⟩

end Automation
