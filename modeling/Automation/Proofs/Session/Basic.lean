import Automation.Management
import Automation.Proofs.Trigger.Stored

/-!
# Sessions

A *session* is a sequence of operations that callers ask of the engine.  Between two operations time
passes, and what is outside may come to behave in another way or fail (`Surroundings`).  What an
operation comes to is `Engine.perform`.

An operation has one of four effects (`Engine.Effect`): it calls the store, it triggers, it tries to
trigger and finds out that it cannot, or it only reads.
-/

namespace Automation

/-- What is around an operation and does not depend on the operations before it. -/
structure Surroundings where
  clock : Timestamp
  ticks : Double
  limits : Limits
  outside : Outside
  network : Option (Nat → Http.Answer)
  customers : Option CustomerService
  listFailure : Option Failure
  recordFailure : Option Failure
  recordFailures : String → Option Failure

/-- What callers ask of the engine. -/
inductive Operation where
  | create (draft : Draft)
  | createFromStarter (starter name choices : Value)
  | update (id : String) (patch : Patch)
  | delete (id : String)
  | get (id : String)
  | list (isActive : Option Bool) (eventType : Value)
  | active (eventType : Value)
  | trigger (eventType context : Value)
  | executions (filter : ExecutionFilter)
  | history (request : HistoryRequest)
  | statistics (since : Option Timestamp)
  | metrics (id : String)

/-- What callers are told. -/
inductive Answer where
  | definition (d : Definition)
  | deleted
  | definitions (ds : List Definition)
  | triggered (r : TriggerResult)
  | recorded (r : ExecutionRecord)
  | records (rs : List ExecutionRecord)
  | page (p : HistoryPage)
  | statistics (s : Statistics)
  | metrics (m : Metrics)

namespace Engine

/-- The engine in other surroundings. -/
def amid (s : Engine) (w : Surroundings) : Engine :=
  { s.withOutside w.outside with
    clock := w.clock
    ticks := w.ticks
    limits := w.limits
    network := w.network
    customers := w.customers
    listFailure := w.listFailure
    recordFailure := w.recordFailure
    recordFailures := w.recordFailures }

/-- An answer made of what the store says. -/
def told {α : Type} (answer : α → Answer) (r : Except StoreError α) : Except Failure Answer :=
  (r.mapError StoreError.toFailure).map answer

/-- What an operation comes to. -/
def perform (s : Engine) : Operation → Except Failure Answer × Engine
  | .create draft =>
    (told .definition (s.createWorkflow draft).1, (s.createWorkflow draft).2)
  | .createFromStarter starter name choices =>
    ((s.createFromStarter starter name choices).1.map .definition,
      (s.createFromStarter starter name choices).2)
  | .update id patch =>
    (told .definition (s.updateWorkflow id patch).1, (s.updateWorkflow id patch).2)
  | .delete id => (told (fun _ => .deleted) (s.deleteWorkflow id).1, (s.deleteWorkflow id).2)
  | .get id => (told .definition (Store.get s.repository id), s)
  | .list isActive eventType => ((s.listWorkflows isActive eventType).map .definitions, s)
  | .active eventType => ((s.activeWorkflows eventType).map .definitions, s)
  | .trigger eventType context =>
    (.ok (.triggered (s.trigger eventType context).1), (s.trigger eventType context).2)
  | .executions filter => (((s.log.listing filter).mapError .fault).map .records, s)
  | .history request => ((s.history request).map .page, s)
  | .statistics since => ((s.statistics since).map .statistics, s)
  | .metrics id => ((s.metrics id).map .metrics, s)

/-- The engine after a session. -/
def afterAll (s : Engine) (session : List (Surroundings × Operation)) : Engine :=
  session.foldl (fun s e => ((s.amid e.1).perform e.2).2) s

/-- What an operation does to an engine. -/
inductive Effect (s : Engine) : Operation → Engine → Prop where
  | called {o : Operation} {s' : Engine} (call : StoreCall)
      (notTrigger : ∀ v context, o ≠ .trigger v context)
      (repository : s'.repository = s.repository.after call) (log : s'.log = s.log)
      (issued : s.issued ≤ s'.issued) : Effect s o s'
  | triggered {v context : Value} {m : Match} {runs : List Finished} {s' : Engine}
      (found : s.lookUp v context = .ok m) (accounts : s.Accounts m runs s')
      (result : (s.trigger v context).1 = resultOf m runs) : Effect s (.trigger v context) s'
  | unable {v context : Value} {e : TriggerError} (failed : s.lookUp v context = .error e)
      (result : (s.trigger v context).1 = e.toResult) :
      Effect s (.trigger v context) (s.addSpan (triggerSpan e.eventType? []))
  | read {o : Operation} (notTrigger : ∀ v context, o ≠ .trigger v context) : Effect s o s

theorem log_createWorkflow (s : Engine) (draft : Draft) :
    (s.createWorkflow draft).2.log = s.log ∧ s.issued ≤ (s.createWorkflow draft).2.issued := by
  simp only [createWorkflow, issue]
  cases Store.create s.repository (identifier (s.issued + 1)) s.clock draft with
  | error e => exact ⟨rfl, Nat.le_succ _⟩
  | ok e => exact ⟨rfl, Nat.le_succ _⟩

theorem log_createFromStarter (s : Engine) (starter name choices : Value) :
    (s.createFromStarter starter name choices).2.log = s.log ∧
      s.issued ≤ (s.createFromStarter starter name choices).2.issued := by
  rw [createFromStarter]
  cases Starter.customized starter name choices with
  | error f => exact ⟨rfl, le_rfl⟩
  | ok draft => exact s.log_createWorkflow draft

theorem log_updateWorkflow (s : Engine) (id : String) (p : Patch) :
    (s.updateWorkflow id p).2.log = s.log ∧ (s.updateWorkflow id p).2.issued = s.issued := by
  rw [updateWorkflow]
  cases Store.update s.repository id s.clock p with
  | error e => exact ⟨rfl, rfl⟩
  | ok e => exact ⟨rfl, rfl⟩

theorem log_deleteWorkflow (s : Engine) (id : String) :
    (s.deleteWorkflow id).2.log = s.log ∧ (s.deleteWorkflow id).2.issued = s.issued := by
  rw [deleteWorkflow]
  cases Store.delete s.repository id with
  | error e => exact ⟨rfl, rfl⟩
  | ok r => exact ⟨rfl, rfl⟩

/-- An operation has one of the known effects. -/
theorem effect_perform (s : Engine) (o : Operation) : s.Effect o (s.perform o).2 := by
  cases o with
  | create draft =>
    obtain ⟨hlog, hissued⟩ := s.log_createWorkflow draft
    exact .called _ nofun (s.repository_createWorkflow draft) hlog hissued
  | createFromStarter starter name choices =>
    obtain ⟨hlog, hissued⟩ := s.log_createFromStarter starter name choices
    exact .called _ nofun (s.repository_createFromStarter starter name choices) hlog hissued
  | update id patch =>
    obtain ⟨hlog, hissued⟩ := s.log_updateWorkflow id patch
    exact .called _ nofun (s.repository_updateWorkflow id patch) hlog hissued.ge
  | delete id =>
    obtain ⟨hlog, hissued⟩ := s.log_deleteWorkflow id
    exact .called _ nofun (s.repository_deleteWorkflow id) hlog hissued.ge
  | trigger v context =>
    cases hlookUp : s.lookUp v context with
    | ok m =>
      obtain ⟨runs, haccounts, hresult⟩ := accounts_trigger hlookUp
      exact .triggered hlookUp haccounts hresult
    | error e =>
      have htrigger := trigger_of_lookUp_error hlookUp
      have heffect : s.Effect (.trigger v context) (s.addSpan (triggerSpan e.eventType? [])) :=
        .unable hlookUp (by rw [htrigger])
      rwa [perform, htrigger]
  | _ => exact .read nofun

end Engine

end Automation
