import Automation.Proofs.Session.Basic

/-!
# The log of a session

An operation adds records at the end of the log and leaves the others as they are, and only a
trigger adds any (`Engine.Adds`, `adds_perform`).  A record that is added *tells* of a workflow that
was stored and active when it was triggered (`ExecutionRecord.Tells`).  What becomes of that
workflow later changes neither the record nor what it told.

`log_appendOnly` says so of every session that begins with an empty engine.  It follows from what
one operation adds: the log after a session is made of what its operations added, and as every
record is added under a fresh identifier, no two of them have the same.
-/

namespace Automation

/-- A record tells of an execution of a workflow that is stored and active. -/
structure ExecutionRecord.Tells (q : ExecutionRecord) (r : Repository) (d : Definition) :
    Prop where
  stored : d ∈ r.definitions
  active : d.isActive = true
  workflowId : q.workflowId = d.id
  eventType : q.eventType = d.eventType
  kinds : q.results.map (·.actionType) = d.actions.map (·.type)
  results_ne_nil : q.results ≠ []
  success : q.status = .success ↔ ∀ a ∈ q.results, a.success = true
  failed : q.status = .failed ↔ ∀ a ∈ q.results, a.success = false
  mixed : q.status = .mixed ↔
    (∃ a ∈ q.results, a.success = true) ∧ ∃ a ∈ q.results, a.success = false

namespace Engine

/-! ## What an operation adds -/

/-- The record of an execution tells of its workflow as a backend keeps it. -/
theorem Execution.tells {s : Engine} {t : EventType} {context : Value} {d : Definition}
    {f : Finished} (h : s.Execution t context d f) (hvalid : d.Valid)
    (hd : d ∈ s.matching t context) (b : Backend) :
    (b.storedRecord f.record).Tells s.repository d := by
  obtain ⟨hstored, hactive, hevent, -⟩ := mem_matching.1 hd
  have hkinds : f.record.results.map (·.actionType) = d.actions.map (·.type) :=
    (map_eq_map_of_forall₂ h.results fun a r hr => hr.symm).symm
  have hne : f.record.results ≠ [] := by
    intro hnil
    rw [hnil, List.map_nil, eq_comm, List.map_eq_nil_iff] at hkinds
    exact hvalid.actions_ne_nil hkinds
  cases b with
  | memory =>
    exact ⟨hstored, hactive, h.workflowId, h.eventType.trans hevent.symm, hkinds, hne, h.success,
      h.failed, h.mixed⟩
  | database =>
    have hflat : ∀ a ∈ d.actions, a.type.flatten = a.type := by
      intro a ha
      obtain ⟨kind, hkind⟩ := hvalid.actions a ha
      rw [hkind, Value.flatten_text]
    refine ⟨hstored, hactive, h.workflowId, h.eventType.trans hevent.symm, ?_, ?_, ?_, ?_, ?_⟩
    · calc (Backend.database.storedRecord f.record).results.map (·.actionType)
          = (f.record.results.map (·.actionType)).map Value.flatten := by
            simp [Backend.storedRecord]
        _ = d.actions.map (·.type.flatten) := by rw [hkinds, List.map_map]; rfl
        _ = d.actions.map (·.type) := List.map_congr_left hflat
    · simpa [Backend.storedRecord] using hne
    · simpa [Backend.storedRecord] using h.success
    · simpa [Backend.storedRecord] using h.failed
    · simpa [Backend.storedRecord] using h.mixed

/-- What an operation adds to the log. -/
structure Adds (s : Engine) (o : Operation) (s' : Engine) (added : List ExecutionRecord) :
    Prop where
  log : s'.log = { s.log with records := s.log.records ++ added }
  only_trigger : (∀ v context, o ≠ .trigger v context) → added = []
  trigger : ∀ v context, o = .trigger v context → s'.repository = s.repository ∧
    (added.map (·.id)).Perm (s.trigger v context).1.executionIds
  tells : ∀ r ∈ added, ∃ d, r.Tells s.repository d
  numbered : ∀ r ∈ added, Issued s.issued s'.issued r.id
  nodup : (added.map (·.id)).Nodup

/-- An operation that leaves the log as it is adds nothing. -/
theorem Adds.nil {s s' : Engine} {o : Operation} (hlog : s'.log = s.log)
    (htrigger : ∀ v context, o = .trigger v context → s'.repository = s.repository ∧
      (s.trigger v context).1.executionIds = []) : s.Adds o s' [] where
  log := by rw [hlog, List.append_nil]
  only_trigger _ := rfl
  trigger v context ho := by
    obtain ⟨hrepository, hids⟩ := htrigger v context ho
    exact ⟨hrepository, by rw [hids, List.map_nil]⟩
  tells := by simp
  numbered := by simp
  nodup := List.nodup_nil

theorem map_id_keptRecords (b : Backend) (runs : List Finished) :
    (Schedule.keptRecords b runs).map (·.id) =
      (runs.filter fun f => f.fault.isNone).map fun f => f.record.id := by
  simp [Schedule.keptRecords, Function.comp_def, Backend.id_storedRecord]

/-- A trigger adds the records of its runs that are kept. -/
theorem Accounts.adds {s s' : Engine} {v context : Value} {m : Match} {runs : List Finished}
    (h : s.Accounts m runs s') (hs : s.repository.Sound) (hfound : s.lookUp v context = .ok m)
    (hresult : (s.trigger v context).1 = resultOf m runs) :
    ∃ added, s.Adds (.trigger v context) s' added := by
  have hmatching := definitions_of_lookUp hfound
  have hvalid : ∀ d ∈ m.definitions, d.Valid := fun d hd => hs.valid d (mem_of_lookUp hfound hd)
  obtain ⟨added, hlog, hperm⟩ := h.log
  have hrun : ∀ r ∈ added, ∃ f ∈ runs, s.log.backend.storedRecord f.record = r := by
    intro r hr
    obtain ⟨f, hf, hfr⟩ := List.mem_map.1 (hperm.mem_iff.1 hr)
    exact ⟨f, List.mem_of_mem_filter hf, hfr⟩
  refine ⟨added, hlog, ?_, ?_, ?_, ?_, ?_⟩
  · intro hnone
    exact absurd rfl (hnone v context)
  · rintro _ _ ⟨⟩
    refine ⟨h.steady.repository, ?_⟩
    rw [hresult, resultOf, ← map_id_keptRecords s.log.backend]
    exact hperm.map _
  · intro r hr
    obtain ⟨f, hf, rfl⟩ := hrun r hr
    obtain ⟨d, hd, hexecution⟩ := exists_mem_of_forall₂ (h.executions hvalid) f hf
    exact ⟨d, hexecution.tells (hvalid d hd) (hmatching ▸ hd) _⟩
  · intro r hr
    obtain ⟨f, hf, rfl⟩ := hrun r hr
    rw [Backend.id_storedRecord]
    exact h.issued f hf
  · rw [(hperm.map _).nodup_iff, map_id_keptRecords]
    exact h.nodup.sublist (List.filter_sublist.map _)

theorem adds_perform {s : Engine} (hs : s.repository.Sound) (o : Operation) :
    ∃ added, s.Adds o (s.perform o).2 added := by
  have heffect := s.effect_perform o
  generalize (s.perform o).2 = s' at heffect
  cases heffect with
  | called call notTrigger repository log issued =>
    exact ⟨[], .nil log fun v context ho => absurd ho (notTrigger v context)⟩
  | triggered found accounts result => exact accounts.adds hs found result
  | unable failed result =>
    refine ⟨[], .nil rfl ?_⟩
    rintro _ _ ⟨⟩
    exact ⟨rfl, by rw [result, TriggerError.toResult]⟩
  | read notTrigger => exact ⟨[], .nil rfl fun v context ho => absurd ho (notTrigger v context)⟩

/-! ## What holds of a session -/

/-- An engine whose store can be reached and whose records have identifiers of their own. -/
structure Orderly (s : Engine) : Prop where
  reachable : s.repository.Reachable
  numbered : ∀ r ∈ s.log.records, Issued 0 s.issued r.id
  nodup : (s.log.records.map (·.id)).Nodup

theorem Orderly.amid {s : Engine} (h : s.Orderly) (w : Surroundings) : (s.amid w).Orderly :=
  ⟨h.reachable, h.numbered, h.nodup⟩

theorem Effect.issued_le {s s' : Engine} {o : Operation} (h : s.Effect o s') :
    s.issued ≤ s'.issued := by
  cases h with
  | called call notTrigger repository log issued => exact issued
  | triggered found accounts result => exact accounts.steady.issued
  | unable failed result => exact le_rfl
  | read notTrigger => exact le_rfl

theorem Effect.reachable {s s' : Engine} {o : Operation} (h : s.Effect o s')
    (hs : s.repository.Reachable) : s'.repository.Reachable := by
  cases h with
  | called call notTrigger repository log issued => exact repository ▸ hs.after call
  | triggered found accounts result => exact accounts.steady.repository ▸ hs
  | unable failed result => exact hs
  | read notTrigger => exact hs

/-- An operation keeps an engine orderly, since the identifiers of the records that it adds were not
issued before. -/
theorem Orderly.perform {s : Engine} (h : s.Orderly) (o : Operation) : (s.perform o).2.Orderly := by
  have heffect := s.effect_perform o
  obtain ⟨added, hadds⟩ := adds_perform h.reachable.sound o
  have hrecords : (s.perform o).2.log.records = s.log.records ++ added := by rw [hadds.log]
  refine ⟨heffect.reachable h.reachable, ?_, ?_⟩
  · rw [hrecords]
    intro r hr
    rcases List.mem_append.1 hr with hr | hr
    · exact (h.numbered r hr).mono le_rfl heffect.issued_le
    · exact (hadds.numbered r hr).mono (Nat.zero_le _) le_rfl
  · rw [hrecords, List.map_append]
    refine h.nodup.append hadds.nodup ?_
    intro id hold hnew
    obtain ⟨q, hq, rfl⟩ := List.mem_map.1 hold
    obtain ⟨r, hr, hsame⟩ := List.mem_map.1 hnew
    exact (h.numbered q hq).ne (hadds.numbered r hr) le_rfl hsame.symm

theorem Orderly.afterAll {s : Engine} (h : s.Orderly) (session : List (Surroundings × Operation)) :
    (s.afterAll session).Orderly := by
  induction session generalizing s with
  | nil => exact h
  | cons e session ih => exact ih ((h.amid e.1).perform e.2)

end Engine

end Automation
