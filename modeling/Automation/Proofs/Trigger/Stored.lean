import Automation.Proofs.Trigger.Accounting

/-!
# What the store can hold

A store that begins empty and is changed by calls of any kind, with any arguments, holds valid
workflows only.  Their identifiers differ, in memory they are listed in the order in which they were
created, and what was created at a time stays so (`stored_valid`).

Triggers rely on it: every action of a stored workflow is of a known kind, so none is settled as
unsupported, and every condition has a known operator.  Whatever a trigger reports or records is of
a known kind (`Engine.knownKinds_trigger`).
-/

namespace Automation

/-- The name of a known kind of action. -/
def KnownKind (v : Value) : Prop := ∃ t : ActionType, v = .text t.name

/-! ## Valid workflows and triggers -/

theorem Condition.Valid.operator_known {c : Condition} (h : c.Valid) :
    ∃ op, Operator.ofValue? c.operator = some op := by
  obtain ⟨op, hop⟩ := h.operator
  exact ⟨op, Operator.ofValue?_eq_some_iff.2 hop⟩

namespace Engine

/-- An action of a known kind is not settled as unsupported. -/
theorem error_ne_unsupported {s s' : Engine} {a : Action} (ha : a.Valid) {context : Value}
    {place : Place} {r : ActionResult} (h : s.begin a context place = (.settled r, s')) :
    r.error ≠ .text unsupportedMessage := by
  obtain ⟨t, ht⟩ := ha
  rcases s.begin_cases a context place with ⟨message, -, hmessage, hcase⟩ | ⟨_, _, _, -, hcase⟩
  · cases hcase.symm.trans h
    intro herror
    have hunknown := hmessage (Value.text.inj herror)
    rw [ActionType.ofValue?_eq_some_iff.2 ht] at hunknown
    cases hunknown
  · cases hcase.symm.trans h

theorem definitions_of_lookUp {s : Engine} {v context : Value} {m : Match}
    (h : s.lookUp v context = .ok m) : m.definitions = s.matching m.eventType m.context := by
  rw [lookUp] at h
  split at h
  · cases h
  · split at h
    · cases h
    · cases h
    · cases h
      simp [Store.active_eq, matching, Definition.matchedBy_eq, List.filter_filter, Bool.and_comm]

theorem mem_matching {s : Engine} {t : EventType} {context : Value} {d : Definition} :
    d ∈ s.matching t context ↔ d ∈ s.repository.definitions ∧ d.isActive = true ∧
      d.eventType = t ∧ ∀ c ∈ d.conditions, c.holds context = true := by
  simp [matching, s.repository.listing_perm.mem_iff, and_assoc]

theorem mem_of_lookUp {s : Engine} {v context : Value} {m : Match}
    (h : s.lookUp v context = .ok m) {d : Definition} (hd : d ∈ m.definitions) :
    d ∈ s.repository.definitions := by
  rw [definitions_of_lookUp h] at hd
  exact (mem_matching.1 hd).1

/-- The results of an execution of a valid workflow are of known kinds. -/
theorem Execution.knownKinds {s : Engine} {t : EventType} {context : Value} {d : Definition}
    {f : Finished} (h : s.Execution t context d f) (hvalid : d.Valid) :
    ∀ r ∈ f.record.results, KnownKind r.actionType := by
  intro r hr
  obtain ⟨a, ha, hkind⟩ := exists_mem_of_forall₂ h.results r hr
  obtain ⟨t, ht⟩ := hvalid.actions a ha
  exact ⟨t, hkind.trans ht⟩

/-- A trigger that cannot look up its workflows says so and only leaves its span. -/
theorem trigger_of_lookUp_error {s : Engine} {v context : Value} {e : TriggerError}
    (h : s.lookUp v context = .error e) :
    s.trigger v context = (e.toResult, s.addSpan (triggerSpan e.eventType? [])) := by
  have htasks : tasksOf [.error e] = [] := by simp [tasksOf]
  have hrun : Schedule.run { engine := s, ready := [] } = { engine := s, ready := [] } :=
    Schedule.run_of_none rfl
  simp only [trigger, h, htasks, hrun]
  rfl

theorem knownKinds_storedRecord (b : Backend) {r : ExecutionRecord}
    (h : ∀ a ∈ r.results, KnownKind a.actionType) :
    ∀ a ∈ (b.storedRecord r).results, KnownKind a.actionType := by
  cases b with
  | memory => exact h
  | database =>
    intro a ha
    obtain ⟨given, hgiven, rfl⟩ := List.mem_map.1 ha
    obtain ⟨t, ht⟩ := h given hgiven
    exact ⟨t, by simp [ht]⟩

/-- Whatever a trigger of a sound store reports or records is of a known kind. -/
theorem knownKinds_trigger {s : Engine} (hs : s.repository.Sound) (v context : Value) :
    (∀ issue ∈ (s.trigger v context).1.issues,
      issue.actionType = .null ∨ KnownKind issue.actionType) ∧
    ∀ r ∈ (s.trigger v context).2.log.records,
      r ∈ s.log.records ∨ ∀ a ∈ r.results, KnownKind a.actionType := by
  cases hlookUp : s.lookUp v context with
  | error e =>
    rw [trigger_of_lookUp_error hlookUp]
    exact ⟨by simp [TriggerError.toResult], fun r hr => .inl hr⟩
  | ok m =>
    obtain ⟨runs, haccounts, hresult⟩ := accounts_trigger hlookUp
    have hvalid : ∀ d ∈ m.definitions, d.Valid := fun d hd => hs.valid d (mem_of_lookUp hlookUp hd)
    have hruns : ∀ f ∈ runs, ∀ r ∈ f.record.results, KnownKind r.actionType := by
      intro f hf
      obtain ⟨d, hd, hexecution⟩ := exists_mem_of_forall₂ (haccounts.executions hvalid) f hf
      exact hexecution.knownKinds (hvalid d hd)
    constructor
    · rw [hresult]
      intro issue hissue
      obtain ⟨f, hf, hissue⟩ := List.mem_flatMap.1 hissue
      rw [TriggerResult.issuesOf_eq] at hissue
      rcases List.mem_append.1 hissue with hissue | hissue
      · obtain ⟨r, hr, rfl⟩ := List.mem_map.1 hissue
        exact .inr (hruns f hf r (List.mem_of_mem_filter hr))
      · obtain ⟨text, -, rfl⟩ := List.mem_map.1 hissue
        exact .inl rfl
    · intro r hr
      obtain ⟨kept, hlog, hperm⟩ := haccounts.log
      rw [hlog] at hr
      rcases List.mem_append.1 hr with hr | hr
      · exact .inl hr
      · obtain ⟨f, hf, rfl⟩ := List.mem_map.1 (hperm.mem_iff.1 hr)
        exact .inr (knownKinds_storedRecord _ (hruns f (List.mem_of_mem_filter hf)))

end Engine

/-! ## Reachable stores -/

/-- What holds of the workflows of a store after any calls.

They are valid and have identifiers of their own.  In memory they are listed in the order of their
creation.  If no two creations are given the same identifier, the time of creation under an
identifier never changes.  A trigger of such a store, in whatever engine, reports and records only
known kinds of actions, settles no action as unsupported and evaluates only known operators. -/
theorem stored_valid (b : Backend) (calls : List StoreCall) :
    let r := (Repository.empty b).afterAll calls
    (∀ d ∈ r.definitions, d.Valid) ∧
    (r.listing.map (·.id)).Nodup ∧
    (b = .memory →
      (r.listing.map Definition.birth).Sublist ((Repository.empty b).birthsOf calls)) ∧
    ((calls.filterMap StoreCall.issued?).Nodup → ∀ earlier later, calls = earlier ++ later →
      ∀ d ∈ ((Repository.empty b).afterAll earlier).definitions, ∀ e ∈ r.definitions,
        e.id = d.id → e.createdAt = d.createdAt) ∧
    ∀ s : Engine, s.repository = r → ∀ v context,
      (∀ issue ∈ (s.trigger v context).1.issues,
        issue.actionType = .null ∨ KnownKind issue.actionType) ∧
      (∀ q ∈ (s.trigger v context).2.log.records,
        q ∈ s.log.records ∨ ∀ a ∈ q.results, KnownKind a.actionType) ∧
      ∀ t, ∀ d ∈ Store.active s.repository t,
        (∀ c ∈ d.conditions, ∃ op, Operator.ofValue? c.operator = some op) ∧
        ∀ a ∈ d.actions, ∀ (u u' : Engine) (event : Value) (place : Place) (result : ActionResult),
          u.begin a event place = (.settled result, u') → result.error ≠ .text unsupportedMessage := by
  intro r
  have hempty := Repository.sound_empty b
  have hsound : r.Sound := Repository.sound_afterAll hempty calls
  refine ⟨hsound.valid, ?_, ?_, ?_, ?_⟩
  · exact (r.listing_perm.map _).nodup_iff.2 hsound.nodup
  · rintro rfl
    have hlisting : r.listing = r.definitions := by
      have hbackend : r.backend = .memory := Repository.backend_afterAll hempty calls
      rw [Repository.listing, hbackend]
    rw [hlisting]
    exact Repository.sublist_births hempty calls
  · rintro fresh earlier later rfl d hd e he hid
    exact Repository.createdAt_eq_of_fresh fresh hd he hid
  · intro s hs v context
    have hs' : s.repository.Sound := hs ▸ hsound
    obtain ⟨hissues, hrecords⟩ := Engine.knownKinds_trigger hs' v context
    refine ⟨hissues, hrecords, fun t d hd => ?_⟩
    rw [Store.active_eq] at hd
    have hvalid : d.Valid :=
      hs'.valid d (s.repository.listing_perm.mem_iff.1 (List.mem_of_mem_filter hd))
    refine ⟨fun c hc => (hvalid.conditions c hc).operator_known, ?_⟩
    intro a ha u u' event place result h
    exact Engine.error_ne_unsupported (hvalid.actions a ha) h

end Automation
