import Automation.Proofs.Action.Outcome
import Automation.Proofs.Trigger.Stored

/-!
# Failures stay where they are

What comes of an action depends on the action, on the event, and on what the collaborator does that
it calls, and on nothing that other actions came to.  So if the behaviours of the collaborators are
fixed by the places of the actions (`Engine.withOutcomes`), whatever the order in which the tasks
take their turns, the *verdict* on an action is the same in every run: its kind, whether it
succeeded, and its error (`Yields.verdict_eq`).  How long it took may differ, and so may the
identifier of a notification.

Two triggers for which the collaborators differ at one place only hence come to the same at all
other places, whether the outcome at that place is a success, a refusal, a failure or none at all
(`trigger_isolated`).
-/

namespace Automation

/-- What a result says of its action. -/
def ActionResult.verdict (r : ActionResult) : Value × Bool × Value :=
  (r.actionType, r.success, r.error)

theorem Outcome.isSuccess_congr {o o' : Outcome} (h : o.error = o'.error) :
    o.isSuccess = o'.isSuccess := by
  simp only [isSuccess, h]

namespace Engine

/-! ## Collaborators whose behaviours are fixed by places -/

/-- The engine with collaborators that behave as is said for the place of the action, the one that
makes HTTP requests included. -/
def withOutcomes (s : Engine) (outcomes : Place → Behaviour) : Engine :=
  { s with outside := fun o => outcomes ⟨o.workflowId, o.position⟩, network := none }

/-- An engine whose collaborators behave as is said for the place of the action. -/
structure Fixed (s : Engine) (outcomes : Place → Behaviour) : Prop where
  outside : s.outside = fun o => outcomes ⟨o.workflowId, o.position⟩
  network : s.network = none

variable {s s' s₀ s₀' : Engine} {outcomes outcomes' : Place → Behaviour}

theorem fixed_withOutcomes (s : Engine) (outcomes : Place → Behaviour) :
    (s.withOutcomes outcomes).Fixed outcomes :=
  ⟨rfl, rfl⟩

theorem Fixed.steady (h : s.Fixed outcomes) (hsteady : s.Steady s') : s'.Fixed outcomes :=
  ⟨hsteady.outside.trans h.outside, hsteady.network.trans h.network⟩

theorem Fixed.behaviourOf_eq (h : s.Fixed outcomes) (place : Place) (c : Call) :
    (s.behaviourOf place c).1 = outcomes place := by
  cases hc : c.channel <;> simp [behaviourOf, hc, h.network, h.outside]

/-! ## The verdict on an action -/

theorem route_congr (h : s'.customers = s.customers) (c : Call) : s'.route c = s.route c := by
  cases c <;> simp [route, h]

/-- The first steps of an action in engines that have the same limits and the same customers: it is
settled in both with one verdict, or the same call is made. -/
theorem begin_alike (hlimits : s'.limits = s.limits) (hcustomers : s'.customers = s.customers)
    (a : Action) (context : Value) (place : Place) :
    (∃ r r', (s.begin a context place).1 = .settled r ∧ (s'.begin a context place).1 = .settled r' ∧
      r'.verdict = r.verdict) ∨
    ∃ t wanted made, s.Asks a context t wanted made ∧
      (s.begin a context place).1 = .pending (s.make place t s.ticks wanted made).1 ∧
      (s'.begin a context place).1 = .pending (s'.make place t s'.ticks wanted made).1 := by
  -- The first step looks at the limits and the customers, and at the time only for the start.
  cases ht : ActionType.ofValue? a.type with
  | none =>
    refine .inl ⟨(s.settle a.type.display s.ticks ⟨.text unsupportedMessage, []⟩).1,
      (s'.settle a.type.display s'.ticks ⟨.text unsupportedMessage, []⟩).1, ?_, ?_, rfl⟩
    · simp [begin, ht, unsupportedMessage]
    · simp [begin, ht, unsupportedMessage]
  | some t =>
    cases hprepare : a.prepare t context s.limits.webhookTimeout with
    | error e =>
      refine .inl ⟨(s.settle t.name s.ticks ⟨.text e.message, []⟩).1,
        (s'.settle t.name s'.ticks ⟨.text e.message, []⟩).1, ?_, ?_, rfl⟩
      · simp [begin, ht, hprepare]
      · simp [begin, ht, hprepare, hlimits]
    | ok wanted =>
      cases hroute : s.route wanted with
      | error e =>
        refine .inl ⟨(s.settle t.name s.ticks ⟨(Failure.engine e).report, []⟩).1,
          (s'.settle t.name s'.ticks ⟨(Failure.engine e).report, []⟩).1, ?_, ?_, rfl⟩
        · simp [begin, ht, hprepare, hroute]
        · simp [begin, ht, hprepare, hlimits, route_congr hcustomers, hroute]
      | ok made =>
        have htype := ActionType.ofValue?_eq_some_iff.1 ht
        refine .inr ⟨t, wanted, made, ⟨htype, hprepare, hroute⟩, ?_, ?_⟩
        · simp [begin, ht, hprepare, hroute]
        · simp [begin, ht, hprepare, hlimits, route_congr hcustomers, hroute]

/-- Collaborators that behave the same come back with the same in two engines, but for the
identifier of a notification. -/
theorem reply_alike (s s' : Engine) (c : Call) (b : Behaviour) :
    (s'.reply c b).1 = (s.reply c b).1 ∨ c.channel = .notification ∧
      ∃ id id', (s.reply c b).1 = .value (.text id) ∧ (s'.reply c b).1 = .value (.text id') := by
  cases hraises : b.raises with
  | some f => exact .inl (by rw [s'.reply_of_raises c hraises, s.reply_of_raises c hraises])
  | none =>
    cases hreturns : b.returns with
    | some v => cases c <;> exact .inl (by simp [reply, hraises, hreturns])
    | none =>
      cases c with
      | notification title message type priority userId =>
        refine .inr ⟨rfl, (s.notify title message type priority userId).1,
          (s'.notify title message type priority userId).1, ?_, ?_⟩
        · simp [reply, hraises, hreturns, usualReply]
        · simp [reply, hraises, hreturns, usualReply]
      | email recipient subject template values =>
        left
        simp only [reply, hraises, hreturns, usualReply]
        cases Email.render recipient subject template values <;> rfl
      | _ => exact .inl (by simp [reply, hraises, hreturns, usualReply])

/-- What a reply means for an action does not depend on the engine that takes it: the error is the
same, and what it brings can be kept or cannot. -/
theorem settle_reply_alike (s s' : Engine) {wanted made : Call} (hrouted : Call.Routed wanted made)
    (b : Behaviour) (timeout : Number) :
    let o := wanted.settle timeout (throughService wanted made (s.reply made b).1)
    let o' := wanted.settle timeout (throughService wanted made (s'.reply made b).1)
    o'.error = o.error ∧ entriesStorable o'.output = entriesStorable o.output := by
  rcases s.reply_alike s' made b with hsame | ⟨hchannel, id, id', hreply, hreply'⟩
  · rw [hsame]
    exact ⟨rfl, rfl⟩
  · cases hrouted with
    | service => cases hchannel
    | direct =>
      cases wanted with
      | notification =>
        -- The values are identifiers and may differ, but neither is an error.
        rw [hreply, hreply']
        exact ⟨rfl, rfl⟩
      | _ => cases hchannel

/-- What an action that made a call comes to does not depend on the engine that settles it. -/
theorem settle_replyTo_alike {p p' : Pending} (hlimits : s'.limits = s.limits)
    (hcall : p'.call = p.call) (hmade : p'.made = p.made) (hbehaviour : p'.behaviour = p.behaviour)
    (hrouted : Call.Routed p.call p.made) (expired : Bool) :
    let o := p.call.settle s.limits.actionTimeout (s.replyTo p expired)
    let o' := p'.call.settle s'.limits.actionTimeout (s'.replyTo p' expired)
    o'.error = o.error ∧ entriesStorable o'.output = entriesStorable o.output := by
  rw [hlimits, hcall, replyTo, replyTo, hcall, hmade, hbehaviour]
  cases expired with
  | true => exact ⟨rfl, rfl⟩
  | false => exact settle_reply_alike _ _ hrouted _ _

/-- The verdict on an action that made a call. -/
theorem verdict_finish_eq (p p' : Pending) (hlimits : s'.limits = s.limits)
    (htype : p'.type = p.type) (hcall : p'.call = p.call) (hmade : p'.made = p.made)
    (hbehaviour : p'.behaviour = p.behaviour) (hrouted : Call.Routed p.call p.made)
    (expired : Bool) : (s'.finish p' expired).1.verdict = (s.finish p expired).1.verdict := by
  have herror := (settle_replyTo_alike hlimits hcall hmade hbehaviour hrouted expired).1
  obtain ⟨u, -, hfinish⟩ := s.finish_settles p expired
  obtain ⟨u', -, hfinish'⟩ := s'.finish_settles p' expired
  rw [hfinish, hfinish']
  simp only [ActionResult.verdict, settle, htype, herror, Outcome.isSuccess_congr herror]

theorem execute_of_settled {a : Action} {context : Value} {place : Place} {r : ActionResult}
    (h : (s.begin a context place).1 = .settled r) : (s.execute a context place).1 = r := by
  rw [execute]
  split
  · rename_i r' u hbegin
    rw [hbegin] at h
    cases h
    rfl
  · rename_i p u hbegin
    rw [hbegin] at h
    cases h

theorem execute_of_pending {a : Action} {context : Value} {place : Place} {p : Pending}
    (h : (s.begin a context place).1 = .pending p) :
    s.execute a context place = (s.begin a context place).2.finish p (s.runsOut p.behaviour) := by
  have hlimits := (s.quiet_begin a context place).toSteady.runsOut_eq
  rw [execute]
  split
  · rename_i r u hbegin
    rw [hbegin] at h
    cases h
  · rename_i p' u hbegin
    rw [hbegin] at h hlimits
    cases h
    rw [hbegin, hlimits]

/-- An action that is carried out in engines with the same limits and the same customers comes to
the same verdict if its collaborator behaves the same. -/
theorem verdict_execute_eq (hlimits : s'.limits = s.limits)
    (hcustomers : s'.customers = s.customers) (hfixed : s.Fixed outcomes)
    (hfixed' : s'.Fixed outcomes') {place : Place} (hsame : outcomes' place = outcomes place)
    (a : Action) (context : Value) :
    (s'.execute a context place).1.verdict = (s.execute a context place).1.verdict := by
  rcases begin_alike hlimits hcustomers a context place with
    ⟨r, r', hr, hr', hverdict⟩ | ⟨t, wanted, made, hasks, hp, hp'⟩
  · rw [execute_of_settled hr, execute_of_settled hr', hverdict]
  · have hlimits' : (s'.begin a context place).2.limits = (s.begin a context place).2.limits := by
      rw [(s'.quiet_begin a context place).limits, (s.quiet_begin a context place).limits, hlimits]
    have hbehaviour : (s'.behaviourOf place made).1 = (s.behaviourOf place made).1 := by
      rw [hfixed.behaviourOf_eq, hfixed'.behaviourOf_eq, hsame]
    have hruns : s'.runsOut (s'.behaviourOf place made).1 =
        s.runsOut (s.behaviourOf place made).1 := by
      simp only [runsOut, hlimits, hbehaviour]
    rw [execute_of_pending hp, execute_of_pending hp']
    show ((s'.begin a context place).2.finish _
      (s'.runsOut (s'.behaviourOf place made).1)).1.verdict = _
    have hrouted : Call.Routed wanted made := routed_of_route hasks.routed
    rw [hruns]
    exact verdict_finish_eq (s.make place t s.ticks wanted made).1
      (s'.make place t s'.ticks wanted made).1 hlimits' rfl rfl rfl hbehaviour hrouted _

/-- The call that an action waits for is made where it is wanted. -/
theorem routed_of_begin {a : Action} {context : Value} {place : Place} {p : Pending}
    (h : s.begin a context place = (.pending p, s')) : Call.Routed p.call p.made := by
  rcases s.begin_cases a context place with ⟨message, -, -, hcase⟩ | ⟨t, wanted, made, hasks, hcase⟩
  · cases hcase.symm.trans h
  · cases hcase.symm.trans h
    exact routed_of_route hasks.routed

/-- Whatever turns other tasks take meanwhile, an action comes to the verdict that it comes to when
it is carried out at once. -/
theorem Yields.verdict_eq (hfixed : s.Fixed outcomes) {a : Action} {context : Value} {place : Place}
    {r : ActionResult} (h : s.Yields a context place r) :
    r.verdict = (s.execute a context place).1.verdict := by
  cases h with
  | @settled u u' _ steady hbegin =>
    have hr : (u.begin a context place).1 = .settled r := by rw [hbegin]
    rw [← execute_of_settled hr]
    exact verdict_execute_eq steady.limits steady.customers hfixed (hfixed.steady steady) rfl a
      context
  | @finished u p awaits steady =>
    -- The call was made in one engine and is finished in another, and both are steady.
    obtain ⟨w, w', hw, hbegin⟩ := awaits
    have hp : (w.begin a context place).1 = .pending p := by rw [hbegin]
    rw [← verdict_execute_eq hw.limits hw.customers hfixed (hfixed.steady hw) rfl a context,
      execute_of_pending hp, hw.runsOut_eq]
    have hlimits : u.limits = (w.begin a context place).2.limits := by
      rw [steady.limits, (w.quiet_begin a context place).limits, hw.limits]
    exact verdict_finish_eq p p hlimits rfl rfl rfl rfl (routed_of_begin hbegin) _

/-! ## The actions of a workflow -/

/-- The result at the place of an action is what the action can come to. -/
theorem CarriedOut.yields {context : Value} {workflowId : String} {as : List Action}
    {rs : List ActionResult} (h : s₀.CarriedOut context workflowId as rs) :
    ∀ {i a r}, as[i]? = some a → rs[i]? = some r → s₀.Yields a context ⟨workflowId, i⟩ r := by
  induction h with
  | nil =>
    intro i a r ha
    cases ha
  | @snoc as rs b q before last ih =>
    have hlength : as.length = rs.length := before.forall₂.length_eq
    intro i a r ha hr
    rcases Nat.lt_trichotomy i rs.length with hi | rfl | hi
    · rw [List.getElem?_append_left (hlength ▸ hi)] at ha
      rw [List.getElem?_append_left hi] at hr
      exact ih ha hr
    · rw [← hlength, List.getElem?_concat_length] at ha
      rw [List.getElem?_concat_length] at hr
      obtain rfl := Option.some.inj ha
      obtain rfl := Option.some.inj hr
      exact last
    · rw [List.getElem?_eq_none (by simp; omega)] at hr
      cases hr

/-- Actions that are carried out twice come to the same verdict wherever their collaborators behave
the same. -/
theorem CarriedOut.verdict_eq (hfixed : s₀.Fixed outcomes) (hfixed' : s₀'.Fixed outcomes')
    (hlimits : s₀'.limits = s₀.limits) (hcustomers : s₀'.customers = s₀.customers)
    {context : Value} {workflowId : String} {as : List Action} {rs rs' : List ActionResult}
    (h : s₀.CarriedOut context workflowId as rs)
    (h' : s₀'.CarriedOut context workflowId as rs') {i : Nat}
    (hsame : outcomes' ⟨workflowId, i⟩ = outcomes ⟨workflowId, i⟩) :
    (rs'.map ActionResult.verdict)[i]? = (rs.map ActionResult.verdict)[i]? := by
  have hlength : as.length = rs.length := h.forall₂.length_eq
  have hlength' : as.length = rs'.length := h'.forall₂.length_eq
  rcases Nat.lt_or_ge i as.length with hi | hi
  · have ha : as[i]? = some as[i] := List.getElem?_eq_getElem hi
    obtain ⟨r, hr⟩ : ∃ r, rs[i]? = some r := ⟨_, List.getElem?_eq_getElem (hlength ▸ hi)⟩
    obtain ⟨r', hr'⟩ : ∃ r, rs'[i]? = some r := ⟨_, List.getElem?_eq_getElem (hlength' ▸ hi)⟩
    rw [List.getElem?_map, List.getElem?_map, hr, hr', Option.map_some, Option.map_some,
      (h.yields ha hr).verdict_eq hfixed, (h'.yields ha hr').verdict_eq hfixed',
      verdict_execute_eq hlimits hcustomers hfixed hfixed' hsame]
  · rw [List.getElem?_eq_none (by simpa [← hlength'] using hi),
      List.getElem?_eq_none (by simpa [← hlength] using hi)]

end Engine

/-- The status of an execution depends on the verdicts only. -/
theorem Status.ofResults_congr {rs rs' : List ActionResult}
    (h : rs'.map ActionResult.verdict = rs.map ActionResult.verdict) :
    ofResults rs' = ofResults rs := by
  have hsuccess : ∀ qs : List ActionResult,
      qs.map (·.success) = (qs.map ActionResult.verdict).map fun verdict => verdict.2.1 := by
    intro qs
    rw [List.map_map]
    rfl
  rw [ofResults, ofResults, hsuccess, hsuccess, h]

/-! ## Two triggers -/

/-- Lists of which each member goes with a member of a third list. -/
theorem forall₂_of_common {α β γ : Type} {R : α → β → Prop} {S : α → γ → Prop}
    {T : β → γ → Prop} {xs : List α} {ys : List β} {zs : List γ} (h : List.Forall₂ R xs ys)
    (h' : List.Forall₂ S xs zs) (hcommon : ∀ x y z, R x y → S x z → T y z) :
    List.Forall₂ T ys zs := by
  induction h generalizing zs with
  | nil =>
    cases h'
    exact .nil
  | cons hxy _ ih =>
    cases h' with
    | cons hxz hrest => exact .cons (hcommon _ _ _ hxy hxz) (ih hrest)

namespace Engine

variable {s : Engine} {outcomes outcomes' : Place → Behaviour} {place : Place}

/-- The result of a trigger is a success exactly if no execution has a fault. -/
theorem success_resultOf_congr {m : Match} {runs runs' : List Finished}
    (h : runs'.map (·.fault.isNone) = runs.map (·.fault.isNone)) :
    (resultOf m runs').success = (resultOf m runs).success := by
  have hall : ∀ fs : List Finished,
      (resultOf m fs).success = (fs.map (·.fault.isNone)).all id := by
    intro fs
    simp [resultOf, List.all_map]
  rw [hall, hall, h]

end Engine

end Automation
