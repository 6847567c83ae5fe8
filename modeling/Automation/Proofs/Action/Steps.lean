import Automation.Proofs.Workflow.Normal
import Automation.Action.Dispatch

/-!
# The two steps of an action

`Engine.begin` either settles an action at once with an error, when the action asks for no call, or
makes the call that it asks for (`begin_cases`).  The error is that the kind is unsupported exactly
if the kind is unknown.  `Engine.finish` settles the action that made a call.  Every result is of
the kind of its action, and it is a success exactly if its error is null.

Neither step touches what triggers rely on: the workflows, the log, the clock, the limits, the
behaviours and the failures of what is outside.  An engine that has these from another one is
*steady* (`Engine.Steady`), and both steps are steady.
-/

namespace Automation

/-! ## Messages -/

/-- What is said of an action of an unknown kind. -/
def unsupportedMessage : String := "unsupported action type"

/-- A text does not begin with what is no beginning of it. -/
theorem append_ne {p t : String} (h : p.toList.isPrefixOf t.toList = false) (s : String) :
    p ++ s ≠ t := by
  rintro rfl
  rw [String.toList_append, List.isPrefixOf_iff_prefix.2 (List.prefix_append _ _)] at h
  cases h

theorem IndexError.message_ne_unsupported (e : IndexError) : e.message ≠ unsupportedMessage := by
  have hliteral : ∀ s, "invalid literal for int() with base 10: " ++ s ≠ unsupportedMessage :=
    append_ne (by decide)
  have hlimit : ∀ s, "Exceeds the limit (" ++ s ≠ unsupportedMessage := append_ne (by decide)
  unfold message
  split
  · exact hliteral _
  · rw [String.append_assoc, String.append_assoc]
    exact hlimit _

theorem FormatError.message_ne_unsupported (e : FormatError) : e.message ≠ unsupportedMessage := by
  unfold message
  split
  · rw [String.append_assoc, String.append_assoc]
    exact append_ne (by decide) _
  · rw [String.append_assoc, String.append_assoc, String.append_assoc]
    exact append_ne (by decide) _
  · exact append_ne (by decide) _
  · rw [String.append_assoc]
    exact append_ne (by decide) _
  · decide

theorem RenderError.message_ne_unsupported (e : RenderError) : e.message ≠ unsupportedMessage := by
  cases e with
  | path e => exact e.message_ne_unsupported
  | format e => exact e.message_ne_unsupported

/-- No check of a configuration says that the kind of the action is unsupported. -/
theorem PrepareError.message_ne_unsupported (e : PrepareError) :
    e.message ≠ unsupportedMessage := by
  unfold message
  split
  · exact RenderError.message_ne_unsupported _
  · exact FormatError.message_ne_unsupported _
  · rw [String.append_assoc]
    exact append_ne (by decide) _
  · rename_i t key
    rw [String.append_assoc]
    cases t <;> exact append_ne (by decide) _
  · decide
  · decide
  · rw [String.append_assoc]
    exact append_ne (by decide) _
  · rw [String.append_assoc]
    exact append_ne (by decide) _
  · decide
  · exact append_ne (by decide) _
  · exact append_ne (by decide) _

/-! ## Results -/

theorem Outcome.isSuccess_eq_true_iff {o : Outcome} : o.isSuccess = true ↔ o.error = .null := by
  obtain ⟨error, output⟩ := o
  cases error <;> simp [isSuccess]

namespace Engine

/-- A result is a success exactly if its error is null. -/
theorem success_settle (s : Engine) (name : String) (start : Double) (o : Outcome) :
    (s.settle name start o).1.success = true ↔ (s.settle name start o).1.error = .null :=
  Outcome.isSuccess_eq_true_iff

/-! ## The first step -/

/-- An action settled at once, with an error. -/
def refused (s : Engine) (name : String) (error : Value) : Begun × Engine :=
  (.settled (s.settle name s.ticks ⟨error, []⟩).1, (s.settle name s.ticks ⟨error, []⟩).2)

/-- An action asks for a call, which is made of someone. -/
structure Asks (s : Engine) (a : Action) (context : Value) (t : ActionType) (wanted made : Call) :
    Prop where
  type : a.type = .text t.name
  prepared : a.prepare t context s.limits.webhookTimeout = .ok wanted
  routed : s.route wanted = .ok made

/-- An action asks for one call at most. -/
theorem Asks.unique {s : Engine} {a : Action} {context : Value} {t t' : ActionType}
    {wanted wanted' made made' : Call} (h : s.Asks a context t wanted made)
    (h' : s.Asks a context t' wanted' made') : t = t' ∧ wanted = wanted' ∧ made = made' := by
  have htype : ActionType.ofValue? a.type = some t := ActionType.ofValue?_eq_some_iff.2 h.type
  have htype' : ActionType.ofValue? a.type = some t' := ActionType.ofValue?_eq_some_iff.2 h'.type
  obtain rfl := Option.some.inj (htype.symm.trans htype')
  obtain rfl := Except.ok.inj (h.prepared.symm.trans h'.prepared)
  obtain rfl := Except.ok.inj (h.routed.symm.trans h'.routed)
  exact ⟨rfl, rfl, rfl⟩

/-- What is said where there is no one to call. -/
def unroutedMessage : String := "customer service is not configured (CUSTOMER_SERVICE_URL)"

theorem report_of_route_eq_error {s : Engine} {c : Call} {e : EngineError}
    (h : s.route c = .error e) : (Failure.engine e).report = .text unroutedMessage := by
  cases c with
  | customer id fields =>
    cases hcustomers : s.customers with
    | none => simp [route, hcustomers] at h
    | some service =>
      simp only [route, hcustomers, CustomerService.update] at h
      split at h
      · cases h
        rfl
      · cases h
  | _ => simp [route] at h

/-- An action asks for no call and is settled with an error, or it makes the call that it asks
for. -/
theorem begin_cases (s : Engine) (a : Action) (context : Value) (place : Place) :
    (∃ message : String, (∀ t wanted made, ¬ s.Asks a context t wanted made) ∧
      (message = unsupportedMessage → ActionType.ofValue? a.type = none) ∧
      s.begin a context place = s.refused a.type.display (.text message)) ∨
    ∃ (t : ActionType) (wanted made : Call), s.Asks a context t wanted made ∧
      s.begin a context place = (.pending (s.make place t s.ticks wanted made).1,
        (s.make place t s.ticks wanted made).2) := by
  rw [begin]
  cases ht : ActionType.ofValue? a.type with
  | none =>
    refine .inl ⟨unsupportedMessage, ?_, fun _ => rfl, rfl⟩
    intro t wanted made hasks
    rw [ActionType.ofValue?_eq_some_iff.2 hasks.type] at ht
    cases ht
  | some t =>
    have htype := ActionType.ofValue?_eq_some_iff.1 ht
    have hname : a.type.display = t.name := by rw [htype, Value.display]
    have hsame : ∀ {t' wanted made}, s.Asks a context t' wanted made → t' = t := by
      intro t' wanted made hasks
      rw [ActionType.ofValue?_eq_some_iff.2 hasks.type] at ht
      exact Option.some.inj ht
    rw [hname]
    cases hprepare : a.prepare t context s.limits.webhookTimeout with
    | error e =>
      have hnone : ∀ t' wanted made, ¬ s.Asks a context t' wanted made := by
        intro t' wanted made hasks
        obtain rfl := hsame hasks
        cases hprepare.symm.trans hasks.prepared
      exact .inl ⟨e.message, hnone, fun h => absurd h e.message_ne_unsupported, by
        simp [hprepare, refused]⟩
    | ok wanted =>
      cases hroute : s.route wanted with
      | error e =>
        have hnone : ∀ t' wanted made, ¬ s.Asks a context t' wanted made := by
          intro t' wanted' made hasks
          obtain rfl := hsame hasks
          obtain rfl := Except.ok.inj (hprepare.symm.trans hasks.prepared)
          cases hroute.symm.trans hasks.routed
        exact .inl ⟨unroutedMessage, hnone, fun h => absurd h (by decide), by
          simp [hprepare, hroute, refused, report_of_route_eq_error hroute]⟩
      | ok made =>
        exact .inr ⟨t, wanted, made, ⟨htype, hprepare, hroute⟩, by simp [hprepare, hroute]⟩

/-! ## The second step -/

/-- The reply that an action takes which made a call. -/
def replyTo (s : Engine) (p : Pending) (expired : Bool) : Reply :=
  throughService p.call p.made (if expired then .expired else (s.endCall.reply p.made p.behaviour).1)

/-! ## What the steps leave alone -/

/-- An engine that has from another one all that triggers rely on. -/
structure Steady (s s' : Engine) : Prop where
  repository : s'.repository = s.repository
  clock : s'.clock = s.clock
  limits : s'.limits = s.limits
  outside : s'.outside = s.outside
  network : s'.network = s.network
  customers : s'.customers = s.customers
  recordFailure : s'.recordFailure = s.recordFailure
  recordFailures : s'.recordFailures = s.recordFailures
  /-- Identifiers are issued and not taken back. -/
  issued : s.issued ≤ s'.issued

/-- An engine that is steady and has the same log. -/
structure Quiet (s s' : Engine) : Prop extends Steady s s' where
  log : s'.log = s.log

namespace Steady

variable {s s' s'' : Engine}

theorem refl (s : Engine) : s.Steady s := ⟨rfl, rfl, rfl, rfl, rfl, rfl, rfl, rfl, le_rfl⟩

theorem trans (h : s.Steady s') (h' : s'.Steady s'') : s.Steady s'' where
  repository := h'.repository.trans h.repository
  clock := h'.clock.trans h.clock
  limits := h'.limits.trans h.limits
  outside := h'.outside.trans h.outside
  network := h'.network.trans h.network
  customers := h'.customers.trans h.customers
  recordFailure := h'.recordFailure.trans h.recordFailure
  recordFailures := h'.recordFailures.trans h.recordFailures
  issued := h.issued.trans h'.issued

theorem unrecordable?_eq (h : s.Steady s') (workflowId : String) :
    s'.unrecordable? workflowId = s.unrecordable? workflowId := by
  simp only [unrecordable?, h.recordFailure, h.recordFailures]

end Steady

namespace Quiet

variable {s s' s'' : Engine}

theorem refl (s : Engine) : s.Quiet s := ⟨.refl s, rfl⟩

theorem trans (h : s.Quiet s') (h' : s'.Quiet s'') : s.Quiet s'' :=
  ⟨h.toSteady.trans h'.toSteady, h'.log.trans h.log⟩

end Quiet

theorem quiet_settle (s : Engine) (name : String) (start : Double) (o : Outcome) :
    s.Quiet (s.settle name start o).2 :=
  ⟨⟨rfl, rfl, rfl, rfl, rfl, rfl, rfl, rfl, le_rfl⟩, rfl⟩

theorem quiet_behaviourOf (s : Engine) (place : Place) (c : Call) :
    s.Quiet (s.behaviourOf place c).2 := by
  cases c with
  | http url method headers body timeout =>
    cases hnetwork : s.network with
    | none =>
      simp only [behaviourOf, Call.channel, hnetwork]
      exact .refl s
    | some answers =>
      simp only [behaviourOf, Call.channel, hnetwork, overNetwork]
      split
      · exact ⟨⟨rfl, rfl, rfl, rfl, hnetwork.symm, rfl, rfl, rfl, le_rfl⟩, rfl⟩
      · exact .refl s
  | _ => exact .refl s

theorem quiet_make (s : Engine) (place : Place) (t : ActionType) (start : Double)
    (wanted made : Call) : s.Quiet (s.make place t start wanted made).2 := by
  have h := s.quiet_behaviourOf place made
  exact h.trans ⟨⟨rfl, rfl, rfl, rfl, rfl, rfl, rfl, rfl, le_rfl⟩, rfl⟩

theorem quiet_begin (s : Engine) (a : Action) (context : Value) (place : Place) :
    s.Quiet (s.begin a context place).2 := by
  rcases s.begin_cases a context place with ⟨message, -, -, h⟩ | ⟨t, wanted, made, -, h⟩
  · rw [h]
    exact s.quiet_settle a.type.display s.ticks ⟨.text message, []⟩
  · rw [h]
    exact s.quiet_make place t s.ticks wanted made

theorem quiet_usualReply (s : Engine) (c : Call) (b : Behaviour) :
    s.Quiet (s.usualReply c b).2 := by
  cases c with
  | email =>
    rw [usualReply]
    split
    · exact ⟨⟨rfl, rfl, rfl, rfl, rfl, rfl, rfl, rfl, le_rfl⟩, rfl⟩
    · exact .refl s
  | notification => exact ⟨⟨rfl, rfl, rfl, rfl, rfl, rfl, rfl, rfl, Nat.le_succ _⟩, rfl⟩
  | customer => exact .refl s
  | http => exact .refl s

theorem quiet_reply (s : Engine) (c : Call) (b : Behaviour) : s.Quiet (s.reply c b).2 := by
  cases hraises : b.raises with
  | some f =>
    simp only [reply, hraises]
    exact .refl s
  | none =>
    cases hreturns : b.returns with
    | some v => cases c <;> simpa only [reply, hraises, hreturns] using .refl s
    | none =>
      cases c with
      | http =>
        simp only [reply, hraises]
        exact .refl s
      | _ =>
        simp only [reply, hraises, hreturns]
        exact s.quiet_usualReply _ b

/-- An action that made a call is settled by the reply. -/
theorem finish_settles (s : Engine) (p : Pending) (expired : Bool) :
    ∃ s', s.Quiet s' ∧ s.finish p expired =
      s'.settle p.type.name p.start (p.call.settle s.limits.actionTimeout (s.replyTo p expired)) := by
  have hend : s.Quiet s.endCall := ⟨⟨rfl, rfl, rfl, rfl, rfl, rfl, rfl, rfl, le_rfl⟩, rfl⟩
  cases expired with
  | true => exact ⟨s.endCall, hend, rfl⟩
  | false =>
    have hreply := s.endCall.quiet_reply p.made p.behaviour
    have hlimits : (s.endCall.reply p.made p.behaviour).2.limits = s.limits := hreply.limits
    refine ⟨(s.endCall.reply p.made p.behaviour).2, hend.trans hreply, ?_⟩
    simp [finish, replyTo, hlimits]

theorem quiet_finish (s : Engine) (p : Pending) (expired : Bool) :
    s.Quiet (s.finish p expired).2 := by
  obtain ⟨s', hquiet, h⟩ := s.finish_settles p expired
  rw [h]
  exact hquiet.trans (s'.quiet_settle _ _ _)

end Engine

end Automation
