import Automation.Proofs.Action.Steps

/-!
# When an action is a success

A collaborator that was called in time and comes back *accepts* if what it comes back with is
acceptable for the call: anything but a value that counts as absent for an email or a customer,
anything at all for a notification, a status from 200 to 299 for a request (`Behaviour.Accepts`).
The outbox comes back only from an email that it can render, and the customer service only from a
change whose keys it can sort.

An action is a success if the collaborator that it asks accepts (`error_settle_eq_null_iff`).  It is
also one in a case that nobody wants: the collaborator fails with an error of the engine whose
message is null.  The message of such an error becomes the error of the result as it is, and a null
error is what tells a success.  `executeAny_success_iff` gives the exact condition, and
`executeAny_success_of_null_message` an action that is reported as a success although its
collaborator failed.
-/

namespace Automation

/-! ## Calls and those who are called -/

/-- A call that is made where one is wanted: the call itself, or a request to the customer
service. -/
inductive Call.Routed : Call → Call → Prop where
  | direct (c : Call) : Routed c c
  | service {id url method : String} {fields : Mapping} {headers : List (String × String)}
      {body : Value} {timeout : Number} :
      Routed (.customer id fields) (.http url method headers body timeout)

theorem Engine.routed_of_route {s : Engine} {wanted made : Call} (h : s.route wanted = .ok made) :
    Call.Routed wanted made := by
  cases wanted with
  | customer id fields =>
    cases hcustomers : s.customers with
    | none =>
      simp only [route, hcustomers] at h
      cases h
      exact .direct _
    | some service =>
      simp only [route, hcustomers, CustomerService.update] at h
      split at h
      · cases h
      · cases h
        exact .service
  | _ =>
    cases h
    exact .direct _

/-- A collaborator that comes back with what is acceptable for the call that was wanted of it and
the call that was made. -/
inductive Behaviour.Accepts (b : Behaviour) : Call → Call → Prop where
  /-- An email is sent, unless the sender says otherwise; the outbox has to render it. -/
  | email {recipient template : String} {subject : Option String} {values : Mapping}
      (truthy : (b.returns.getD (.bool true)).truthy = true)
      (rendered : b.returns = none →
        ∃ m, Email.render recipient subject template values = .ok m) :
      Accepts b (.email recipient subject template values)
        (.email recipient subject template values)
  | notification {title message type priority : String} {userId : Option String} :
      Accepts b (.notification title message type priority userId)
        (.notification title message type priority userId)
  /-- A customer is changed, unless the store says otherwise. -/
  | customer {id : String} {fields : Mapping}
      (truthy : (b.returns.getD (.bool true)).truthy = true) :
      Accepts b (.customer id fields) (.customer id fields)
  /-- A request is answered with a good status. -/
  | status {url method : String} {headers : List (String × String)} {body : Value}
      {timeout : Number} (low : 200 ≤ b.status) (high : b.status < 300) :
      Accepts b (.http url method headers body timeout) (.http url method headers body timeout)
  /-- So is a request to the customer service, and the names of the fields are sorted. -/
  | service {id url method : String} {fields : Mapping} {headers : List (String × String)}
      {body : Value} {timeout : Number} {names : List Key} (low : 200 ≤ b.status)
      (high : b.status < 300) (sorted : Key.sorted (fields.map Prod.fst) = .ok names) :
      Accepts b (.customer id fields) (.http url method headers body timeout)

/-! ## Replies -/

namespace Engine

theorem reply_of_raises (s : Engine) (c : Call) {b : Behaviour} {f : Failure}
    (h : b.raises = some f) : (s.reply c b).1 = .raised f := by
  simp [reply, h]

/-- An email is sent by a sender that says what comes of it, or by the outbox if it can render
it. -/
theorem reply_email (s : Engine) {b : Behaviour} (h : b.raises = none) (recipient : String)
    (subject : Option String) (template : String) (values : Mapping) :
    (s.reply (.email recipient subject template values) b).1 =
        .value (b.returns.getD (.bool true)) ∧
      (b.returns = none → ∃ m, Email.render recipient subject template values = .ok m) ∨
    b.returns = none ∧ (∀ m, Email.render recipient subject template values ≠ .ok m) ∧
      ∃ e, (s.reply (.email recipient subject template values) b).1 = .raised (.fault e) := by
  cases hr : b.returns with
  | some v => exact .inl ⟨by simp [reply, h, hr], by simp⟩
  | none =>
    cases hrender : Email.render recipient subject template values with
    | ok m => exact .inl ⟨by simp [reply, h, hr, usualReply, hrender], fun _ => ⟨m, rfl⟩⟩
    | error e =>
      exact .inr ⟨rfl, by simp, e.fault, by simp [reply, h, hr, usualReply, hrender]⟩

/-- A notification store that does not fail comes back with a value. -/
theorem reply_notification (s : Engine) {b : Behaviour} (h : b.raises = none)
    (title message type priority : String) (userId : Option String) :
    ∃ v, (s.reply (.notification title message type priority userId) b).1 = .value v := by
  cases hr : b.returns with
  | some v => exact ⟨v, by simp [reply, h, hr]⟩
  | none =>
    exact ⟨.text (s.notify title message type priority userId).1,
      by simp [reply, h, hr, usualReply]⟩

/-- A customer store changes the customer, unless it says otherwise. -/
theorem reply_customer (s : Engine) {b : Behaviour} (h : b.raises = none) (id : String)
    (fields : Mapping) :
    (s.reply (.customer id fields) b).1 = .value (b.returns.getD (.bool true)) := by
  cases hr : b.returns <;> simp [reply, h, hr, usualReply]

theorem reply_http (s : Engine) {b : Behaviour} (h : b.raises = none) (url method : String)
    (headers : List (String × String)) (body : Value) (timeout : Number) :
    (s.reply (.http url method headers body timeout) b).1 = .response b.status := by
  cases hr : b.returns <;> simp [reply, h]

/-- Only a status is read by way of the customer service. -/
theorem throughService_of_no_status (wanted made : Call) (r : Reply)
    (h : ∀ status, r ≠ .response status) : throughService wanted made r = r := by
  cases r with
  | response status => exact absurd rfl (h status)
  | _ => cases wanted <;> cases made <;> rfl

/-- The reply to a call that was made as it was wanted is taken as it is. -/
theorem throughService_self (c : Call) (r : Reply) : throughService c c r = r := by
  cases c <;> rfl

theorem report_eq_null_iff {f : Failure} :
    f.report = .null ↔ ∃ e, f = .engine e ∧ e.message = .null := by
  cases f with
  | engine e => simp [Failure.report]
  | fault f => simp [Failure.report]

theorem isAccepted_eq_true_iff {status : Int} :
    isAccepted status = true ↔ 200 ≤ status ∧ status < 300 := by
  simp [isAccepted]

theorem error_settle_status_eq_null_iff (c : Call) (timeout : Number) {status : Int} :
    (c.settle timeout (.response status)).error = .null ↔ 200 ≤ status ∧ status < 300 := by
  rw [← isAccepted_eq_true_iff]
  cases h : isAccepted status <;> simp [Call.settle, h, Outcome.accepted, Outcome.refused]

/-- The customer service says by the status whether a customer was changed, and then sorts the
names of the fields. -/
theorem error_settle_service_eq_null_iff {id url method : String} {fields : Mapping}
    {headers : List (String × String)} {body : Value} {patience timeout : Number} {status : Int} :
    ((Call.customer id fields).settle timeout
      (throughService (.customer id fields) (.http url method headers body patience)
        (.response status))).error = .null ↔
      200 ≤ status ∧ status < 300 ∧ ∃ names, Key.sorted (fields.map Prod.fst) = .ok names := by
  rw [← and_assoc, ← isAccepted_eq_true_iff]
  simp only [throughService, CustomerService.accept]
  by_cases hmissing : status = 404
  · subst hmissing
    simp [Call.settle, Call.settleValue, Value.truthy, Outcome.refused, isAccepted]
  · cases haccepted : isAccepted status with
    | false =>
      simp [hmissing, Call.settle, Failure.report, CustomerService.error, EngineError.action]
    | true =>
      cases hsorted : Key.sorted (fields.map Prod.fst) with
      | ok names =>
        simp [hmissing, Call.settle, Call.settleValue, Value.truthy, Outcome.accepted]
      | error e => simp [hmissing, Call.settle, Failure.report]

theorem error_settleValue_email_eq_null_iff {recipient template : String}
    {subject : Option String} {values : Mapping} {v : Value} :
    ((Call.email recipient subject template values).settleValue v).error = .null ↔
      v.truthy = true := by
  cases h : v.truthy <;> simp [Call.settleValue, h, Outcome.accepted, Outcome.refused]

theorem error_settleValue_customer_eq_null_iff {id : String} {fields : Mapping} {v : Value} :
    ((Call.customer id fields).settleValue v).error = .null ↔ v.truthy = true := by
  cases h : v.truthy <;> simp [Call.settleValue, h, Outcome.accepted, Outcome.refused]

/-- An action that takes the reply of a collaborator has no error if the collaborator accepts, or
if it fails with an error of the engine whose message is null. -/
theorem error_settle_eq_null_iff (s : Engine) {wanted made : Call}
    (hrouted : Call.Routed wanted made) (b : Behaviour) (timeout : Number) :
    (wanted.settle timeout (throughService wanted made (s.reply made b).1)).error = .null ↔
      (b.raises = none ∧ b.Accepts wanted made) ∨
        ∃ e, b.raises = some (.engine e) ∧ e.message = .null := by
  cases hraises : b.raises with
  | some f =>
    rw [reply_of_raises s made hraises, throughService_of_no_status _ _ (.raised f) nofun,
      Call.settle, report_eq_null_iff]
    simp
  | none =>
    simp only [true_and, reduceCtorEq, false_and, exists_false, or_false]
    cases hrouted with
    | service =>
      rw [reply_http s hraises, error_settle_service_eq_null_iff]
      constructor
      · rintro ⟨low, high, names, sorted⟩
        exact .service low high sorted
      · rintro (_ | _ | _ | _ | ⟨low, high, sorted⟩)
        exact ⟨low, high, _, sorted⟩
    | direct =>
      rw [throughService_self]
      cases wanted with
      | http =>
        rw [reply_http s hraises, error_settle_status_eq_null_iff]
        constructor
        · rintro ⟨low, high⟩
          exact .status low high
        · rintro (_ | _ | _ | ⟨low, high⟩)
          exact ⟨low, high⟩
      | email recipient subject template values =>
        rcases s.reply_email hraises recipient subject template values with
          ⟨hreply, hrendered⟩ | ⟨hreturns, hnone, e, hreply⟩
        · rw [hreply, Call.settle, error_settleValue_email_eq_null_iff]
          constructor
          · intro truthy
            exact .email truthy hrendered
          · rintro (⟨truthy, -⟩ | _ | _ | _)
            exact truthy
        · rw [hreply, Call.settle, report_eq_null_iff]
          constructor
          · rintro ⟨_, h, _⟩
            cases h
          · rintro (⟨-, rendered⟩ | _ | _ | _)
            obtain ⟨m, hm⟩ := rendered hreturns
            exact absurd hm (hnone m)
      | notification title message type priority userId =>
        obtain ⟨v, hv⟩ := s.reply_notification hraises title message type priority userId
        rw [hv]
        exact ⟨fun _ => .notification, fun _ => rfl⟩
      | customer id fields =>
        rw [s.reply_customer hraises, Call.settle, error_settleValue_customer_eq_null_iff]
        constructor
        · intro truthy
          exact .customer truthy
        · rintro (_ | _ | ⟨truthy⟩ | _)
          exact truthy

/-- An outcome that is accepted or refused has a text as its error, unless it is accepted. -/
theorem error_ite_eq_text {accepts : Prop} [Decidable accepts] {output : Mapping} {text : String}
    (h : (if accepts then Outcome.accepted output else .refused text).error ≠ .null) :
    ∃ text', (if accepts then Outcome.accepted output else .refused text).error = .text text' := by
  by_cases haccepts : accepts
  · rw [if_pos haccepts] at h
    exact absurd rfl h
  · rw [if_neg haccepts]
    exact ⟨text, rfl⟩

/-- What is said of a value that is not acceptable is a text. -/
theorem error_settleValue_eq_text (c : Call) (v : Value) (h : (c.settleValue v).error ≠ .null) :
    ∃ text, (c.settleValue v).error = .text text := by
  cases c with
  | email =>
    simp only [Call.settleValue] at h ⊢
    exact error_ite_eq_text h
  | notification => exact absurd rfl h
  | customer =>
    simp only [Call.settleValue] at h ⊢
    exact error_ite_eq_text h
  | http => exact absurd rfl h

theorem report_of_accept_eq_error {fields : Mapping} {status : Int} {f : Failure}
    (h : CustomerService.accept fields status = .error f) : ∃ text, f.report = .text text := by
  simp only [CustomerService.accept] at h
  split at h
  · cases h
  · split at h
    · split at h
      · cases h
      · cases h
        exact ⟨_, rfl⟩
    · cases h
      exact ⟨_, rfl⟩

/-- What is said of a status that is not acceptable is a text. -/
theorem error_settle_status_eq_text {wanted made : Call} (hrouted : Call.Routed wanted made)
    (timeout : Number) (status : Int)
    (h : (wanted.settle timeout (throughService wanted made (.response status))).error ≠ .null) :
    ∃ text, (wanted.settle timeout (throughService wanted made (.response status))).error
      = .text text := by
  cases hrouted with
  | direct =>
    rw [throughService_self] at h ⊢
    exact error_ite_eq_text h
  | @service _ _ _ fields =>
    simp only [throughService] at h ⊢
    cases haccept : CustomerService.accept fields status with
    | ok found =>
      rw [haccept] at h
      exact error_settleValue_eq_text _ _ h
    | error f =>
      obtain ⟨text, htext⟩ := report_of_accept_eq_error haccept
      exact ⟨text, htext⟩

/-- A collaborator that does not fail as it is told to comes back with a value or a status, or fails
with a fault. -/
theorem reply_cases (s : Engine) (c : Call) {b : Behaviour} (h : b.raises = none) :
    (∃ v, (s.reply c b).1 = .value v) ∨ (∃ status, (s.reply c b).1 = .response status) ∨
      ∃ e, (s.reply c b).1 = .raised (.fault e) := by
  cases c with
  | email recipient subject template values =>
    rcases s.reply_email h recipient subject template values with
      ⟨hreply, -⟩ | ⟨-, -, e, hreply⟩
    · exact .inl ⟨_, hreply⟩
    · exact .inr (.inr ⟨e, hreply⟩)
  | notification title message type priority userId =>
    exact .inl (s.reply_notification h title message type priority userId)
  | customer id fields => exact .inl ⟨_, s.reply_customer h id fields⟩
  | http url method headers body timeout =>
    exact .inr (.inl ⟨_, reply_http s h url method headers body timeout⟩)

/-- The error of an action is a text, unless a collaborator failed with an error of the engine that
says something else. -/
theorem error_settle_eq_text (s : Engine) {wanted made : Call}
    (hrouted : Call.Routed wanted made) (b : Behaviour) (timeout : Number)
    (h : (wanted.settle timeout (throughService wanted made (s.reply made b).1)).error ≠ .null) :
    (∃ text, (wanted.settle timeout (throughService wanted made (s.reply made b).1)).error
      = .text text) ∨
    ∃ e, b.raises = some (.engine e) ∧
      (wanted.settle timeout (throughService wanted made (s.reply made b).1)).error =
        e.message := by
  cases hraises : b.raises with
  | some f =>
    rw [reply_of_raises s made hraises, throughService_of_no_status _ _ (.raised f) nofun] at h ⊢
    cases f with
    | engine e => exact .inr ⟨e, rfl, rfl⟩
    | fault f => exact .inl ⟨_, rfl⟩
  | none =>
    left
    rcases s.reply_cases made hraises with ⟨v, hreply⟩ | ⟨status, hreply⟩ | ⟨e, hreply⟩
    · rw [hreply, throughService_of_no_status _ _ (.value v) nofun] at h ⊢
      exact error_settleValue_eq_text _ _ h
    · rw [hreply] at h ⊢
      exact error_settle_status_eq_text hrouted _ _ h
    · rw [hreply, throughService_of_no_status _ _ (.raised (.fault e)) nofun]
      exact ⟨_, rfl⟩

/-! ## Actions -/

/-- An action of any kind with any configuration asks for a call. -/
def AsksAny (s : Engine) (type config context : Value) (wanted made : Call) : Prop :=
  ∃ m t, config = .mapping m ∧ s.Asks ⟨type, m⟩ context t wanted made

/-- The error of an action that waits for a collaborator is what the reply settles. -/
theorem error_finish (s : Engine) (p : Pending) (expired : Bool) :
    (s.finish p expired).1.error =
      (p.call.settle s.limits.actionTimeout (s.replyTo p expired)).error := by
  obtain ⟨s', -, h⟩ := s.finish_settles p expired
  rw [h]
  rfl

/-- A result is a success exactly if its error is null. -/
theorem success_finish (s : Engine) (p : Pending) (expired : Bool) :
    (s.finish p expired).1.success = true ↔ (s.finish p expired).1.error = .null := by
  obtain ⟨s', -, h⟩ := s.finish_settles p expired
  rw [h]
  exact s'.success_settle _ _ _

/-- An action asks for no call, and its error is a text, or it takes the reply of the collaborator
that it asks, if that comes in time. -/
theorem execute_cases (s : Engine) (a : Action) (context : Value) (place : Place) :
    ((s.execute a context place).1.success = true ↔
      (s.execute a context place).1.error = .null) ∧
    ((∃ text, (∀ t wanted made, ¬ s.Asks a context t wanted made) ∧
        (s.execute a context place).1.error = .text text) ∨
      ∃ (t : ActionType) (wanted made : Call) (s' : Engine), s.Asks a context t wanted made ∧
        (s.execute a context place).1.error =
          (wanted.settle s.limits.actionTimeout (throughService wanted made
            (if s.runsOut (s.behaviourOf place made).1 then .expired
              else (s'.reply made (s.behaviourOf place made).1).1))).error) := by
  rcases s.begin_cases a context place with ⟨text, hnone, -, h⟩ | ⟨t, wanted, made, hasks, h⟩
  · have hexecute : s.execute a context place =
        s.settle a.type.display s.ticks ⟨.text text, []⟩ := by
      rw [execute, h]
      rfl
    rw [hexecute]
    exact ⟨s.success_settle _ _ _, .inl ⟨text, hnone, rfl⟩⟩
  · have hmake := s.quiet_make place t s.ticks wanted made
    have hexecute : s.execute a context place = (s.make place t s.ticks wanted made).2.finish
        (s.make place t s.ticks wanted made).1
        (s.runsOut (s.behaviourOf place made).1) := by
      rw [execute, h]
      simp only [runsOut, hmake.limits]
      rfl
    rw [hexecute]
    refine ⟨success_finish _ _ _, .inr ⟨t, wanted, made,
      (s.make place t s.ticks wanted made).2.endCall, hasks, ?_⟩⟩
    rw [error_finish, hmake.limits]
    rfl

/-- With a configuration that is no mapping, an action of an unknown kind is carried out as if it
had an empty one, and an action of a known kind is refused. -/
theorem executeAny_eq_of_no_mapping (s : Engine) (type context : Value) {config : Value}
    (place : Place) (h : ∀ m, config ≠ .mapping m) :
    (ActionType.ofValue? type = none ∧
      s.executeAny type config context place = s.execute ⟨type, []⟩ context place) ∨
    ∃ t : ActionType, s.executeAny type config context place = s.settle t.name s.ticks
      (Outcome.refused (PrepareError.ofOther context config).message) := by
  cases htype : ActionType.ofValue? type with
  | none =>
    refine .inl ⟨rfl, ?_⟩
    cases config with
    | mapping m => exact absurd rfl (h m)
    | _ => simp only [executeAny, htype]
  | some t =>
    refine .inr ⟨t, ?_⟩
    cases config with
    | mapping m => exact absurd rfl (h m)
    | _ => simp only [executeAny, htype]

/-- A configuration that is no mapping asks for no call. -/
theorem executeAny_of_no_mapping (s : Engine) (type context : Value) {config : Value}
    (place : Place) (h : ∀ m, config ≠ .mapping m) :
    ((s.executeAny type config context place).1.success = true ↔
      (s.executeAny type config context place).1.error = .null) ∧
    ∃ text, (s.executeAny type config context place).1.error = .text text := by
  rcases s.executeAny_eq_of_no_mapping type context place h with ⟨htype, hexecute⟩ | ⟨t, hexecute⟩
  · rw [hexecute]
    obtain ⟨hsuccess, ⟨text, -, herror⟩ | ⟨t, wanted, made, -, hasks, -⟩⟩ :=
      s.execute_cases ⟨type, []⟩ context place
    · exact ⟨hsuccess, text, herror⟩
    · rw [ActionType.ofValue?_eq_some_iff.2 hasks.type] at htype
      cases htype
  · rw [hexecute]
    exact ⟨s.success_settle _ _ _, _, rfl⟩

/-- The same for an action of any kind with any configuration. -/
theorem executeAny_cases (s : Engine) (type config context : Value) (place : Place) :
    ((s.executeAny type config context place).1.success = true ↔
      (s.executeAny type config context place).1.error = .null) ∧
    ((∃ text, (∀ wanted made, ¬ s.AsksAny type config context wanted made) ∧
        (s.executeAny type config context place).1.error = .text text) ∨
      ∃ (wanted made : Call) (s' : Engine), s.AsksAny type config context wanted made ∧
        (s.executeAny type config context place).1.error =
          (wanted.settle s.limits.actionTimeout (throughService wanted made
            (if s.runsOut (s.behaviourOf place made).1 then .expired
              else (s'.reply made (s.behaviourOf place made).1).1))).error) := by
  by_cases hmapping : ∃ m, config = .mapping m
  · obtain ⟨m, rfl⟩ := hmapping
    obtain ⟨hsuccess, ⟨text, hnone, herror⟩ | ⟨t, wanted, made, s', hasks, herror⟩⟩ :=
      s.execute_cases ⟨type, m⟩ context place
    · refine ⟨hsuccess, .inl ⟨text, ?_, herror⟩⟩
      rintro wanted made ⟨_, t, heq, hasks⟩
      cases heq
      exact hnone t wanted made hasks
    · exact ⟨hsuccess, .inr ⟨wanted, made, s', ⟨m, t, rfl, hasks⟩, herror⟩⟩
  · have hno : ∀ m, config ≠ .mapping m := fun m h => hmapping ⟨m, h⟩
    obtain ⟨hsuccess, text, herror⟩ := s.executeAny_of_no_mapping type context place hno
    refine ⟨hsuccess, .inl ⟨text, ?_, herror⟩⟩
    rintro wanted made ⟨m, _, heq, _⟩
    exact hno m heq

theorem AsksAny.unique {s : Engine} {type config context : Value} {wanted wanted' made made' : Call}
    (h : s.AsksAny type config context wanted made)
    (h' : s.AsksAny type config context wanted' made') : wanted = wanted' ∧ made = made' := by
  obtain ⟨m, t, rfl, hasks⟩ := h
  obtain ⟨m', t', heq, hasks'⟩ := h'
  cases heq
  exact (hasks.unique hasks').2

theorem routed_of_asks {s : Engine} {type config context : Value} {wanted made : Call}
    (h : s.AsksAny type config context wanted made) : Call.Routed wanted made := by
  obtain ⟨_, _, _, hasks⟩ := h
  exact routed_of_route hasks.routed

/-- When an action is a success, and what its error is.

It is a success exactly if it asks for a call, the collaborator comes back in time, and the
collaborator accepts or else fails with an error of the engine whose message is null.  A success has
no error.  The error of a failure is not null, and it is a text unless the collaborator failed with
an error of the engine that says something else. -/
theorem executeAny_success_iff (s : Engine) (type : String) (config context : Value)
    (place : Place) :
    ((s.executeAny (.text type) config context place).1.success = true ↔
      ∃ wanted made, s.AsksAny (.text type) config context wanted made ∧
        s.runsOut (s.behaviourOf place made).1 = false ∧
        ((s.behaviourOf place made).1.raises = none ∧
            (s.behaviourOf place made).1.Accepts wanted made ∨
          ∃ e, (s.behaviourOf place made).1.raises = some (.engine e) ∧ e.message = .null)) ∧
    ((s.executeAny (.text type) config context place).1.success = true →
      (s.executeAny (.text type) config context place).1.error = .null) ∧
    ((s.executeAny (.text type) config context place).1.success = false →
      (s.executeAny (.text type) config context place).1.error ≠ .null ∧
      ((∃ text, (s.executeAny (.text type) config context place).1.error = .text text) ∨
        ∃ wanted made e, s.AsksAny (.text type) config context wanted made ∧
          (s.behaviourOf place made).1.raises = some (.engine e) ∧
          (s.executeAny (.text type) config context place).1.error = e.message)) := by
  obtain ⟨hsuccess, hcases⟩ := s.executeAny_cases (.text type) config context place
  refine ⟨?_, hsuccess.1, ?_⟩
  · rw [hsuccess]
    rcases hcases with ⟨text, hnone, herror⟩ | ⟨wanted, made, s', hasks, herror⟩
    · rw [herror]
      constructor
      · intro h
        cases h
      · rintro ⟨wanted, made, hasks, -⟩
        exact absurd hasks (hnone wanted made)
    · have honly : ∀ {P : Call → Call → Prop},
          (∃ w m, s.AsksAny (.text type) config context w m ∧ P w m) ↔ P wanted made := by
        intro P
        constructor
        · rintro ⟨w, m, hasks', hp⟩
          obtain ⟨rfl, rfl⟩ := hasks.unique hasks'
          exact hp
        · intro hp
          exact ⟨wanted, made, hasks, hp⟩
      rw [herror, honly]
      cases hruns : s.runsOut (s.behaviourOf place made).1 with
      | true => simp [throughService_of_no_status, Call.settle, Outcome.refused]
      | false =>
        simp only [Bool.false_eq_true, if_false, true_and]
        exact s'.error_settle_eq_null_iff (routed_of_asks hasks) _ _
  · intro hfailure
    have hne : (s.executeAny (.text type) config context place).1.error ≠ .null := by
      intro h
      rw [hsuccess.2 h] at hfailure
      cases hfailure
    refine ⟨hne, ?_⟩
    rcases hcases with ⟨text, -, herror⟩ | ⟨wanted, made, s', hasks, herror⟩
    · exact .inl ⟨text, herror⟩
    · rw [herror] at hne ⊢
      cases hruns : s.runsOut (s.behaviourOf place made).1 with
      | true =>
        rw [hruns] at hne
        rw [if_pos rfl, throughService_of_no_status _ _ .expired nofun]
        exact .inl ⟨_, rfl⟩
      | false =>
        simp only [hruns, Bool.false_eq_true, if_false] at hne ⊢
        rcases s'.error_settle_eq_text (routed_of_asks hasks) _ _ hne with
          ⟨text, htext⟩ | ⟨e, hraises, he⟩
        · exact .inl ⟨text, htext⟩
        · exact .inr ⟨wanted, made, e, hasks, hraises, he⟩

/-- An engine whose collaborators fail with an error without a message. -/
def speechless : Engine :=
  { empty .memory ⟨0, some 0⟩ with
    outside := fun _ => { raises := some (.engine (.base .null .null .null)) } }

/-- An email that was not sent because the sender failed is reported as a success. -/
theorem executeAny_success_of_null_message :
    (speechless.behaviourOf ⟨"", 0⟩ (.email "a@b.c" none "hi" [])).1.raises
        = some (.engine (.base .null .null .null)) ∧
      (speechless.executeAny (.text "send_email")
        (.mapping [("to", .text "a@b.c"), ("body", .text "hi")]) (.mapping []) ⟨"", 0⟩).1.success
        = true := by
  exact ⟨rfl, by decide +kernel⟩

end Engine

end Automation
