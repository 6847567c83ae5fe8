import Automation.Proofs.Action.Outcome

/-!
# The calls that actions make

What a filled configuration asks of a collaborator is told by a relation (`ActionType.Makes`), with
one constructor for each kind of action and one field for each check.  The checks pass exactly if a
call is made in this sense, and then it is the call that they give (`ActionType.call_eq_ok_iff`).
Every call that is made is *proper* (`Makes.proper`): its texts are there and trimmed, its mappings
are mappings, and its address and method are those of the web.

The *journal* of an engine is what was asked of collaborators so far.  An action adds the one call
that it asks for, and nothing if it asks for none (`Engine.executeAny_calls`), whatever the
collaborator does.
-/

namespace Automation

/-! ## Entries of a configuration -/

/-- A mapping under a key, or the empty one where null or nothing is. -/
inductive Mapping.Offers (config : Mapping) (key : String) : Mapping → Prop where
  | left (null : config.getD key = .null) : Offers config key []
  | given {m : Mapping} (mapping : config.getD key = .mapping m) : Offers config key m

/-- A value that describes the subject of an email; an empty text is none. -/
inductive DescribesSubject : Value → Option String → Prop where
  | null : DescribesSubject .null none
  | empty : DescribesSubject (.text "") none
  | text {s : String} (ne_empty : s ≠ "") : DescribesSubject (.text s) (some s)

/-- A text is the display text under a key, or another one where nothing counts as present. -/
def Mapping.Shows (config : Mapping) (key other text : String) : Prop :=
  ((config.getD key).orElse (.text other)).shown = .ok text

/-- A value that names a user; one that counts as absent names none. -/
inductive NamesUser (v : Value) : Option String → Prop where
  | none (absent : v.truthy = false) : NamesUser v none
  | some {s : String} (present : v.truthy = true) (shown : v.shown = .ok s) : NamesUser v (some s)

/-- An entry shows as a name and a text. -/
def ShowsEntry (e : Key × Value) (h : String × String) : Prop :=
  e.1.shown = .ok h.1 ∧ e.2.shown = .ok h.2

/-- The headers that a mapping makes: what its entries show, put one after the other. -/
inductive Mapping.MakesHeaders (m : Mapping) : List (String × String) → Prop where
  | put {hs : List (String × String)} (shown : List.Forall₂ ShowsEntry m hs) :
      MakesHeaders m (hs.foldl (fun taken h => putHeader h.1 h.2 taken) [])

theorem requiredText_eq_ok_iff {t : ActionType} {config : Mapping} {key s : String} :
    requiredText t config key = .ok s ↔
      ∃ given, config.getD key = .text given ∧ Text.blank given = false ∧ Text.trim given = s := by
  rw [requiredText]
  cases config.getD key with
  | text given => cases h : Text.blank given <;> simp [h]
  | _ => simp

theorem optionalMapping_eq_ok_iff {t : ActionType} {config m : Mapping} {key : String} :
    optionalMapping t config key = .ok m ↔ config.Offers key m := by
  rw [optionalMapping]
  constructor
  · intro h
    cases hentry : config.getD key with
    | null =>
      rw [hentry] at h
      cases h
      exact .left hentry
    | mapping given =>
      rw [hentry] at h
      cases h
      exact .given hentry
    | _ =>
      rw [hentry] at h
      cases h
  · rintro (hentry | hentry)
    · rw [hentry]
    · rw [hentry]

theorem shownText_eq_ok_iff {v : Value} {s : String} : shownText v = .ok s ↔ v.shown = .ok s :=
  mapError_eq_ok_iff

theorem shownOr_eq_ok_iff {config : Mapping} {key other s : String} :
    shownOr config key other = .ok s ↔ config.Shows key other s :=
  shownText_eq_ok_iff

theorem shownIfTruthy_eq_ok_iff {v : Value} {user : Option String} :
    shownIfTruthy v = .ok user ↔ NamesUser v user := by
  rw [shownIfTruthy]
  constructor
  · intro h
    cases htruthy : v.truthy with
    | false =>
      rw [htruthy] at h
      cases h
      exact .none htruthy
    | true =>
      simp only [htruthy, if_true, bind_eq_ok_iff, shownText_eq_ok_iff, pure_eq_ok_iff] at h
      obtain ⟨s, hshown, rfl⟩ := h
      exact .some htruthy hshown
  · rintro (absent | ⟨present, shown⟩)
    · rw [absent]
      rfl
    · simp only [present, if_true, bind_eq_ok_iff, shownText_eq_ok_iff, pure_eq_ok_iff]
      exact ⟨_, shown, rfl⟩

/-! ## Headers -/

/-- A header that is put among others takes the place of the one of its name. -/
theorem mem_putHeader {name value : String} {taken : List (String × String)} {h : String × String}
    (hmem : h ∈ putHeader name value taken) : h = (name, value) ∨ h ∈ taken := by
  induction taken with
  | nil => exact .inl (List.mem_singleton.1 hmem)
  | cons first rest ih =>
    obtain ⟨n, v⟩ := first
    simp only [putHeader] at hmem
    split at hmem
    · rename_i heq
      subst heq
      rcases List.mem_cons.1 hmem with rfl | hrest
      · exact .inl rfl
      · exact .inr (List.mem_cons_of_mem _ hrest)
    · rcases List.mem_cons.1 hmem with rfl | hrest
      · exact .inr (List.mem_cons_self ..)
      · exact (ih hrest).imp_right (List.mem_cons_of_mem _)

theorem map_fst_putHeader (name value : String) (taken : List (String × String)) :
    (putHeader name value taken).map Prod.fst =
      if name ∈ taken.map Prod.fst then taken.map Prod.fst else taken.map Prod.fst ++ [name] := by
  induction taken with
  | nil => rfl
  | cons first rest ih =>
    obtain ⟨n, v⟩ := first
    by_cases heq : n = name
    · simp [putHeader, heq]
    · have hne : ¬ name = n := fun h => heq h.symm
      simp only [putHeader, heq, if_false, List.map_cons, ih, List.mem_cons, hne, false_or]
      split <;> rfl

/-- No two headers have one name. -/
theorem nodup_putHeader {name value : String} {taken : List (String × String)}
    (h : (taken.map Prod.fst).Nodup) : ((putHeader name value taken).map Prod.fst).Nodup := by
  rw [map_fst_putHeader]
  split
  · exact h
  · rename_i hnew
    refine List.nodup_append.2 ⟨h, List.pairwise_singleton _ name, ?_⟩
    rintro a ha b hb rfl
    exact hnew (List.mem_singleton.1 hb ▸ ha)

theorem nodup_foldl_putHeader (hs : List (String × String)) {taken : List (String × String)}
    (h : (taken.map Prod.fst).Nodup) :
    ((hs.foldl (fun taken h => putHeader h.1 h.2 taken) taken).map Prod.fst).Nodup := by
  induction hs generalizing taken with
  | nil => exact h
  | cons first rest ih => exact ih (nodup_putHeader h)

theorem mem_foldl_putHeader (hs : List (String × String)) {taken : List (String × String)}
    {h : String × String} (hmem : h ∈ hs.foldl (fun taken h => putHeader h.1 h.2 taken) taken) :
    h ∈ hs ∨ h ∈ taken := by
  induction hs generalizing taken with
  | nil => exact .inr hmem
  | cons first rest ih =>
    rcases ih hmem with hrest | hput
    · exact .inl (List.mem_cons_of_mem _ hrest)
    · rcases mem_putHeader hput with rfl | htaken
      · exact .inl (List.mem_cons_self ..)
      · exact .inr htaken

/-- Headers are collected exactly if all their names and values have texts. -/
theorem collectHeaders_eq_ok_iff {m : Mapping} {taken headers : List (String × String)} :
    collectHeaders taken m = .ok headers ↔
      ∃ hs, List.Forall₂ ShowsEntry m hs ∧
        hs.foldl (fun taken h => putHeader h.1 h.2 taken) taken = headers := by
  induction m generalizing taken with
  | nil => simp [collectHeaders]
  | cons e rest ih =>
    obtain ⟨k, v⟩ := e
    simp only [collectHeaders, bind_eq_ok_iff, shownText_eq_ok_iff, ih]
    constructor
    · rintro ⟨name, hname, value, hvalue, hs, hshown, rfl⟩
      exact ⟨(name, value) :: hs, .cons ⟨hname, hvalue⟩ hshown, rfl⟩
    · rintro ⟨_, _ | ⟨⟨hname, hvalue⟩, hshown⟩, rfl⟩
      exact ⟨_, hname, _, hvalue, _, hshown, rfl⟩

theorem Mapping.makesHeaders_iff {m : Mapping} {headers : List (String × String)} :
    m.MakesHeaders headers ↔ collectHeaders [] m = .ok headers := by
  rw [collectHeaders_eq_ok_iff]
  constructor
  · rintro ⟨shown⟩
    exact ⟨_, shown, rfl⟩
  · rintro ⟨hs, shown, rfl⟩
    exact ⟨shown⟩

/-- Headers have different names, and each is shown by an entry. -/
theorem Mapping.MakesHeaders.sound {m : Mapping} {headers : List (String × String)}
    (h : m.MakesHeaders headers) :
    (headers.map Prod.fst).Nodup ∧ ∀ h ∈ headers, ∃ e ∈ m, ShowsEntry e h := by
  obtain ⟨shown⟩ := h
  refine ⟨nodup_foldl_putHeader _ List.nodup_nil, fun h hmem => ?_⟩
  rcases mem_foldl_putHeader _ hmem with hmem | hnil
  · exact exists_mem_of_forall₂ shown h hmem
  · cases hnil

theorem isWebUrl_eq_true_iff {url : String} :
    isWebUrl url = true ↔
      "http://".toList <+: url.toList ∨ "https://".toList <+: url.toList := by
  rw [isWebUrl, Bool.or_eq_true, String.startsWith_string_iff, String.startsWith_string_iff]

/-! ## What a configuration asks for -/

/-- The call that an action of a kind makes with a filled configuration. -/
inductive ActionType.Makes (config : Mapping) (context : Value) (timeout : Number) :
    ActionType → Call → Prop where
  | email {given template : String} {subject : Option String} {facts values : Mapping}
      (recipient : config.getD "to" = .text given) (notBlank : Text.blank given = false)
      (source : (config.getD "templateId").orElse (config.getD "body") = .text template)
      (written : Text.blank template = false)
      (heading : DescribesSubject (config.getD "subject") subject)
      (event : context = .mapping facts) (changes : config.Offers "variables" values) :
      Makes config context timeout .sendEmail
        (.email (Text.trim given) subject template (facts.override values))
  | notification {title message type priority : String} {userId : Option String}
      (titled : config.Shows "title" "Workflow Notification" title)
      (told : config.Shows "message" "Workflow action executed" message)
      (sorted : config.Shows "type" "system_alert" type)
      (rated : config.Shows "priority" "medium" priority)
      (user : NamesUser (config.getD "userId") userId) :
      Makes config context timeout .createNotification
        (.notification title message type priority userId)
  | customer {given : String} {fields : Mapping} (id : config.getD "customerId" = .text given)
      (notBlank : Text.blank given = false) (updates : config.getD "updates" = .mapping fields)
      (ne_nil : fields ≠ []) :
      Makes config context timeout .updateCustomer (.customer (Text.trim given) fields)
  | webhook {given method : String} {offer : Mapping} {headers : List (String × String)}
      (url : config.getD "url" = .text given)
      (notBlank : Text.blank given = false) (web : isWebUrl (Text.trim given) = true)
      (named : config.Shows "method" "POST" method) (usual : Text.upper method ∈ webhookMethods)
      (offered : config.Offers "headers" offer) (made : offer.MakesHeaders headers) :
      Makes config context timeout .webhook
        (.http (Text.trim given) (Text.upper method) headers (config.getD "payload") timeout)

section

variable {config : Mapping} {context : Value} {timeout : Number} {c : Call}

theorem prepareEmail_eq_ok_iff :
    prepareEmail config context = .ok c ↔ ActionType.Makes config context timeout .sendEmail c := by
  simp only [prepareEmail, bind_eq_ok_iff, requiredText_eq_ok_iff]
  constructor
  · rintro ⟨_, ⟨given, recipient, notBlank, rfl⟩, h⟩
    cases source : (config.getD "templateId").orElse (config.getD "body") with
    | text template =>
      cases written : Text.blank template with
      | true =>
        simp only [source, written] at h
        cases h
      | false =>
        cases event : context with
        | mapping facts =>
          simp only [source, written, event, pure_bind, Bool.false_eq_true, if_false] at h
          cases heading : config.getD "subject" with
          | null =>
            simp only [heading, bind_eq_ok_iff, optionalMapping_eq_ok_iff, pure_eq_ok_iff] at h
            obtain ⟨values, changes, rfl⟩ := h
            exact .email recipient notBlank source written (heading ▸ .null) rfl changes
          | text s =>
            simp only [heading, bind_eq_ok_iff, optionalMapping_eq_ok_iff, pure_eq_ok_iff] at h
            obtain ⟨values, changes, rfl⟩ := h
            refine .email recipient notBlank source written ?_ rfl changes
            rw [heading]
            by_cases hs : s = ""
            · subst hs
              exact .empty
            · simpa [hs] using DescribesSubject.text hs
          | _ =>
            simp only [heading] at h
            cases h
        | _ =>
          simp only [source, written, event] at h
          cases heading : config.getD "subject" <;> simp only [heading] at h <;> cases h
    | _ =>
      simp only [source] at h
      cases h
  · intro h
    cases h with
    | @email given template subject facts values recipient notBlank source written heading event
        changes =>
      refine ⟨Text.trim given, ⟨given, recipient, notBlank, rfl⟩, ?_⟩
      simp only [source, written, event, pure_bind, Bool.false_eq_true, if_false]
      generalize config.getD "subject" = v at heading
      cases heading with
      | null =>
        simp only [optionalMapping_eq_ok_iff.2 changes]
        rfl
      | empty =>
        simp only [optionalMapping_eq_ok_iff.2 changes]
        rfl
      | text hs =>
        simp [optionalMapping_eq_ok_iff.2 changes, hs]

theorem prepareCustomer_eq_ok_iff :
    prepareCustomer config = .ok c ↔ ActionType.Makes config context timeout .updateCustomer c := by
  simp only [prepareCustomer, bind_eq_ok_iff, requiredText_eq_ok_iff, optionalMapping_eq_ok_iff]
  constructor
  · rintro ⟨_, ⟨given, hid, notBlank, rfl⟩, fields, updates, h⟩
    cases fields with
    | nil => cases h
    | cons e rest =>
      cases h
      cases updates with
      | given updates => exact .customer hid notBlank updates (List.cons_ne_nil e rest)
  · intro h
    cases h with
    | @customer given fields hid notBlank updates ne_nil =>
      refine ⟨Text.trim given, ⟨given, hid, notBlank, rfl⟩, fields, .given updates, ?_⟩
      cases fields with
      | nil => exact absurd rfl ne_nil
      | cons e rest => rfl

theorem prepareNotification_eq_ok_iff :
    prepareNotification config = .ok c ↔
      ActionType.Makes config context timeout .createNotification c := by
  simp only [prepareNotification, bind_eq_ok_iff, shownOr_eq_ok_iff, shownIfTruthy_eq_ok_iff,
    pure_eq_ok_iff]
  constructor
  · rintro ⟨title, titled, message, told, type, sorted, priority, rated, userId, user, rfl⟩
    exact .notification titled told sorted rated user
  · rintro (_ | ⟨titled, told, sorted, rated, user⟩)
    exact ⟨_, titled, _, told, _, sorted, _, rated, _, user, rfl⟩

theorem prepareWebhook_eq_ok_iff :
    prepareWebhook config timeout = .ok c ↔ ActionType.Makes config context timeout .webhook c := by
  simp only [prepareWebhook, bind_eq_ok_iff, requiredText_eq_ok_iff]
  constructor
  · rintro ⟨_, ⟨given, url, notBlank, rfl⟩, h⟩
    cases web : isWebUrl (Text.trim given) with
    | false =>
      simp only [web] at h
      cases h
    | true =>
      simp only [web, Bool.not_true, Bool.false_eq_true, if_false, bind_eq_ok_iff,
        shownOr_eq_ok_iff] at h
      obtain ⟨method, named, h⟩ := h
      cases usual : webhookMethods.contains (Text.upper method) with
      | false =>
        simp only [usual] at h
        cases h
      | true =>
        simp only [usual, Bool.not_true, Bool.false_eq_true, if_false, bind_eq_ok_iff,
          optionalMapping_eq_ok_iff, pure_eq_ok_iff] at h
        obtain ⟨offer, offered, headers, made, rfl⟩ := h
        exact .webhook url notBlank web named (List.contains_iff_mem.1 usual) offered
          (Mapping.makesHeaders_iff.2 made)
  · intro h
    cases h with
    | @webhook given method offer headers url notBlank web named usual offered made =>
      refine ⟨Text.trim given, ⟨given, url, notBlank, rfl⟩, ?_⟩
      simp only [web, Bool.not_true, Bool.false_eq_true, if_false, bind_eq_ok_iff,
        shownOr_eq_ok_iff]
      refine ⟨method, named, ?_⟩
      simp only [List.contains_iff_mem.2 usual, Bool.not_true, Bool.false_eq_true, if_false,
        bind_eq_ok_iff, optionalMapping_eq_ok_iff, pure_eq_ok_iff]
      exact ⟨offer, offered, headers, Mapping.makesHeaders_iff.1 made, rfl⟩

/-- The checks of a kind of action pass exactly if the configuration makes a call, which is the one
that they give. -/
theorem ActionType.call_eq_ok_iff {t : ActionType} :
    t.call config context timeout = .ok c ↔ t.Makes config context timeout c := by
  cases t with
  | sendEmail => exact prepareEmail_eq_ok_iff
  | createNotification => exact prepareNotification_eq_ok_iff
  | updateCustomer => exact prepareCustomer_eq_ok_iff
  | webhook => exact prepareWebhook_eq_ok_iff

end

/-! ## Calls that are well-formed -/

/-- A call as its collaborator may expect it, made for a filled configuration in an event. -/
inductive Call.Proper (config : Mapping) (context : Value) (timeout : Number) : Call → Prop where
  | email {recipient template : String} {subject : Option String} {facts changes : Mapping}
      (addressed : Text.Proper recipient) (written : Text.blank template = false)
      (headed : subject ≠ some "") (event : context = .mapping facts)
      (offered : config.Offers "variables" changes) :
      Proper config context timeout (.email recipient subject template (facts.override changes))
  | notification {title message type priority : String} {userId : Option String}
      (titled : config.Shows "title" "Workflow Notification" title)
      (told : config.Shows "message" "Workflow action executed" message)
      (sorted : config.Shows "type" "system_alert" type)
      (rated : config.Shows "priority" "medium" priority)
      (user : NamesUser (config.getD "userId") userId) :
      Proper config context timeout (.notification title message type priority userId)
  | customer {id : String} {fields : Mapping} (identified : Text.Proper id)
      (ne_nil : fields ≠ []) : Proper config context timeout (.customer id fields)
  | http {url method : String} {offer : Mapping} {headers : List (String × String)} {body : Value}
      (proper : Text.Proper url)
      (web : "http://".toList <+: url.toList ∨ "https://".toList <+: url.toList)
      (usual : method ∈ ["GET", "POST", "PUT", "PATCH", "DELETE"])
      (offered : config.Offers "headers" offer) (nodup : (headers.map Prod.fst).Nodup)
      (shown : ∀ h ∈ headers, ∃ e ∈ offer, ShowsEntry e h) :
      Proper config context timeout (.http url method headers body timeout)

theorem DescribesSubject.ne_empty {v : Value} {subject : Option String}
    (h : DescribesSubject v subject) : subject ≠ some "" := by
  cases h with
  | null => exact nofun
  | empty => exact nofun
  | text ne_empty =>
    intro heq
    exact ne_empty (Option.some.inj heq)

namespace ActionType.Makes

variable {config : Mapping} {context : Value} {timeout : Number} {t : ActionType} {c : Call}

/-- The call of an action goes to the collaborator of its kind. -/
theorem channel_eq (h : t.Makes config context timeout c) : c.channel = t.channel := by
  cases h <;> rfl

/-- The call of an action is well-formed. -/
theorem proper (h : t.Makes config context timeout c) : c.Proper config context timeout := by
  cases h with
  | email recipient notBlank source written heading event changes =>
    exact .email (Text.proper_trim notBlank) written heading.ne_empty event changes
  | notification titled told sorted rated user => exact .notification titled told sorted rated user
  | customer id notBlank updates ne_nil => exact .customer (Text.proper_trim notBlank) ne_nil
  | webhook url notBlank web named usual offered made =>
    exact .http (Text.proper_trim notBlank) (isWebUrl_eq_true_iff.1 web) usual offered
      made.sound.1 made.sound.2

end ActionType.Makes

/-- An action of any kind with any configuration wants a call of a collaborator: the kind is known,
and the configuration is a mapping that makes the call once its placeholders are filled. -/
structure Wants (context : Value) (timeout : Number) (type config : Value) (t : ActionType)
    (filled : Mapping) (c : Call) : Prop where
  type : type = .text t.name
  rendered : renderValue context config = .ok (.mapping filled)
  makes : t.Makes filled context timeout c

/-- What is filled to a mapping is a mapping, and its entries are filled. -/
theorem renderValue_eq_mapping_iff {context config : Value} {filled : Mapping} :
    renderValue context config = .ok (.mapping filled) ↔
      ∃ m, config = .mapping m ∧ renderEntries context m = .ok filled := by
  cases config with
  | mapping m =>
    simp only [renderValue, bind_eq_ok_iff, pure_eq_ok_iff]
    constructor
    · rintro ⟨_, h, heq⟩
      cases heq
      exact ⟨m, rfl, h⟩
    · rintro ⟨_, heq, h⟩
      cases heq
      exact ⟨filled, h, rfl⟩
  | _ => simp only [renderValue, bind_eq_ok_iff, pure_eq_ok_iff, reduceCtorEq, and_false,
      false_and, exists_false, Except.ok.injEq]

/-- The call that is prepared is the one that is wanted. -/
theorem prepare_eq_ok_iff {context : Value} {timeout : Number} {t : ActionType} {m : Mapping}
    {type : Value} {c : Call} :
    Action.prepare ⟨type, m⟩ t context timeout = .ok c ↔
      ∃ filled, renderValue context (.mapping m) = .ok (.mapping filled) ∧
        t.Makes filled context timeout c := by
  simp only [Action.prepare, bind_eq_ok_iff, mapError_eq_ok_iff, ActionType.call_eq_ok_iff,
    renderValue_eq_mapping_iff, Value.mapping.injEq, exists_eq_left']

theorem Wants.unique {context : Value} {timeout : Number} {type config : Value} {t t' : ActionType}
    {filled filled' : Mapping} {c c' : Call} (h : Wants context timeout type config t filled c)
    (h' : Wants context timeout type config t' filled' c') : c = c' := by
  have htype : ActionType.ofValue? type = some t := ActionType.ofValue?_eq_some_iff.2 h.type
  have htype' : ActionType.ofValue? type = some t' := ActionType.ofValue?_eq_some_iff.2 h'.type
  obtain rfl := Option.some.inj (htype.symm.trans htype')
  obtain rfl := Value.mapping.inj (Except.ok.inj (h.rendered.symm.trans h'.rendered))
  exact Except.ok.inj
    ((ActionType.call_eq_ok_iff.2 h.makes).symm.trans (ActionType.call_eq_ok_iff.2 h'.makes))

/-! ## The journal -/

namespace Engine

theorem journal_behaviourOf (s : Engine) (place : Place) (c : Call) :
    (s.behaviourOf place c).2.journal = s.journal := by
  cases c with
  | http url method headers body timeout =>
    cases hnetwork : s.network with
    | none => simp only [behaviourOf, Call.channel, hnetwork]
    | some answers =>
      simp only [behaviourOf, Call.channel, hnetwork, overNetwork]
      split <;> rfl
  | _ => rfl

/-- A call that is made is put down. -/
theorem journal_make (s : Engine) (place : Place) (t : ActionType) (start : Double)
    (wanted made : Call) :
    (s.make place t start wanted made).2.journal = s.journal ++ [made] :=
  congrArg (· ++ [made]) (s.journal_behaviourOf place made)

theorem journal_reply (s : Engine) (c : Call) (b : Behaviour) :
    (s.reply c b).2.journal = s.journal := by
  cases hraises : b.raises with
  | some f => simp only [reply, hraises]
  | none =>
    cases hreturns : b.returns with
    | some v => cases c <;> simp only [reply, hraises, hreturns]
    | none =>
      cases c with
      | email =>
        simp only [reply, hraises, hreturns, usualReply]
        split <;> rfl
      | _ => simp only [reply, hraises, hreturns, usualReply] <;> rfl

/-- No call is made while a reply is taken. -/
theorem journal_finish (s : Engine) (p : Pending) (expired : Bool) :
    (s.finish p expired).2.journal = s.journal := by
  cases expired with
  | true => rfl
  | false => exact s.endCall.journal_reply p.made p.behaviour

/-- An action that asks for no call leaves a span and nothing else; one that asks for a call makes
that call and no other. -/
theorem execute_calls (s : Engine) (a : Action) (context : Value) (place : Place) :
    ((∀ t wanted made, ¬ s.Asks a context t wanted made) ∧
      ∃ span, (s.execute a context place).2 = s.addSpan span) ∨
    ∃ t wanted made, s.Asks a context t wanted made ∧
      (s.execute a context place).2.journal = s.journal ++ [made] := by
  rcases s.begin_cases a context place with ⟨text, hnone, -, h⟩ | ⟨t, wanted, made, hasks, h⟩
  · refine .inl ⟨hnone, ?_⟩
    rw [execute, h]
    exact ⟨_, rfl⟩
  · refine .inr ⟨t, wanted, made, hasks, ?_⟩
    rw [execute, h]
    exact (journal_finish _ _ _).trans (s.journal_make place t s.ticks wanted made)

/-- What an action asks for is the call that it wants, as it is routed. -/
theorem asks_iff {s : Engine} {type context : Value} {m : Mapping} {t : ActionType}
    {wanted made : Call} :
    s.Asks ⟨type, m⟩ context t wanted made ↔
      (∃ filled, Wants context s.limits.webhookTimeout type (.mapping m) t filled wanted) ∧
        s.route wanted = .ok made := by
  constructor
  · rintro ⟨htype, hprepared, hroute⟩
    obtain ⟨filled, hrendered, hmakes⟩ := prepare_eq_ok_iff.1 hprepared
    exact ⟨⟨filled, htype, hrendered, hmakes⟩, hroute⟩
  · rintro ⟨⟨filled, htype, hrendered, hmakes⟩, hroute⟩
    exact ⟨htype, prepare_eq_ok_iff.2 ⟨filled, hrendered, hmakes⟩, hroute⟩

/-- An action of any kind with any configuration makes the call that it wants, if it wants one that
can be routed, or else leaves a span and nothing else. -/
theorem executeAny_journal (s : Engine) (type config context : Value) (place : Place) :
    ((∀ t filled c made, Wants context s.limits.webhookTimeout type config t filled c →
        s.route c ≠ .ok made) ∧
      ∃ span, (s.executeAny type config context place).2 = s.addSpan span) ∨
    ∃ t filled c made, Wants context s.limits.webhookTimeout type config t filled c ∧
      s.route c = .ok made ∧
      (s.executeAny type config context place).2.journal = s.journal ++ [made] := by
  by_cases hmapping : ∃ m, config = .mapping m
  · obtain ⟨m, rfl⟩ := hmapping
    rcases s.execute_calls ⟨type, m⟩ context place with
      ⟨hnone, hspan⟩ | ⟨t, c, made, hasks, hjournal⟩
    · refine .inl ⟨fun t filled c made hwants hroute => ?_, hspan⟩
      exact hnone t c made (asks_iff.2 ⟨⟨filled, hwants⟩, hroute⟩)
    · obtain ⟨⟨filled, hwants⟩, hroute⟩ := asks_iff.1 hasks
      exact .inr ⟨t, filled, c, made, hwants, hroute, hjournal⟩
  · have hno : ∀ m, config ≠ .mapping m := fun m h => hmapping ⟨m, h⟩
    refine .inl ⟨fun t filled c made hwants _ => ?_, ?_⟩
    · obtain ⟨m, heq, -⟩ := renderValue_eq_mapping_iff.1 hwants.rendered
      exact hno m heq
    · rcases s.executeAny_eq_of_no_mapping type context place hno with
        ⟨htype, hexecute⟩ | ⟨t, hexecute⟩
      · rw [hexecute]
        rcases s.execute_calls ⟨type, []⟩ context place with ⟨-, hspan⟩ | ⟨t, _, _, hasks, -⟩
        · exact hspan
        · rw [ActionType.ofValue?_eq_some_iff.2 hasks.type] at htype
          cases htype
      · rw [hexecute]
        exact ⟨_, rfl⟩

/-- Where customers are not kept by a service, calls are made as they are wanted. -/
theorem route_of_no_service {s : Engine} (h : s.customers = none) (c : Call) :
    s.route c = .ok c := by
  cases c <;> simp only [route, h]

/-- An action of any kind with any configuration makes the call that it wants, and no other.

At most one call is wanted: exactly if the kind is known and the filled configuration passes the
checks of the kind.  It goes to the collaborator of the kind and is well-formed.  It is put down in
the journal as it is routed, which is as it is wanted unless customers are kept by a service.  If no
call is wanted, nothing changes but that there is one more span. -/
theorem executeAny_calls (s : Engine) (type config context : Value) (place : Place) :
    ∃ wanted : Option Call,
      (s.executeAny type config context place).2.journal =
        s.journal ++ wanted.toList.filterMap (fun c => (s.route c).toOption) ∧
      (s.customers = none →
        (s.executeAny type config context place).2.journal = s.journal ++ wanted.toList) ∧
      (∀ c, wanted = some c ↔
        ∃ t filled, Wants context s.limits.webhookTimeout type config t filled c) ∧
      (∀ t filled c, Wants context s.limits.webhookTimeout type config t filled c →
        c.channel = t.channel ∧ c.Proper filled context s.limits.webhookTimeout) ∧
      (wanted = none → ∃ span, (s.executeAny type config context place).2 = s.addSpan span) := by
  have hproper : ∀ t filled c, Wants context s.limits.webhookTimeout type config t filled c →
      c.channel = t.channel ∧ c.Proper filled context s.limits.webhookTimeout :=
    fun t filled c h => ⟨h.makes.channel_eq, h.makes.proper⟩
  by_cases hwanted : ∃ c t filled, Wants context s.limits.webhookTimeout type config t filled c
  · obtain ⟨c, t, filled, hwants⟩ := hwanted
    have honly : ∀ c', some c = some c' ↔
        ∃ t filled, Wants context s.limits.webhookTimeout type config t filled c' := by
      intro c'
      constructor
      · rintro ⟨⟩
        exact ⟨t, filled, hwants⟩
      · rintro ⟨t', filled', hwants'⟩
        rw [hwants.unique hwants']
    have hjournal : (s.executeAny type config context place).2.journal =
        s.journal ++ [c].filterMap (fun c => (s.route c).toOption) := by
      rcases s.executeAny_journal type config context place with
        ⟨hnone, span, hspan⟩ | ⟨t', filled', c', made, hwants', hroute, hjournal⟩
      · rw [hspan]
        cases hroute : s.route c with
        | ok made => exact absurd hroute (hnone t filled c made hwants)
        | error e => simp [hroute, Except.toOption, addSpan]
      · obtain rfl := hwants.unique hwants'
        simp [hjournal, hroute, Except.toOption]
    refine ⟨some c, hjournal, fun hcustomers => ?_, honly, hproper, nofun⟩
    rw [hjournal]
    simp [route_of_no_service hcustomers, Except.toOption]
  · have hspan : ∃ span, (s.executeAny type config context place).2 = s.addSpan span := by
      rcases s.executeAny_journal type config context place with
        ⟨-, hspan⟩ | ⟨t, filled, c, _, hwants, -⟩
      · exact hspan
      · exact absurd ⟨c, t, filled, hwants⟩ hwanted
    have hjournal : (s.executeAny type config context place).2.journal = s.journal := by
      obtain ⟨span, hspan⟩ := hspan
      rw [hspan]
      rfl
    refine ⟨none, ?_, fun _ => ?_, fun c => ?_, hproper, fun _ => hspan⟩
    · simpa using hjournal
    · simpa using hjournal
    · constructor
      · intro h
        cases h
      · rintro ⟨t, filled, hwants⟩
        exact absurd ⟨c, t, filled, hwants⟩ hwanted

end Engine

end Automation
