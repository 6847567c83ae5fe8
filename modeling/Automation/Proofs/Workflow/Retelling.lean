import Automation.Proofs.Workflow.Update

/-!
# Workflows told again

A stored workflow can be told as a caller would tell it: its name, its description and its activity
as they are, the kind of event by its name, each condition and each action as a mapping
(`Definition.toDraft`).  What the rules made of a workflow they accept again and leave as it is
(`Definition.Valid.describes`), and a backend that keeps the workflow keeps what is read again
without a change (`Backend.stored_of_settled`).  So a workflow that is told and read again is the
same but for its identifier and its times, whether it is created anew or put in the place of itself
(`stored_told_again`).

Conditions and actions reach the rules as mappings or as what mappings describe.  Both ways lead to
the same (`readConditions_eq_checkConditions`, `checkActions_of_readActions`).
-/

namespace Automation

/-- A workflow as a caller tells it. -/
def Definition.toDraft (d : Definition) : Draft where
  name := .text d.name
  eventType := .text d.eventType.name
  actions := .list (d.actions.map Action.toValue)
  conditions := .list (d.conditions.map Condition.toValue)
  description := d.description.elim .null .text
  isActive := .bool d.isActive

/-- The patch that sets all fields to what a draft says. -/
def Draft.toPatch (p : Draft) : Patch where
  name := some p.name
  description := some p.description
  eventType := some p.eventType
  isActive := some p.isActive
  conditions := some p.conditions
  actions := some p.actions

/-! ## What is told describes the workflow -/

theorem Text.Proper.describesName {s : String} (h : Text.Proper s) : DescribesName (.text s) s :=
  checkName_eq_ok_iff.1 (checkName_of_proper h)

theorem describesPurpose_elim (description : Option String) :
    DescribesPurpose (description.elim .null .text) description := by
  cases description with
  | none => exact .null
  | some s => exact .text s

/-- The name of a kind of event is in upper case, without blanks around it. -/
theorem EventType.describes_name (t : EventType) : DescribesEventType (.text t.name) t := by
  refine .text ?_
  cases t <;> decide +kernel

theorem Condition.Valid.describes {c : Condition} (h : c.Valid) :
    DescribesCondition c.toValue c := by
  have hread : readCondition 0 c.toValue = checkCondition 0 c := by
    simp [readCondition, toValue, toMapping, ofMapping, Mapping.getD, Mapping.find?, Key.text?]
  rw [checkCondition_of_valid h] at hread
  exact readCondition_eq_ok_iff.1 hread

theorem Action.Valid.describes {a : Action} (h : a.Valid) : DescribesAction a.toValue a := by
  have hread : readAction 0 a.toValue = checkAction 0 a := by
    simp [readAction, toValue, toMapping, Mapping.getD, Mapping.find?, Key.text?]
  rw [checkAction_eq_ok_iff.2 ⟨rfl, h⟩] at hread
  exact readAction_eq_ok_iff.1 hread

theorem Definition.Valid.describes {d : Definition} (h : d.Valid) (id : String) (now : Timestamp) :
    d.toDraft.Describes id now { d with id, createdAt := now, updatedAt := now } where
  id := rfl
  name := h.name.describesName
  description := describesPurpose_elim d.description
  eventType := d.eventType.describes_name
  isActive := .bool d.isActive
  conditions := .items rfl (List.forall₂_map_left_iff.2
    (List.forall₂_same.2 fun c hc => (h.conditions c hc).describes))
  actions := .items rfl (by simpa using h.actions_ne_nil) (List.forall₂_map_left_iff.2
    (List.forall₂_same.2 fun a ha => (h.actions a ha).describes))
  createdAt := rfl
  updatedAt := rfl

/-- A patch that sets all fields leads from any workflow to what the draft describes, under the
identifier and the birth of that workflow. -/
theorem Draft.Describes.leads {p : Draft} {id : String} {now : Timestamp} {d : Definition}
    (h : p.Describes id now d) (before : Definition) :
    p.toPatch.Leads now before { d with id := before.id, createdAt := before.createdAt } where
  id := rfl
  name := h.name
  description := h.description
  eventType := h.eventType
  isActive := h.isActive
  conditions := h.conditions
  actions := h.actions
  createdAt := rfl
  updatedAt := h.updatedAt

/-! ## What a backend keeps of it -/

/-- A backend accepts a workflow that it keeps, under any identifier and with any times, and changes
only the form of the times. -/
theorem Backend.stored_of_settled {b : Backend} {d : Definition} (h : b.Settled d) (id : String)
    (created updated : Timestamp) :
    b.accepts { d with id, createdAt := created, updatedAt := updated } = true ∧
      b.stored { d with id, createdAt := created, updatedAt := updated } =
        { d with id, createdAt := b.keptTime created, updatedAt := b.keptTime updated } := by
  cases b with
  | memory => exact ⟨rfl, rfl⟩
  | database =>
    refine ⟨accepts_of_settled (b := .database) (d := d) h, ?_⟩
    -- Conditions and actions are flattened as those of the workflow itself, which stay.
    have hconditions := congrArg Definition.conditions h.flatten_eq
    have hactions := congrArg Definition.actions h.flatten_eq
    simp only [Definition.flatten] at hconditions hactions
    simp only [stored, keptTime, Definition.flatten, hconditions, hactions]

/-- The time at which a settled workflow was created is one that its backend keeps. -/
theorem Backend.keptTime_createdAt {b : Backend} {d : Definition} (h : b.Settled d) :
    b.keptTime d.createdAt = d.createdAt := by
  cases b with
  | memory => rfl
  | database => exact Timestamp.flatten_of_utc h.createdAt

/-! ## Mappings and what they describe -/

/-- A check of images is a check. -/
theorem checkEach_map {α β γ : Type} (check : Nat → β → Except RuleError γ) (f : α → β) :
    ∀ (i : Nat) (xs : List α),
      checkEach check i (xs.map f) = checkEach (fun i x => check i (f x)) i xs
  | _, [] => rfl
  | i, x :: xs => by
    simp only [List.map_cons, checkEach, checkEach_map check f (i + 1) xs]

/-- Conditions told as mappings are checked like the conditions that the mappings describe. -/
theorem readConditions_eq_checkConditions {v : Value} {ms : List Mapping}
    (h : v.items? = some (ms.map .mapping)) :
    readConditions v = checkConditions (ms.map Condition.ofMapping) := by
  have hnull : v ≠ .null := by
    rintro rfl
    cases h
  simp only [readConditions, h, checkConditions, checkEach_map]
  rfl

/-- The mapping of an accepted action describes just the action that is read. -/
theorem DescribesAction.ofMapping {m : Mapping} {a : Action} (h : DescribesAction (.mapping m) a) :
    Action.ofMapping m = .ok a := by
  cases h with
  | plain htype hconfig =>
    simp only [Action.ofMapping, htype, hconfig, Option.getD_some]
    rfl
  | @configured _ config t htype hconfig =>
    have hread : Mapping.ofOptional (.mapping config) = .ok config := by
      cases config <;> rfl
    simp only [Action.ofMapping, htype, hconfig, hread, Option.getD_some]
    rfl

/-- Accepted actions told as mappings are those that the mappings describe, and these pass the check
as they are. -/
theorem checkActions_of_readActions {v : Value} {ms : List Mapping} {as : List Action}
    (hv : v.items? = some (ms.map .mapping)) (h : readActions v = .ok as) :
    List.Forall₂ (fun m a => Action.ofMapping m = .ok a) ms as ∧ checkActions as = .ok as := by
  have hdescribed := readActions_eq_ok_iff.1 h
  refine ⟨?_, checkActions_of_valid hdescribed.valid.1 hdescribed.valid.2⟩
  obtain ⟨hitems, -, heach⟩ := hdescribed
  obtain rfl := Option.some.inj (hv.symm.trans hitems)
  exact (List.forall₂_map_left_iff.1 heach).imp fun _ _ hdescribes => hdescribes.ofMapping

/-! ## Stored workflows told again -/

/-- A workflow of a sound repository is found under its identifier. -/
theorem Repository.Sound.get?_eq {r : Repository} (hr : r.Sound) {d : Definition}
    (hd : d ∈ r.definitions) : r.get? d.id = some d := by
  obtain ⟨e, he⟩ : ∃ e, r.get? d.id = some e := by
    refine Option.ne_none_iff_exists'.1 fun hnone => ?_
    exact get?_eq_none_iff.1 hnone (List.mem_map_of_mem hd)
  obtain ⟨hmem, hid⟩ := mem_of_get? he
  rw [he, List.inj_on_of_nodup_map hr.nodup hmem hd hid]

/-- A workflow of a reachable store can be told and read again.

A creation under a new identifier gives the same workflow but for its identifier and its times, and
adds it to the others.  An update of the workflow itself, with all fields set to what is told, gives
the same workflow but for the time of its last change, and leaves the others.

Conditions that are told as mappings and accepted are accepted as the conditions that the mappings
describe too, with the same result, which is accepted as it is; and so are actions. -/
theorem stored_told_again {r : Repository} (hr : r.Reachable) {d : Definition}
    (hd : d ∈ r.definitions) (now : Timestamp) :
    let kept := r.backend.keptTime now
    let copy (id : String) : Definition := { d with id, createdAt := kept, updatedAt := kept }
    let renewed : Definition := { d with updatedAt := kept }
    (∀ id, r.get? id = none →
      Store.create r id now d.toDraft = .ok (copy id, r.insert (copy id))) ∧
    Store.update r d.id now d.toDraft.toPatch = .ok (renewed, r.set renewed) ∧
    (∀ (v : Value) (ms : List Mapping) (cs : List Condition),
      v.items? = some (ms.map .mapping) → readConditions v = .ok cs →
        checkConditions (ms.map Condition.ofMapping) = .ok cs ∧ checkConditions cs = .ok cs) ∧
    ∀ (v : Value) (ms : List Mapping) (as : List Action),
      v.items? = some (ms.map .mapping) → readActions v = .ok as →
        List.Forall₂ (fun m a => Action.ofMapping m = .ok a) ms as ∧ checkActions as = .ok as := by
  intro kept copy renewed
  have hsound := hr.sound
  have hvalid := hsound.valid d hd
  have hsettled := hsound.settled d hd
  refine ⟨fun id hnew => ?_, ?_, fun v ms cs hv h => ?_, fun v ms as hv h => ?_⟩
  · have hdescribes := hvalid.describes id now
    obtain ⟨haccepts, hstored⟩ := Backend.stored_of_settled hsettled id now now
    exact Store.create_eq_ok_iff.2 ⟨_, hdescribes, haccepts, hnew, hstored.symm, rfl⟩
  · have hleads := (hvalid.describes d.id now).leads d
    obtain ⟨haccepts, hstored⟩ := Backend.stored_of_settled hsettled d.id d.createdAt now
    rw [Backend.keptTime_createdAt hsettled] at hstored
    exact (Store.update_eq_ok_iff hsound).2
      ⟨d, _, hsound.get?_eq hd, hleads, haccepts, hstored.symm, rfl⟩
  · have hdescribed := readConditions_eq_ok_iff.1 h
    exact ⟨(readConditions_eq_checkConditions hv).symm.trans h,
      checkConditions_of_valid hdescribed.valid⟩
  · exact checkActions_of_readActions hv h

/-- A draft with blanks around its names, a tuple in its literal and an action without a
configuration. -/
def loyaltyDraft : Draft where
  name := .text " Loyalty "
  eventType := .text "payment_received"
  conditions := .list [.mapping
    [("value", .tuple [.text "gold", .null]), ("field", .text " customer.tier "),
      ("operator", .text "in")]]
  actions := .tuple [.mapping [("type", .text "create_notification")]]

/-- The database with the workflow of that draft. -/
def loyalty : Repository :=
  (Repository.empty .database).afterAll [.create "first" ⟨0, some 0⟩ loyaltyDraft]

/-- The workflow is created again and updated with itself, and both its conditions and its actions
are the same as mappings and as what these describe. -/
theorem stored_told_again_loyalty :
    ∃ (d copy renewed : Definition) (cs : List Condition) (as : List Action),
      loyalty.Reachable ∧ loyalty.definitions = [d] ∧ loyalty.get? "second" = none ∧
      Store.create loyalty "second" ⟨60, some 0⟩ d.toDraft = .ok (copy, loyalty.insert copy) ∧
      copy = { d with id := "second", createdAt := ⟨60, some 0⟩, updatedAt := ⟨60, some 0⟩ } ∧
      Store.update loyalty "first" ⟨60, some 0⟩ d.toDraft.toPatch =
        .ok (renewed, loyalty.set renewed) ∧
      renewed = { d with updatedAt := ⟨60, some 0⟩ } ∧
      readConditions loyaltyDraft.conditions = .ok cs ∧ checkConditions cs = .ok cs ∧
      readActions loyaltyDraft.actions = .ok as ∧ checkActions as = .ok as := by
  have hr : loyalty.Reachable := ⟨.database, _, rfl⟩
  obtain ⟨d, hdefinitions⟩ : ∃ d, loyalty.definitions = [d] := ⟨_, rfl⟩
  have hd : d ∈ loyalty.definitions := hdefinitions ▸ List.mem_singleton_self d
  have hid : d.id = "first" := by
    have hids : loyalty.definitions.map (·.id) = ["first"] := rfl
    rw [hdefinitions] at hids
    exact List.singleton_inj.1 hids
  obtain ⟨cs, hcs⟩ : ∃ cs, readConditions loyaltyDraft.conditions = .ok cs := ⟨_, rfl⟩
  obtain ⟨as, has⟩ : ∃ as, readActions loyaltyDraft.actions = .ok as := ⟨_, rfl⟩
  obtain ⟨hcreate, hupdate, hconditions, hactions⟩ := stored_told_again hr hd ⟨60, some 0⟩
  refine ⟨d, _, _, cs, as, hr, hdefinitions, rfl, hcreate "second" rfl, rfl, ?_, rfl, hcs, ?_,
    has, ?_⟩
  · rw [← hid]
    exact hupdate
  · exact (hconditions _ [_] cs rfl hcs).2
  · exact (hactions _ [_] as rfl has).2

end Automation
