import Automation.Proofs.Workflow.Normal

/-!
# Valid workflows

A workflow is *valid* if it is in the form that the rules give it: a proper name, conditions with a
proper path and a known operator, and at least one action, all of known kinds.  The other fields
are right by their types.

A draft that passes the rules describes the workflow (`Draft.check_eq_ok_iff`), which is valid
(`Draft.Describes.valid`).  Checking a valid workflow again changes nothing, so a patch that passes
leads to the workflow whose patched fields are those described and whose other fields are as before
(`Patch.apply_eq_ok_iff`), and that is valid again (`Patch.Leads.valid`).
-/

namespace Automation

/-- A condition as it is kept: a proper path and a known operator. -/
structure Condition.Valid (c : Condition) : Prop where
  field : ∃ path, c.field = .text path ∧ Text.Proper path
  operator : ∃ op : Operator, c.operator = .text op.name

/-- An action as it is kept: its kind is known. -/
def Action.Valid (a : Action) : Prop := ∃ t : ActionType, a.type = .text t.name

/-- A workflow as it is kept. -/
structure Definition.Valid (d : Definition) : Prop where
  name : Text.Proper d.name
  conditions : ∀ c ∈ d.conditions, c.Valid
  actions_ne_nil : d.actions ≠ []
  actions : ∀ a ∈ d.actions, a.Valid

/-! ## What is described is valid -/

theorem DescribesName.proper {v : Value} {name : String} (h : DescribesName v name) :
    Text.Proper name := by
  cases h with
  | text hb => exact Text.proper_trim hb

theorem DescribesCondition.valid {v : Value} {c : Condition} (h : DescribesCondition v c) :
    c.Valid := by
  cases h with
  | @mapping _ path op _ hb _ => exact ⟨⟨_, rfl, Text.proper_trim hb⟩, ⟨op, rfl⟩⟩

theorem DescribesAction.valid {v : Value} {a : Action} (h : DescribesAction v a) : a.Valid := by
  cases h with
  | @plain _ t _ _ => exact ⟨t, rfl⟩
  | @configured _ _ t _ _ => exact ⟨t, rfl⟩

theorem DescribesConditions.valid {v : Value} {cs : List Condition}
    (h : DescribesConditions v cs) : ∀ c ∈ cs, c.Valid := by
  cases h with
  | null => simp
  | items _ hall =>
    intro c hc
    obtain ⟨_, _, hdescribed⟩ := exists_mem_of_forall₂ hall c hc
    exact hdescribed.valid

theorem DescribesActions.valid {v : Value} {as : List Action} (h : DescribesActions v as) :
    as ≠ [] ∧ ∀ a ∈ as, a.Valid := by
  cases h with
  | items _ hne hall =>
    constructor
    · rintro rfl
      cases hall
      exact hne rfl
    · intro a ha
      obtain ⟨_, _, hdescribed⟩ := exists_mem_of_forall₂ hall a ha
      exact hdescribed.valid

/-! ## New workflows -/

/-- The workflow that a draft describes, with its identifier and time. -/
structure Draft.Describes (p : Draft) (id : String) (now : Timestamp) (d : Definition) : Prop where
  id : d.id = id
  name : DescribesName p.name d.name
  description : DescribesPurpose p.description d.description
  eventType : DescribesEventType p.eventType d.eventType
  isActive : DescribesActivity p.isActive d.isActive
  conditions : DescribesConditions p.conditions d.conditions
  actions : DescribesActions p.actions d.actions
  createdAt : d.createdAt = now
  updatedAt : d.updatedAt = now

theorem Draft.check_eq_ok_iff {p : Draft} {id : String} {now : Timestamp} {d : Definition} :
    p.check id now = .ok d ↔ p.Describes id now d := by
  simp only [Draft.check, bind_eq_ok_iff, pure_eq_ok_iff, checkName_eq_ok_iff,
    checkDescription_eq_ok_iff, checkEventType_eq_ok_iff, checkActivity_eq_ok_iff,
    readConditions_eq_ok_iff, readActions_eq_ok_iff]
  constructor
  · rintro ⟨_, hname, _, hdescription, _, hevent, _, hactive, _, hconditions, _, hactions, rfl⟩
    exact ⟨rfl, hname, hdescription, hevent, hactive, hconditions, hactions, rfl, rfl⟩
  · rintro ⟨hid, hname, hdescription, hevent, hactive, hconditions, hactions, hcreated, hupdated⟩
    refine ⟨_, hname, _, hdescription, _, hevent, _, hactive, _, hconditions, _, hactions, ?_⟩
    cases d
    cases hid
    cases hcreated
    cases hupdated
    rfl

theorem Draft.Describes.valid {p : Draft} {id : String} {now : Timestamp} {d : Definition}
    (h : p.Describes id now d) : d.Valid where
  name := h.name.proper
  conditions := h.conditions.valid
  actions_ne_nil := h.actions.valid.1
  actions := h.actions.valid.2

/-! ## Checking again changes nothing -/

theorem checkName_of_proper {s : String} (h : Text.Proper s) : checkName (.text s) = .ok s := by
  rw [checkName_eq_ok_iff]
  have hs : DescribesName (.text s) (Text.trim s) := .text h.blank_eq_false
  rwa [h.trim_eq] at hs

theorem checkCondition_of_valid {i : Nat} {c : Condition} (h : c.Valid) :
    checkCondition i c = .ok c := by
  obtain ⟨path, hfield, hproper⟩ := h.field
  obtain ⟨op, hop⟩ := h.operator
  refine checkCondition_eq_ok_iff.2 ⟨path, op, hfield, hproper.blank_eq_false, hop, ?_⟩
  rw [hproper.trim_eq, ← hfield, ← hop]

/-- A check that accepts every member as it is accepts the list as it is. -/
theorem checkEach_self {α : Type} {check : Nat → α → Except RuleError α} :
    ∀ {xs : List α} {i : Nat}, (∀ x ∈ xs, ∀ i, check i x = .ok x) → checkEach check i xs = .ok xs
  | [], _, _ => rfl
  | x :: xs, i, h => by
    rw [checkEach, h x List.mem_cons_self,
      checkEach_self fun y hy => h y (List.mem_cons_of_mem x hy)]
    rfl

theorem checkConditions_of_valid {cs : List Condition} (h : ∀ c ∈ cs, c.Valid) :
    checkConditions cs = .ok cs :=
  checkEach_self fun c hc _ => checkCondition_of_valid (h c hc)

theorem checkActions_of_valid {as : List Action} (hne : as ≠ []) (h : ∀ a ∈ as, a.Valid) :
    checkActions as = .ok as := by
  have heach : checkEach checkAction 0 as = .ok as :=
    checkEach_self fun a ha _ => checkAction_eq_ok_iff.2 ⟨rfl, h a ha⟩
  simp [checkActions, hne, heach]

/-! ## Changed workflows -/

/-- A field after a change: what the patch describes, or what it was. -/
def Changed {α : Type} (R : Value → α → Prop) (given : Option Value) (before after : α) : Prop :=
  match given with
  | some v => R v after
  | none => after = before

theorem checkChange_eq_ok_iff {α : Type} {R : Value → α → Prop} {given : Option Value}
    {read : Value → Except RuleError α} {current : Except RuleError α} {before after : α}
    (hread : ∀ v y, read v = .ok y ↔ R v y) (hcurrent : current = .ok before) :
    checkChange given read current = .ok after ↔ Changed R given before after := by
  cases given with
  | some v => exact hread v after
  | none =>
    rw [checkChange, hcurrent]
    constructor
    · intro h
      cases h
      rfl
    · rintro rfl
      rfl

/-- The workflow that a patch leads to at some time. -/
structure Patch.Leads (p : Patch) (now : Timestamp) (before after : Definition) : Prop where
  id : after.id = before.id
  name : Changed DescribesName p.name before.name after.name
  description : Changed DescribesPurpose p.description before.description after.description
  eventType : Changed DescribesEventType p.eventType before.eventType after.eventType
  isActive : Changed DescribesActivity p.isActive before.isActive after.isActive
  conditions : Changed DescribesConditions p.conditions before.conditions after.conditions
  actions : Changed DescribesActions p.actions before.actions after.actions
  createdAt : after.createdAt = before.createdAt
  updatedAt : after.updatedAt = now

theorem Patch.apply_eq_ok_iff {p : Patch} {now : Timestamp} {before after : Definition}
    (h : before.Valid) : p.apply before now = .ok after ↔ p.Leads now before after := by
  have hname : ∀ {name}, checkChange p.name checkName (checkName (.text before.name)) = .ok name ↔
      Changed DescribesName p.name before.name name :=
    checkChange_eq_ok_iff (fun _ _ => checkName_eq_ok_iff) (checkName_of_proper h.name)
  have hdescription : ∀ {s}, checkChange p.description checkDescription (.ok before.description)
      = .ok s ↔ Changed DescribesPurpose p.description before.description s :=
    checkChange_eq_ok_iff (fun _ _ => checkDescription_eq_ok_iff) rfl
  have hevent : ∀ {t}, checkChange p.eventType checkEventType (.ok before.eventType) = .ok t ↔
      Changed DescribesEventType p.eventType before.eventType t :=
    checkChange_eq_ok_iff (fun _ _ => checkEventType_eq_ok_iff) rfl
  have hactive : ∀ {b}, checkChange p.isActive checkActivity (.ok before.isActive) = .ok b ↔
      Changed DescribesActivity p.isActive before.isActive b :=
    checkChange_eq_ok_iff (fun _ _ => checkActivity_eq_ok_iff) rfl
  have hconditions : ∀ {cs},
      checkChange p.conditions readConditions (checkConditions before.conditions) = .ok cs ↔
        Changed DescribesConditions p.conditions before.conditions cs :=
    checkChange_eq_ok_iff (fun _ _ => readConditions_eq_ok_iff)
      (checkConditions_of_valid h.conditions)
  have hactions : ∀ {as},
      checkChange p.actions readActions (checkActions before.actions) = .ok as ↔
        Changed DescribesActions p.actions before.actions as :=
    checkChange_eq_ok_iff (fun _ _ => readActions_eq_ok_iff)
      (checkActions_of_valid h.actions_ne_nil h.actions)
  simp only [Patch.apply, bind_eq_ok_iff, pure_eq_ok_iff, hname, hdescription, hevent, hactive,
    hconditions, hactions]
  constructor
  · rintro ⟨_, h1, _, h2, _, h3, _, h4, _, h5, _, h6, rfl⟩
    exact ⟨rfl, h1, h2, h3, h4, h5, h6, rfl, rfl⟩
  · rintro ⟨hid, h1, h2, h3, h4, h5, h6, hcreated, rfl⟩
    exact ⟨_, h1, _, h2, _, h3, _, h4, _, h5, _, h6, by rw [← hid, ← hcreated]⟩

/-- What holds of a field as it is and of all that the given value describes holds of the field
after a change. -/
theorem Changed.elim {α : Type} {R : Value → α → Prop} {P : α → Prop} {given : Option Value}
    {before after : α} (h : Changed R given before after)
    (hread : ∀ {v y}, given = some v → R v y → P y) (hbefore : P before) : P after := by
  cases given with
  | some v => exact hread rfl h
  | none => exact h ▸ hbefore

theorem Patch.Leads.valid {p : Patch} {now : Timestamp} {before after : Definition}
    (h : p.Leads now before after) (hbefore : before.Valid) : after.Valid := by
  have hactions := h.actions.elim (P := fun as => as ≠ [] ∧ ∀ a ∈ as, a.Valid)
    (fun _ hdescribed => hdescribed.valid) ⟨hbefore.actions_ne_nil, hbefore.actions⟩
  exact {
    name := h.name.elim (fun _ hdescribed => hdescribed.proper) hbefore.name
    conditions := h.conditions.elim (P := fun cs => ∀ c ∈ cs, c.Valid)
      (fun _ hdescribed => hdescribed.valid) hbefore.conditions
    actions_ne_nil := hactions.1
    actions := hactions.2 }

end Automation
