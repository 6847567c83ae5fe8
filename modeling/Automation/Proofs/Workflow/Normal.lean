import Automation.Proofs.Checks
import Automation.Proofs.Text.Trim

/-!
# What a value describes

The rules for workflows read six fields out of values.  Each reading is told here by a relation: a
value describes a name, a description, a kind of event, an activity, conditions or actions.  What is
described is in normal form: names and paths lose the blanks around them, kinds and operators are
written by their own names, and a configuration that is left out is empty.

For each field, the check of the rules accepts a value exactly if the value describes something, and
gives what it describes (`checkName_eq_ok_iff` to `readActions_eq_ok_iff`).
-/

namespace Automation

/-! ## Names of the vocabulary -/

theorem Operator.ofName?_eq_some_iff {s : String} {op : Operator} :
    ofName? s = some op ↔ s = op.name := by
  constructor
  · intro h
    rw [ofName?] at h
    have hname := List.find?_some h
    exact (beq_iff_eq.1 hname).symm
  · rintro rfl
    exact ofName?_name op

theorem Operator.ofValue?_eq_some_iff {v : Value} {op : Operator} :
    ofValue? v = some op ↔ v = .text op.name := by
  cases v <;> simp [ofValue?, Value.text?, ofName?_eq_some_iff]

theorem ActionType.ofName?_eq_some_iff {s : String} {t : ActionType} :
    ofName? s = some t ↔ s = t.name := by
  constructor
  · intro h
    rw [ofName?] at h
    have hname := List.find?_some h
    exact (beq_iff_eq.1 hname).symm
  · rintro rfl
    exact ofName?_name t

theorem ActionType.ofValue?_eq_some_iff {v : Value} {t : ActionType} :
    ofValue? v = some t ↔ v = .text t.name := by
  cases v <;> simp [ofValue?, Value.text?, ofName?_eq_some_iff]

theorem EventType.name_injective {t u : EventType} (h : t.name = u.name) : t = u := by
  cases t <;> cases u <;> first | rfl | simp [name] at h

/-- Names of events are read in any case and with blanks around them. -/
theorem EventType.ofName?_eq_some_iff {s : String} {t : EventType} :
    ofName? s = some t ↔ t.name = Text.upper (Text.trim s) := by
  constructor
  · intro h
    simpa using List.find?_some h
  · intro h
    cases hf : ofName? s with
    | none => simpa [h] using List.find?_eq_none.1 hf t (mem_all t)
    | some u =>
      have hu : u.name = Text.upper (Text.trim s) := by simpa using List.find?_some hf
      rw [name_injective (hu.trans h.symm)]

/-! ## Descriptions of the fields -/

/-- A value that describes a name. -/
inductive DescribesName : Value → String → Prop where
  | text {s : String} (h : Text.blank s = false) : DescribesName (.text s) (Text.trim s)

/-- A value that says what a workflow is for. -/
inductive DescribesPurpose : Value → Option String → Prop where
  | null : DescribesPurpose .null none
  | text (s : String) : DescribesPurpose (.text s) (some s)

/-- A value that names a kind of event. -/
inductive DescribesEventType : Value → EventType → Prop where
  | text {s : String} {t : EventType} (h : t.name = Text.upper (Text.trim s)) :
      DescribesEventType (.text s) t

/-- A value that describes an activity. -/
inductive DescribesActivity : Value → Bool → Prop where
  | bool (b : Bool) : DescribesActivity (.bool b) b

/-- A value that describes a condition: a mapping with a path and the name of an operator. -/
inductive DescribesCondition : Value → Condition → Prop where
  | mapping {m : Mapping} {path : String} {op : Operator}
      (field : Mapping.find? "field" m = some (.text path)) (notBlank : Text.blank path = false)
      (operator : Mapping.find? "operator" m = some (.text op.name)) :
      DescribesCondition (.mapping m) ⟨.text (Text.trim path), .text op.name, m.getD "value"⟩

/-- A value that describes conditions: null for none, or a sequence. -/
inductive DescribesConditions : Value → List Condition → Prop where
  | null : DescribesConditions .null []
  | items {v : Value} {xs : List Value} {cs : List Condition} (items : v.items? = some xs)
      (each : List.Forall₂ DescribesCondition xs cs) : DescribesConditions v cs

/-- A value that describes an action: a mapping with the name of a kind, and with a mapping as its
configuration unless that is null or left out. -/
inductive DescribesAction : Value → Action → Prop where
  | plain {m : Mapping} {t : ActionType} (type : Mapping.find? "type" m = some (.text t.name))
      (left : m.getD "config" = .null) : DescribesAction (.mapping m) ⟨.text t.name, []⟩
  | configured {m config : Mapping} {t : ActionType}
      (type : Mapping.find? "type" m = some (.text t.name))
      (given : m.getD "config" = .mapping config) :
      DescribesAction (.mapping m) ⟨.text t.name, config⟩

/-- A value that describes actions: a sequence that is not empty. -/
inductive DescribesActions : Value → List Action → Prop where
  | items {v : Value} {xs : List Value} {as : List Action} (items : v.items? = some xs)
      (ne_nil : xs ≠ []) (each : List.Forall₂ DescribesAction xs as) : DescribesActions v as

/-! ## The checks tell what is described -/

theorem checkName_eq_ok_iff {v : Value} {name : String} :
    checkName v = .ok name ↔ DescribesName v name := by
  constructor
  · intro h
    cases v with
    | text s =>
      cases hb : Text.blank s with
      | true => simp [checkName, hb] at h
      | false =>
        simp only [checkName, hb] at h
        cases h
        exact .text hb
    | _ => cases h
  · rintro ⟨h⟩
    simp [checkName, h]

theorem checkDescription_eq_ok_iff {v : Value} {description : Option String} :
    checkDescription v = .ok description ↔ DescribesPurpose v description := by
  constructor
  · intro h
    cases v with
    | null =>
      cases h
      exact .null
    | text s =>
      cases h
      exact .text s
    | _ => cases h
  · rintro (_ | s)
    · rfl
    · rfl

theorem checkEventType_eq_ok_iff {v : Value} {t : EventType} :
    checkEventType v = .ok t ↔ DescribesEventType v t := by
  constructor
  · intro h
    cases v with
    | text s =>
      cases hs : EventType.ofName? s with
      | none => simp [checkEventType, Value.text?, hs] at h
      | some u =>
        simp only [checkEventType, Value.text?, Option.bind_some, hs] at h
        cases h
        exact .text (EventType.ofName?_eq_some_iff.1 hs)
    | _ => cases h
  · rintro ⟨h⟩
    simp [checkEventType, Value.text?, EventType.ofName?_eq_some_iff.2 h]

theorem checkActivity_eq_ok_iff {v : Value} {isActive : Bool} :
    checkActivity v = .ok isActive ↔ DescribesActivity v isActive := by
  constructor
  · intro h
    cases v with
    | bool b =>
      cases h
      exact .bool _
    | _ => cases h
  · rintro ⟨⟩
    rfl

/-- A condition passes the check if it has a path and the name of an operator. -/
theorem checkCondition_eq_ok_iff {i : Nat} {c d : Condition} :
    checkCondition i c = .ok d ↔
      ∃ (path : String) (op : Operator), c.field = .text path ∧ Text.blank path = false ∧
        c.operator = .text op.name ∧ d = ⟨.text (Text.trim path), .text op.name, c.value⟩ := by
  constructor
  · intro h
    cases hfield : c.field with
    | text path =>
      cases hb : Text.blank path with
      | true => simp [checkCondition, hfield, hb] at h
      | false =>
        cases hop : Operator.ofValue? c.operator with
        | none => simp [checkCondition, hfield, hb, hop] at h
        | some op =>
          simp only [checkCondition, hfield, hb, hop] at h
          cases h
          exact ⟨path, op, rfl, hb, Operator.ofValue?_eq_some_iff.1 hop, rfl⟩
    | _ => simp [checkCondition, hfield] at h
  · rintro ⟨path, op, hfield, hb, hop, rfl⟩
    simp [checkCondition, hfield, hb, Operator.ofValue?_eq_some_iff.2 hop]

/-- A default that is no name does not count as one. -/
theorem getD_eq_text_iff {found : Option Value} {s : String} (hs : s ≠ "") :
    found.getD (.text "") = .text s ↔ found = some (.text s) := by
  cases found with
  | none => simp [hs.symm]
  | some v => simp

theorem readCondition_eq_ok_iff {i : Nat} {v : Value} {c : Condition} :
    readCondition i v = .ok c ↔ DescribesCondition v c := by
  constructor
  · intro h
    cases v with
    | mapping m =>
      obtain ⟨path, op, hfield, hb, hop, rfl⟩ := checkCondition_eq_ok_iff.1 h
      have hne : path ≠ "" := by
        rintro rfl
        cases hb
      have hname : op.name ≠ "" := by cases op <;> decide
      exact .mapping ((getD_eq_text_iff hne).1 hfield) hb ((getD_eq_text_iff hname).1 hop)
    | _ => cases h
  · rintro ⟨hfield, hb, hop⟩
    exact checkCondition_eq_ok_iff.2
      ⟨_, _, by simp [Condition.ofMapping, hfield], hb, by simp [Condition.ofMapping, hop], rfl⟩

theorem readConditions_eq_ok_iff {v : Value} {cs : List Condition} :
    readConditions v = .ok cs ↔ DescribesConditions v cs := by
  have each : ∀ {xs : List Value} {cs : List Condition},
      checkEach readCondition 0 xs = .ok cs ↔ List.Forall₂ DescribesCondition xs cs :=
    checkEach_eq_ok_iff fun i v c => readCondition_eq_ok_iff (i := i) (v := v) (c := c)
  constructor
  · intro h
    by_cases hnull : v = .null
    · subst hnull
      cases h
      exact .null
    · cases hxs : v.items? with
      | none => simp [readConditions, hxs] at h
      | some xs =>
        simp only [readConditions, hxs] at h
        exact .items hxs (each.1 h)
  · rintro (_ | ⟨hxs, hall⟩)
    · rfl
    · have hnull : v ≠ .null := by
        rintro rfl
        cases hxs
      simp [readConditions, hxs, each.2 hall]

/-- An action passes the check if it has the name of a kind. -/
theorem checkAction_eq_ok_iff {i : Nat} {a b : Action} :
    checkAction i a = .ok b ↔ b = a ∧ ∃ t : ActionType, a.type = .text t.name := by
  constructor
  · intro h
    cases ht : ActionType.ofValue? a.type with
    | none => simp [checkAction, ht] at h
    | some t =>
      have hname := ActionType.ofValue?_eq_some_iff.1 ht
      simp only [checkAction, ht] at h
      cases h
      exact ⟨by rw [← hname], t, hname⟩
  · rintro ⟨rfl, t, ht⟩
    simp [checkAction, ActionType.ofValue?_eq_some_iff.2 ht, ← ht]

theorem readAction_eq_ok_iff {i : Nat} {v : Value} {a : Action} :
    readAction i v = .ok a ↔ DescribesAction v a := by
  have hname : ∀ t : ActionType, t.name ≠ "" := by
    intro t
    cases t <;> decide
  constructor
  · intro h
    cases v with
    | mapping m =>
      cases hconfig : Mapping.getD m "config" with
      | null =>
        simp only [readAction, hconfig] at h
        obtain ⟨rfl, t, ht⟩ := checkAction_eq_ok_iff.1 h
        have htype := (getD_eq_text_iff (hname t)).1 ht
        simp only [htype, Option.getD_some]
        exact .plain htype hconfig
      | mapping config =>
        simp only [readAction, hconfig] at h
        obtain ⟨rfl, t, ht⟩ := checkAction_eq_ok_iff.1 h
        have htype := (getD_eq_text_iff (hname t)).1 ht
        simp only [htype, Option.getD_some]
        exact .configured htype hconfig
      | _ => simp [readAction, hconfig] at h
    | _ => cases h
  · rintro (⟨htype, hconfig⟩ | ⟨htype, hconfig⟩)
    · simp only [readAction, htype, hconfig, Option.getD_some]
      exact checkAction_eq_ok_iff.2 ⟨rfl, _, rfl⟩
    · simp only [readAction, htype, hconfig, Option.getD_some]
      exact checkAction_eq_ok_iff.2 ⟨rfl, _, rfl⟩

theorem readActions_eq_ok_iff {v : Value} {as : List Action} :
    readActions v = .ok as ↔ DescribesActions v as := by
  have each : ∀ {xs : List Value} {as : List Action},
      checkEach readAction 0 xs = .ok as ↔ List.Forall₂ DescribesAction xs as :=
    checkEach_eq_ok_iff fun i v a => readAction_eq_ok_iff (i := i) (v := v) (a := a)
  constructor
  · intro h
    cases hxs : v.items? with
    | none => simp [readActions, hxs] at h
    | some xs =>
      cases xs with
      | nil => simp [readActions, hxs] at h
      | cons x xs =>
        simp only [readActions, hxs] at h
        exact .items hxs (List.cons_ne_nil x xs) (each.1 h)
  · rintro ⟨hxs, hne, hall⟩
    obtain ⟨x, xs, rfl⟩ := List.exists_cons_of_ne_nil hne
    simp [readActions, hxs, each.2 hall]

end Automation
