import Automation.Proofs.Workflow.Rows
import Automation.Proofs.Workflow.Validity

/-!
# What the database keeps

The database keeps JSON: values without bytes, tuples and integers of too many digits, whose
mappings have texts as keys.  A value that it accepts becomes such a value (`Value.isJson_flatten`),
and such a value is accepted and stays as it is (`Value.isStorable_of_isJson`,
`Value.flatten_of_isJson`).  So what the database has kept once it keeps again without a change.

A workflow is *settled* for a backend if the backend keeps it as it is.  What a backend keeps is
settled (`Backend.settled_stored`).  For the memory everything is settled.
-/

namespace Automation

/-! ## JSON values -/

mutual

/-- Whether a value is JSON that can be written. -/
def Value.isJson : Value → Bool
  | .bytes _ => false
  | .tuple _ => false
  | .int n => isShort n
  | .list xs => itemsJson xs
  | .mapping m => entriesJson m
  | _ => true

/-- Whether the items of a list are JSON. -/
def itemsJson : List Value → Bool
  | [] => true
  | v :: rest => v.isJson && itemsJson rest

/-- Whether the entries of a mapping are JSON. -/
def entriesJson : List (Key × Value) → Bool
  | [] => true
  | (k, v) :: rest => k.text?.isSome && v.isJson && entriesJson rest

end

theorem itemsJson_eq_true_iff {xs : List Value} :
    itemsJson xs = true ↔ ∀ v ∈ xs, v.isJson = true := by
  induction xs with
  | nil => simp [itemsJson]
  | cons v rest ih => simp [itemsJson, ih]

theorem entriesJson_eq_true_iff {m : Mapping} :
    entriesJson m = true ↔ ∀ e ∈ m, e.1.text?.isSome = true ∧ e.2.isJson = true := by
  induction m with
  | nil => simp [entriesJson]
  | cons e rest ih => simp [entriesJson, ih]

theorem isJson_of_find? {m : Mapping} {key : String} {v : Value} (h : entriesJson m = true)
    (hv : Mapping.find? key m = some v) : v.isJson = true := by
  induction m with
  | nil => cases hv
  | cons e rest ih =>
    obtain ⟨k, w⟩ := e
    simp only [entriesJson, Bool.and_eq_true] at h
    rw [Mapping.find?] at hv
    split at hv
    · cases hv
      exact h.1.2
    · exact ih h.2 hv

theorem isJson_getD {m : Mapping} (h : entriesJson m = true) (key : String) :
    (m.getD key).isJson = true := by
  rw [Mapping.getD]
  cases hv : Mapping.find? key m with
  | none => rfl
  | some v => exact isJson_of_find? h hv

/-! ## Flattening -/

@[simp] theorem Value.flatten_text (s : String) : (Value.text s).flatten = .text s := rfl

theorem entriesJson_insert {m : Mapping} {k : Key} {v : Value} (hm : entriesJson m = true)
    (hk : k.text?.isSome = true) (hv : v.isJson = true) : entriesJson (m.insert k v) = true := by
  induction m with
  | nil => simp [Mapping.insert, entriesJson, hk, hv]
  | cons e rest ih =>
    obtain ⟨k', v'⟩ := e
    simp only [entriesJson, Bool.and_eq_true] at hm
    rw [Mapping.insert]
    split
    · simp [entriesJson, hm.1.1, hm.2, hv]
    · simp [entriesJson, hm.1.1, hm.1.2, ih hm.2]

theorem entriesJson_override {m changes : Mapping} (hm : entriesJson m = true)
    (hc : entriesJson changes = true) : entriesJson (m.override changes) = true := by
  rw [Mapping.override]
  induction changes generalizing m with
  | nil => exact hm
  | cons e rest ih =>
    obtain ⟨k, v⟩ := e
    simp only [entriesJson, Bool.and_eq_true] at hc
    exact ih (entriesJson_insert hm hc.1.1 hc.1.2) hc.2

theorem entriesJson_joinEntries (m : Mapping) {flat : Mapping} (h : entriesJson flat = true) :
    entriesJson (joinEntries m flat) = true := by
  rw [joinEntries]
  split
  · exact h
  · exact entriesJson_override rfl h

/-- Where all keys are texts no two entries are joined. -/
theorem joinEntries_of_isJson {m : Mapping} (h : entriesJson m = true) (flat : Mapping) :
    joinEntries m flat = flat := by
  have hkeys : (m.all fun e => e.1.text?.isSome) = true :=
    List.all_eq_true.2 fun e he => (entriesJson_eq_true_iff.1 h e he).1
  simp [joinEntries, hkeys]

mutual

/-- What the database makes of a value that it accepts is JSON. -/
theorem Value.isJson_flatten : ∀ {v : Value}, v.isStorable = true → v.flatten.isJson = true
  | .null, _ | .bool _, _ | .float _, _ | .text _, _ => rfl
  | .int _, h => h
  | .bytes _, h => by cases h
  | .list xs, h => itemsJson_flatten h
  | .tuple xs, h => itemsJson_flatten h
  | .mapping m, h => entriesJson_joinEntries m (entriesJson_flatten h)

theorem itemsJson_flatten :
    ∀ {xs : List Value}, itemsStorable xs = true → itemsJson (flattenItems xs) = true
  | [], _ => rfl
  | v :: rest, h => by
    simp only [itemsStorable, Bool.and_eq_true] at h
    simp [flattenItems, itemsJson, Value.isJson_flatten h.1, itemsJson_flatten h.2]

theorem entriesJson_flatten :
    ∀ {m : List (Key × Value)}, entriesStorable m = true → entriesJson (flattenEntries m) = true
  | [], _ => rfl
  | (k, v) :: rest, h => by
    simp only [entriesStorable, Bool.and_eq_true] at h
    simp [flattenEntries, entriesJson, Key.flatten, Key.text?, Value.isJson_flatten h.1.2,
      entriesJson_flatten h.2]

end

mutual

/-- The database accepts JSON. -/
theorem Value.isStorable_of_isJson : ∀ {v : Value}, v.isJson = true → v.isStorable = true
  | .null, _ | .bool _, _ | .float _, _ | .text _, _ => rfl
  | .int _, h => h
  | .bytes _, h => by cases h
  | .tuple _, h => by cases h
  | .list xs, h => itemsStorable_of_isJson h
  | .mapping m, h => entriesStorable_of_isJson h

theorem itemsStorable_of_isJson :
    ∀ {xs : List Value}, itemsJson xs = true → itemsStorable xs = true
  | [], _ => rfl
  | v :: rest, h => by
    simp only [itemsJson, Bool.and_eq_true] at h
    simp [itemsStorable, Value.isStorable_of_isJson h.1, itemsStorable_of_isJson h.2]

theorem entriesStorable_of_isJson :
    ∀ {m : List (Key × Value)}, entriesJson m = true → entriesStorable m = true
  | [], _ => rfl
  | (k, v) :: rest, h => by
    simp only [entriesJson, Bool.and_eq_true] at h
    have hk : k.isStorable = true := by cases k <;> first | rfl | simp [Key.text?] at h
    simp [entriesStorable, hk, Value.isStorable_of_isJson h.1.2, entriesStorable_of_isJson h.2]

end

mutual

/-- JSON stays as it is. -/
theorem Value.flatten_of_isJson : ∀ {v : Value}, v.isJson = true → v.flatten = v
  | .null, _ | .bool _, _ | .int _, _ | .float _, _ | .text _, _ => rfl
  | .bytes _, h => by cases h
  | .tuple _, h => by cases h
  | .list xs, h => congrArg Value.list (flattenItems_of_isJson h)
  | .mapping m, h => by
    rw [Value.flatten, joinEntries_of_isJson h, flattenEntries_of_isJson h]

theorem flattenItems_of_isJson :
    ∀ {xs : List Value}, itemsJson xs = true → flattenItems xs = xs
  | [], _ => rfl
  | v :: rest, h => by
    simp only [itemsJson, Bool.and_eq_true] at h
    rw [flattenItems, Value.flatten_of_isJson h.1, flattenItems_of_isJson h.2]

theorem flattenEntries_of_isJson :
    ∀ {m : List (Key × Value)}, entriesJson m = true → flattenEntries m = m
  | [], _ => rfl
  | (k, v) :: rest, h => by
    simp only [entriesJson, Bool.and_eq_true] at h
    have hk : k.flatten = k := by cases k <;> first | rfl | simp [Key.text?] at h
    rw [flattenEntries, hk, Value.flatten_of_isJson h.1.2, flattenEntries_of_isJson h.2]

end

theorem Mapping.flatten_of_isJson {m : Mapping} (h : entriesJson m = true) : m.flatten = m := by
  rw [Mapping.flatten, joinEntries_of_isJson h, flattenEntries_of_isJson h]

/-! ## Workflows -/

/-- A condition made of JSON. -/
structure Condition.IsJson (c : Condition) : Prop where
  field : c.field.isJson = true
  operator : c.operator.isJson = true
  value : c.value.isJson = true

/-- An action made of JSON. -/
structure Action.IsJson (a : Action) : Prop where
  type : a.type.isJson = true
  config : entriesJson a.config = true

namespace Condition

theorem IsJson.isStorable {c : Condition} (h : c.IsJson) : c.isStorable = true := by
  simp [Condition.isStorable, Value.isStorable_of_isJson h.field,
    Value.isStorable_of_isJson h.operator, Value.isStorable_of_isJson h.value]

theorem IsJson.flatten_eq {c : Condition} (h : c.IsJson) : c.flatten = c := by
  rw [flatten, Value.flatten_of_isJson h.field, Value.flatten_of_isJson h.operator,
    Value.flatten_of_isJson h.value]

theorem isJson_flatten {c : Condition} (h : c.isStorable = true) : c.flatten.IsJson := by
  simp only [isStorable, Bool.and_eq_true] at h
  obtain ⟨⟨hfield, hoperator⟩, hvalue⟩ := h
  exact ⟨Value.isJson_flatten hfield, Value.isJson_flatten hoperator, Value.isJson_flatten hvalue⟩

end Condition

namespace Action

theorem IsJson.isStorable {a : Action} (h : a.IsJson) : a.isStorable = true := by
  simp [Action.isStorable, Value.isStorable_of_isJson h.type, entriesStorable_of_isJson h.config]

theorem IsJson.flatten_eq {a : Action} (h : a.IsJson) : a.flatten = a := by
  rw [flatten, Value.flatten_of_isJson h.type, Mapping.flatten_of_isJson h.config]

theorem isJson_flatten {a : Action} (h : a.isStorable = true) : a.flatten.IsJson := by
  simp only [isStorable, Bool.and_eq_true] at h
  exact ⟨Value.isJson_flatten h.1, entriesJson_joinEntries _ (entriesJson_flatten h.2)⟩

end Action

/-- A workflow that the database keeps as it is. -/
structure Definition.Flat (d : Definition) : Prop where
  conditions : ∀ c ∈ d.conditions, c.IsJson
  actions : ∀ a ∈ d.actions, a.IsJson
  createdAt : d.createdAt.offset = some 0
  updatedAt : d.updatedAt.offset = some 0

/-- A workflow that a backend keeps as it is. -/
def Backend.Settled (b : Backend) (d : Definition) : Prop :=
  match b with
  | .memory => True
  | .database => d.Flat

theorem Timestamp.flatten_of_utc {t : Timestamp} (h : t.offset = some 0) : t.flatten = t := by
  cases t
  cases h
  rfl

theorem Backend.accepts_of_settled {b : Backend} {d : Definition} (h : b.Settled d) :
    b.accepts d = true := by
  cases b with
  | memory => rfl
  | database =>
    simp only [Backend.accepts, Bool.and_eq_true, List.all_eq_true]
    exact ⟨fun c hc => (h.conditions c hc).isStorable, fun a ha => (h.actions a ha).isStorable⟩

theorem Definition.Flat.flatten_eq {d : Definition} (h : d.Flat) : d.flatten = d := by
  have hconditions : ∀ c ∈ d.conditions, c.flatten = c := fun c hc => (h.conditions c hc).flatten_eq
  have hactions : ∀ a ∈ d.actions, a.flatten = a := fun a ha => (h.actions a ha).flatten_eq
  rw [Definition.flatten, List.map_congr_left hconditions, List.map_congr_left hactions,
    Timestamp.flatten_of_utc h.createdAt, Timestamp.flatten_of_utc h.updatedAt]
  simp

theorem Definition.flat_flatten {d : Definition} (h : Backend.database.accepts d = true) :
    d.flatten.Flat := by
  simp only [Backend.accepts, Bool.and_eq_true, List.all_eq_true] at h
  refine ⟨?_, ?_, rfl, rfl⟩
  · intro c hc
    obtain ⟨given, hgiven, rfl⟩ := List.mem_map.1 hc
    exact Condition.isJson_flatten (h.1 given hgiven)
  · intro a ha
    obtain ⟨given, hgiven, rfl⟩ := List.mem_map.1 ha
    exact Action.isJson_flatten (h.2 given hgiven)

/-- What a backend makes of a workflow that it accepts, it keeps as it is. -/
theorem Backend.settled_stored {b : Backend} {d : Definition} (h : b.accepts d = true) :
    b.Settled (b.stored d) := by
  cases b with
  | memory => exact trivial
  | database => exact Definition.flat_flatten h

/-- A valid workflow is valid as a backend keeps it: the names in it are texts. -/
theorem Backend.valid_stored {b : Backend} {d : Definition} (h : d.Valid) :
    (b.stored d).Valid := by
  cases b with
  | memory => exact h
  | database =>
    refine ⟨h.name, ?_, ?_, ?_⟩
    · intro c hc
      obtain ⟨given, hgiven, rfl⟩ := List.mem_map.1 hc
      obtain ⟨path, hfield, hproper⟩ := (h.conditions given hgiven).field
      obtain ⟨op, hop⟩ := (h.conditions given hgiven).operator
      exact ⟨⟨path, by simp [Condition.flatten, hfield], hproper⟩, op,
        by simp [Condition.flatten, hop]⟩
    · simpa [Backend.stored, Definition.flatten] using h.actions_ne_nil
    · intro a ha
      obtain ⟨given, hgiven, rfl⟩ := List.mem_map.1 ha
      obtain ⟨t, ht⟩ := h.actions given hgiven
      exact ⟨t, by simp [Action.flatten, ht]⟩

end Automation
