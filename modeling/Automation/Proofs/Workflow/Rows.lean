import Automation.Proofs.Checks
import Automation.Workflow.Repository

/-!
# What rows are read as

A workflow goes through a row when the database keeps it.  Its conditions and actions become
mappings, a column of JSON gives these back in its own form, and they are read again.  What is read
is the workflow with its parts in that form (`WorkflowRow.written_apply`): each key that is written
is the one that is read, and no field is lost.  So the operations of a repository can be told
without rows, in one way for both backends (`Repository.add_eq_ok_iff`,
`Repository.replace?_eq_ok_iff`).

The fields of a filter are tried in memory one after the other, and in the database as the
conditions of a query on the columns of rows.  Both show the same workflows (`Repository.list_eq`).
-/

namespace Automation

/-! ## Columns -/

/-- A timestamp as the database keeps it: its clock, read as UTC. -/
def Timestamp.flatten (t : Timestamp) : Timestamp := ⟨t.clock, some 0⟩

@[simp] theorem Timestamp.toUtc_column (t : Timestamp) : t.column.toUtc = t.flatten := by
  simp [toUtc, utcClock, column, flatten]

theorem EventType.ofName?_name (t : EventType) : ofName? t.name = some t := by
  cases t <;> decide

@[simp] theorem Mapping.ofOptional_mapping (m : Mapping) : ofOptional (.mapping m) = .ok m := by
  cases m <;> rfl

/-- A column whose members can be kept gives them back in its own form. -/
theorem jsonColumn_map {α : Type} {storable : α → Bool} {mapping : α → Mapping}
    (h : ∀ x, entriesStorable (mapping x) = storable x) (xs : List α) :
    jsonColumn (xs.map mapping) =
      if xs.all storable then .ok (xs.map fun x => (mapping x).flatten) else .error formFault := by
  have hall : (xs.map mapping).all entriesStorable = xs.all storable := by
    rw [List.all_map]
    exact congrArg (fun p => xs.all p) (funext h)
  rw [jsonColumn, hall, List.map_map]
  rfl

theorem mapM_map_eq_ok {α β γ ε : Type} {f : α → β} {read : β → Except ε γ} {g : α → γ}
    (h : ∀ x, read (f x) = .ok (g x)) :
    ∀ xs : List α, (xs.map f).mapM read = .ok (xs.map g)
  | [] => rfl
  | x :: xs => by
    rw [List.map_cons, List.mapM_cons, h, mapM_map_eq_ok h xs]
    rfl

/-! ## Conditions and actions -/

namespace Condition

/-- Whether the database can keep a condition. -/
def isStorable (c : Condition) : Bool :=
  c.field.isStorable && c.operator.isStorable && c.value.isStorable

/-- A condition as the database keeps it. -/
def flatten (c : Condition) : Condition := ⟨c.field.flatten, c.operator.flatten, c.value.flatten⟩

theorem entriesStorable_toMapping (c : Condition) : entriesStorable c.toMapping = c.isStorable := by
  simp [toMapping, entriesStorable, Key.isStorable, isStorable, Bool.and_assoc]

theorem ofMapping_flatten (c : Condition) : ofMapping c.toMapping.flatten = c.flatten := rfl

end Condition

namespace Action

/-- Whether the database can keep an action. -/
def isStorable (a : Action) : Bool := a.type.isStorable && entriesStorable a.config

/-- An action as the database keeps it. -/
def flatten (a : Action) : Action := ⟨a.type.flatten, a.config.flatten⟩

theorem entriesStorable_toMapping (a : Action) : entriesStorable a.toMapping = a.isStorable := by
  simp [toMapping, entriesStorable, Key.isStorable, Value.isStorable, isStorable]

theorem ofMapping_flatten (a : Action) : ofMapping a.toMapping.flatten = .ok a.flatten := by
  have hconfig : (a.toMapping.flatten).getD "config" = .mapping a.config.flatten := rfl
  rw [ofMapping, hconfig, Mapping.ofOptional_mapping]
  rfl

end Action

/-! ## Workflows -/

/-- A workflow as the database keeps it. -/
def Definition.flatten (d : Definition) : Definition :=
  { d with
    conditions := d.conditions.map Condition.flatten
    actions := d.actions.map Action.flatten
    createdAt := d.createdAt.flatten
    updatedAt := d.updatedAt.flatten }

namespace Backend

/-- Whether a backend can keep a workflow. -/
def accepts (b : Backend) (d : Definition) : Bool :=
  match b with
  | .memory => true
  | .database => d.conditions.all Condition.isStorable && d.actions.all Action.isStorable

/-- A workflow as a backend keeps it. -/
def stored (b : Backend) (d : Definition) : Definition :=
  match b with
  | .memory => d
  | .database => d.flatten

end Backend

namespace WorkflowRow

/-- What is read of a row into which a workflow was written: the workflow in the form of the
database, with the identifier and the time of creation of the row. -/
theorem written_apply (row : WorkflowRow) (d : Definition) : (row.apply d).written =
    if Backend.database.accepts d then
      .ok { d.flatten with id := row.id, createdAt := row.createdAt.flatten }
    else .error formFault := by
  have hconditions := jsonColumn_map Condition.entriesStorable_toMapping d.conditions
  have hactions := jsonColumn_map Action.entriesStorable_toMapping d.actions
  have hread := mapM_map_eq_ok Action.ofMapping_flatten d.actions
  rw [written, refreshed, apply, hconditions, hactions, Backend.accepts]
  cases d.conditions.all Condition.isStorable with
  | false => rfl
  | true =>
    cases d.actions.all Action.isStorable with
    | false => rfl
    | true =>
      simp only [Bool.and_self, if_true, bind, Except.bind, pure, Except.pure, toDefinition,
        EventType.ofName?_name, hread, List.map_map, Timestamp.toUtc_column]
      rfl

/-- A workflow that is written into a row of its own is read in the form of the database. -/
theorem written_ofDefinition (d : Definition) : (ofDefinition d).written =
    if Backend.database.accepts d then .ok d.flatten else .error formFault :=
  written_apply _ d

end WorkflowRow

namespace Repository

/-! ## Repositories -/

/-- A workflow added at the end. -/
def insert (r : Repository) (d : Definition) : Repository :=
  { r with definitions := r.definitions ++ [d] }

/-- A workflow put in the place of the one with its identifier. -/
def set (r : Repository) (d : Definition) : Repository :=
  { r with definitions := r.definitions.map fun e => if e.id = d.id then d else e }

/-- A repository without the workflow of an identifier. -/
def erase (r : Repository) (id : String) : Repository :=
  { r with definitions := r.definitions.filter fun e => e.id != id }

variable {r r' : Repository} {d kept : Definition}

theorem id_stored (b : Backend) (d : Definition) : (b.stored d).id = d.id := by
  cases b <;> rfl

theorem mem_of_get? {id : String} (h : r.get? id = some d) : d ∈ r.definitions ∧ d.id = id := by
  rw [get?] at h
  exact ⟨List.mem_of_find?_eq_some h, by simpa using List.find?_some h⟩

/-- A workflow that a backend can keep is added under an identifier that is not taken. -/
theorem add_eq_ok_iff :
    r.add d = .ok (kept, r') ↔ r.backend.accepts d = true ∧ r.get? d.id = none ∧
      kept = r.backend.stored d ∧ r' = r.insert kept := by
  have hadd : r.add d = .ok (kept, r') ↔ r.backend.accepts d = true ∧ r.get? d.id = none ∧
      (r.backend.stored d, r.insert (r.backend.stored d)) = (kept, r') := by
    obtain ⟨b, definitions⟩ := r
    rw [add]
    cases b with
    | memory =>
      cases get? ⟨.memory, definitions⟩ d.id <;> simp [Backend.accepts, Backend.stored, insert]
    | database =>
      simp only [WorkflowRow.written_ofDefinition]
      cases haccepts : Backend.database.accepts d with
      | false => simp [bind, Except.bind]
      | true =>
        cases get? ⟨.database, definitions⟩ d.id <;>
          simp [bind, Except.bind, pure, Except.pure, Backend.stored, insert, throw, throwThe,
            MonadExceptOf.throw]
  rw [hadd, Prod.mk.injEq]
  constructor
  · rintro ⟨haccepts, hnew, rfl, rfl⟩
    exact ⟨haccepts, hnew, rfl, rfl⟩
  · rintro ⟨haccepts, hnew, rfl, rfl⟩
    exact ⟨haccepts, hnew, rfl, rfl⟩

theorem replacement_database (old d : Definition) : replacement .database old d =
    if Backend.database.accepts d then
      .ok { d.flatten with id := old.id, createdAt := old.createdAt.flatten }
    else .error formFault :=
  WorkflowRow.written_apply _ d

/-- A workflow that replaces one with its identifier and its time of creation is kept in the form of
the backend. -/
theorem replacement_eq_ok_iff {b : Backend} {old : Definition} (hid : d.id = old.id)
    (hcreated : d.createdAt = old.createdAt) :
    replacement b old d = .ok kept ↔ b.accepts d = true ∧ kept = b.stored d := by
  cases b with
  | memory => simp [replacement, Backend.accepts, Backend.stored, eq_comm]
  | database =>
    have hstored : ({ d.flatten with id := old.id, createdAt := old.createdAt.flatten } :
        Definition) = d.flatten := by
      rw [← hid, ← hcreated]
      rfl
    rw [replacement_database, hstored]
    cases Backend.database.accepts d <;> simp [Backend.stored, eq_comm]

/-- Whatever is kept in the place of a workflow has its identifier. -/
theorem id_of_replacement {b : Backend} {old : Definition} (hid : d.id = old.id)
    (h : replacement b old d = .ok kept) : kept.id = d.id := by
  cases b with
  | memory =>
    cases h
    rfl
  | database =>
    rw [replacement_database] at h
    split at h
    · cases h
      exact hid.symm
    · cases h

/-- A workflow that a backend can keep is put in the place of the one with its identifier. -/
theorem replace?_eq_ok_iff {old : Definition} (hfound : r.get? d.id = some old)
    (hcreated : d.createdAt = old.createdAt) :
    r.replace? d = some (.ok (kept, r')) ↔
      r.backend.accepts d = true ∧ kept = r.backend.stored d ∧ r' = r.set kept := by
  have hid : d.id = old.id := (mem_of_get? hfound).2.symm
  simp only [replace?, hfound, Option.map_some, Option.some.injEq, bind_eq_ok_iff, pure_eq_ok_iff,
    replacement_eq_ok_iff hid hcreated, Prod.mk.injEq]
  constructor
  · rintro ⟨_, ⟨haccepts, rfl⟩, rfl, rfl⟩
    exact ⟨haccepts, rfl, by rw [set, id_stored]⟩
  · rintro ⟨haccepts, rfl, rfl⟩
    exact ⟨_, ⟨haccepts, rfl⟩, rfl, by rw [set, id_stored]⟩

end Repository

/-! ## Listings -/

/-- Whether a listing shows a workflow. -/
def DefinitionFilter.admits (f : DefinitionFilter) (d : Definition) : Bool :=
  (match f.isActive with | some b => d.isActive == b | none => true)
    && (match f.eventType with | some name => d.eventType.name == name | none => true)

theorem DefinitionFilter.sift_eq (f : DefinitionFilter) (ds : List Definition) :
    f.sift ds = ds.filter f.admits := by
  have hadmits : f.admits = fun d =>
      (match f.isActive with | some b => d.isActive == b | none => true)
        && (match f.eventType with | some name => d.eventType.name == name | none => true) := rfl
  rw [sift, hadmits]
  cases f.isActive <;> cases f.eventType <;> simp [List.filter_filter, Bool.and_comm]

theorem DefinitionFilter.all_clauses (f : DefinitionFilter) (d : Definition) :
    (f.clauses.all fun clause => clause (WorkflowRow.ofDefinition d)) = f.admits d := by
  obtain ⟨isActive, eventType⟩ := f
  cases isActive <;> cases eventType <;>
    simp [clauses, admits, WorkflowRow.ofDefinition, WorkflowRow.apply]

namespace Repository

/-- Both backends show the workflows that a filter admits. -/
theorem list_eq (r : Repository) (f : DefinitionFilter) : r.list f = r.listing.filter f.admits := by
  rw [list]
  cases r.backend with
  | memory => exact f.sift_eq r.listing
  | database => exact List.filter_congr fun d _ => f.all_clauses d

end Repository

end Automation
