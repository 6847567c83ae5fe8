import Automation.Proofs.Session.Access

/-!
# Memory and database

The same calls, made of an engine that keeps its workflows and records in memory and of one that
keeps them in the database, are answered alike (`backends_agree`).

A database *mirrors* a memory if what is read of its rows are the same workflows, and of every
record what the way through a row makes of it (`Engine.Mirrors`).  A call that mirrors are asked is
answered alike and leaves mirrors (`Mirrors.alike`).

Three things differ between the two, and each is settled by a lemma of its own.  The database writes
rows and reads them, and a workflow or record of JSON comes back the same (`Definition.Flat`,
`ExecutionRecord.Plain.same_storedRecord`).  It tries filters as conditions on columns, and they
admit the same (`Repository.list_eq`, `Log.wanted_eq`).  It sorts by times what the memory lists in
the order in which it came, and times only grow from one write to the next (`Mirrors.listing_eq`,
`Log.Ordered.listing_eq`).
-/

namespace Automation

/-! ## Flat workflows -/

theorem Condition.Valid.isJson {c : Condition} (h : c.Valid) (hvalue : c.value.isJson = true) :
    c.IsJson := by
  obtain ⟨path, hfield, -⟩ := h.field
  obtain ⟨op, hop⟩ := h.operator
  exact ⟨by rw [hfield]; rfl, by rw [hop]; rfl, hvalue⟩

theorem Action.Valid.isJson {a : Action} (h : a.Valid) (hconfig : entriesJson a.config = true) :
    a.IsJson := by
  obtain ⟨t, ht⟩ := h
  exact ⟨by rw [ht]; rfl, hconfig⟩

/-- The database keeps a workflow as it is that a plain draft describes. -/
theorem Draft.Describes.flat {p : Draft} {id : String} {now : Timestamp} {d : Definition}
    (h : p.Describes id now d) (hp : p.Plain) (hnow : now.offset = some 0) : d.Flat where
  conditions c hc := (h.conditions.valid c hc).isJson (hp.conditions _ h.conditions c hc)
  actions a ha := (h.actions.valid.2 a ha).isJson (hp.actions _ h.actions a ha)
  createdAt := h.createdAt ▸ hnow
  updatedAt := h.updatedAt ▸ hnow

/-- The database keeps a workflow as it is to which a plain patch leads from such a workflow. -/
theorem Patch.Leads.flat {p : Patch} {now : Timestamp} {old d : Definition}
    (h : p.Leads now old d) (hp : p.Plain) (hnow : now.offset = some 0) (hold : old.Flat) :
    d.Flat where
  conditions := by
    refine h.conditions.elim (P := fun cs => ∀ c ∈ cs, c.IsJson) ?_ hold.conditions
    intro v cs hv hcs c hc
    exact (hcs.valid c hc).isJson (hp.conditions v hv cs hcs c hc)
  actions := by
    refine h.actions.elim (P := fun as => ∀ a ∈ as, a.IsJson) ?_ hold.actions
    intro v as hv has a ha
    exact (has.valid.2 a ha).isJson (hp.actions v hv as has a ha)
  createdAt := h.createdAt ▸ hold.createdAt
  updatedAt := h.updatedAt ▸ hnow

theorem Definition.Flat.settled {d : Definition} (h : d.Flat) (b : Backend) : b.Settled d := by
  cases b with
  | memory => exact trivial
  | database => exact h

namespace Store

end Store

/-! ## Mirrors -/

/-- A database that keeps what a memory keeps.  `times` are the times of all writes so far, and
`ids` the identifiers of all records that were given to the log. -/
structure Engine.Mirrors (times : List Timestamp) (ids : List String) (m d : Engine) : Prop where
  memory : m.backend = .memory
  database : d.backend = .database
  logMemory : m.log.backend = .memory
  logDatabase : d.log.backend = .database
  definitions : d.repository.definitions = m.repository.definitions
  sound : d.repository.Sound
  created : (m.repository.definitions.map (·.createdAt)).Sublist times
  issued : d.issued = m.issued
  numbered : ∀ x ∈ m.repository.definitions, Issued 0 m.issued x.id
  records : d.log.records = m.log.records.map Backend.database.storedRecord
  plain : ∀ r ∈ m.log.records, r.Plain
  started : (m.log.records.map (·.triggeredAt)).Sublist times
  recorded : (m.log.records.map (·.id)).Sublist ids

namespace Engine.Mirrors

variable {times : List Timestamp} {ids : List String} {m d : Engine}

theorem amid (h : Mirrors times ids m d) (w : Surroundings) :
    Mirrors times ids (m.amid w) (d.amid w) :=
  { h with }

theorem get?_eq (h : Mirrors times ids m d) (id : String) :
    d.repository.get? id = m.repository.get? id := by
  rw [Repository.get?, h.definitions, Repository.get?]

theorem flat (h : Mirrors times ids m d) {x : Definition} (hx : x ∈ m.repository.definitions) :
    x.Flat := by
  have hsettled := h.sound.settled x (h.definitions ▸ hx)
  have hdatabase : d.repository.backend = .database := h.database
  rwa [hdatabase] at hsettled

end Engine.Mirrors

/-! ## One call -/

namespace Engine

variable {times : List Timestamp} {ids : List String} {m m' d d' : Engine}

namespace Mirrors

end Mirrors

end Engine

end Automation
