import Automation.Proofs.Concurrent.System

/-!
# The account of a system

The steps of triggers and callers that are made side by side are accounted for
(`System.Accounted`): every errand is that of a trigger and a place, no two have the same, and each
has begun the first of the actions of its workflow and settled them.  What the errands have come to
that are done is what was recorded, and what the log has gained.

Every step keeps the account (`System.Accounted.move`), since a step of one errand is no step of
another one, and neither a caller nor the surroundings touch an errand or the log.
-/

namespace Automation

/-! ## The tasks of triggers -/

namespace Engine

theorem tasksOf_eq (ms : List (Except TriggerError Match)) :
    tasksOf ms = (ms.mapIdx tasksAt).flatten := rfl

theorem tasksOf_concat (ms : List (Except TriggerError Match)) (x : Except TriggerError Match) :
    tasksOf (ms ++ [x]) = tasksOf ms ++ tasksAt ms.length x := by
  simp [tasksOf_eq, List.mapIdx_concat]

theorem mem_tasksAt {n : Nat} {x : Except TriggerError Match} {t : Task} (h : t ∈ tasksAt n x) :
    t.ticket = t ∧ t.trigger = n ∧ ∃ m, x = .ok m ∧ t.place < m.definitions.length := by
  cases x with
  | error e => cases h
  | ok m =>
    obtain ⟨hticket, htrigger, -, -⟩ := Match.mem_tasks h
    have hplace : t.place ∈ (m.tasks n).map (·.place) := List.mem_map_of_mem h
    rw [m.map_place_tasks] at hplace
    exact ⟨hticket, htrigger, m, rfl, List.mem_range.1 hplace⟩

/-- A task is fresh, and one of a trigger that found its workflows. -/
theorem mem_tasksOf {ms : List (Except TriggerError Match)} {t : Task} (h : t ∈ tasksOf ms) :
    t.ticket = t ∧ ∃ m, ms[t.trigger]? = some (.ok m) ∧ t.place < m.definitions.length := by
  rw [tasksOf_eq] at h
  obtain ⟨ts, hts, ht⟩ := List.mem_flatten.1 h
  obtain ⟨n, hn, rfl⟩ := List.mem_mapIdx.1 hts
  obtain ⟨hticket, rfl, m, hm, hplace⟩ := mem_tasksAt ht
  exact ⟨hticket, m, by rw [List.getElem?_eq_getElem hn, hm], hplace⟩

theorem trigger_lt_of_mem_tasksOf {ms : List (Except TriggerError Match)} {t : Task}
    (h : t ∈ tasksOf ms) : t.trigger < ms.length := by
  obtain ⟨-, m, hm, -⟩ := mem_tasksOf h
  exact (List.getElem?_eq_some_iff.1 hm).1

/-- The tasks of one trigger among those of all. -/
theorem filter_tasksOf (ms : List (Except TriggerError Match)) {n : Nat} (hn : n < ms.length) :
    ((tasksOf ms).filter fun t => t.trigger == n) = tasksAt n ms[n] := by
  induction ms using List.reverseRecOn with
  | nil => cases hn
  | append_singleton ms x ih =>
    have hlast : ∀ t ∈ tasksAt ms.length x, t.trigger = ms.length := fun t ht =>
      (mem_tasksAt ht).2.1
    rw [tasksOf_concat, List.filter_append]
    rcases Nat.lt_or_ge n ms.length with hlt | hge
    · have hnone : ((tasksAt ms.length x).filter fun t => t.trigger == n) = [] := by
        rw [List.filter_eq_nil_iff]
        intro t ht
        simpa [hlast t ht] using hlt.ne'
      rw [ih hlt, hnone, List.append_nil, List.getElem_append_left hlt]
    · obtain rfl : n = ms.length := by
        simp only [List.length_append, List.length_singleton] at hn
        omega
      have hnone : ((tasksOf ms).filter fun t => t.trigger == ms.length) = [] := by
        rw [List.filter_eq_nil_iff]
        intro t ht
        simpa using (trigger_lt_of_mem_tasksOf ht).ne
      have hall : ((tasksAt ms.length x).filter fun t => t.trigger == ms.length) =
          tasksAt ms.length x := by
        rw [List.filter_eq_self]
        intro t ht
        simp [hlast t ht]
      rw [hnone, hall, List.nil_append, List.getElem_concat_length rfl]

/-- No two tasks have the same trigger and the same place. -/
theorem nodup_tasksOf (ms : List (Except TriggerError Match)) :
    ((tasksOf ms).map fun t => (t.trigger, t.place)).Nodup := by
  induction ms using List.reverseRecOn with
  | nil => simp [tasksOf_eq]
  | append_singleton ms x ih =>
    rw [tasksOf_concat, List.map_append]
    refine ih.append (List.Nodup.of_map Prod.snd ?_) ?_
    · rw [List.map_map]
      cases x with
      | error e => exact List.nodup_nil
      | ok m => exact (m.map_place_tasks ms.length).symm ▸ List.nodup_range
    · intro seat hold hnew
      obtain ⟨t, ht, rfl⟩ := List.mem_map.1 hold
      obtain ⟨u, hu, hsame⟩ := List.mem_map.1 hnew
      have hlt := trigger_lt_of_mem_tasksOf ht
      have hlast := (mem_tasksAt hu).2.1
      have htrigger := (Prod.mk.inj hsame).1
      omega

/-- Triggers of which each finds one workflow have as many tasks as there are triggers. -/
theorem length_tasksOf {ms : List (Except TriggerError Match)}
    (h : ∀ x ∈ ms, ∃ m d, x = .ok m ∧ m.definitions = [d]) :
    (tasksOf ms).length = ms.length := by
  induction ms using List.reverseRecOn with
  | nil => rfl
  | append_singleton ms x ih =>
    obtain ⟨m, d, rfl, hone⟩ := h x (by simp)
    rw [tasksOf_concat, List.length_append, ih fun y hy => h y (List.mem_append_left _ hy)]
    simp [tasksAt, Match.tasks, hone]

end Engine

/-! ## What is found -/

namespace System

/-- What a step finds. -/
def foundBy (s : System) : Move → List (Except TriggerError Match)
  | .trigger v context => [s.engine.lookUp v context]
  | _ => []

theorem found_move (s : System) (m : Move) : (s.move m).found = s.found ++ s.foundBy m := by
  cases m with
  | trigger v context => simp [move, found, foundBy, Event.found?]
  | errand i expired =>
    rcases s.move_errand_cases i expired with hsame | ⟨e, e', event, s', -, hadvances, hmove⟩
    · simp [hsame, foundBy]
    · simp [hmove, found, foundBy, hadvances.found]
  | caller i => simp [move, found, foundBy]
  | pass w => simp [move, found, foundBy]

theorem found_prefix_run (s : System) (moves : List Move) : s.found <+: (s.run moves).found := by
  induction moves generalizing s with
  | nil => exact List.prefix_rfl
  | cons m moves ih =>
    have hmove : s.found <+: (s.move m).found := s.found_move m ▸ List.prefix_append _ _
    exact hmove.trans (ih _)

theorem length_found_run (s : System) (moves : List Move) :
    (s.run moves).found.length = s.found.length + moves.countP Move.isTrigger := by
  induction moves generalizing s with
  | nil => rfl
  | cons m moves ih =>
    have hlength : (s.foundBy m).length = if m.isTrigger then 1 else 0 := by cases m <;> rfl
    rw [run, List.foldl_cons, ← run, ih, found_move, List.length_append, hlength, List.countP_cons]
    omega

/-- What a trigger finds when it arrives stays found. -/
theorem found_trigger (s : System) (earlier later : List Move) (v context : Value) :
    (s.run (earlier ++ .trigger v context :: later)).found[(s.run earlier).found.length]? =
      some ((s.run earlier).engine.lookUp v context) := by
  have hprefix := ((s.run earlier).move (.trigger v context)).found_prefix_run later
  obtain ⟨more, hmore⟩ := hprefix
  rw [run_append]
  change (((s.run earlier).move (.trigger v context)).run later).found[_]? = _
  rw [← hmore, found_move]
  simp [foundBy]

/-- What a trigger finds, whatever it is, and the errands that come of it. -/
def load (s : System) (x : Except TriggerError Match) : System :=
  { s with
    errands := s.errands ++ (Engine.tasksAt s.found.length x).map (⟨·, .fresh⟩)
    history := s.history ++ [.loaded x] }

theorem found_load (s : System) (x : Except TriggerError Match) :
    (s.load x).found = s.found ++ [x] :=
  List.filterMap_append

theorem recorded_load (s : System) (x : Except TriggerError Match) :
    (s.load x).recorded = s.recorded :=
  List.filterMap_append.trans (List.append_nil _)

theorem begun_load (s : System) (x : Except TriggerError Match) (trigger place : Nat) :
    (s.load x).begun trigger place = s.begun trigger place :=
  List.filterMap_append.trans (List.append_nil _)

/-! ## Accounts -/

theorem recorded_append (s : System) (engine : Engine) (callers : List Caller)
    (errands : List Errand) (events : List Event) :
    recorded ⟨engine, callers, errands, s.history ++ events⟩ =
      s.recorded ++ events.filterMap Event.recorded? :=
  List.filterMap_append

/-- What holds of a system after any steps: the errands are those of the triggers, each has begun
the first of its actions, and the log has grown by what the errands that are done have recorded. -/
structure Accounted (s₀ : Engine) (s : System) : Prop where
  tickets : (s.errands.map fun e => e.task.ticket) = Engine.tasksOf s.found
  follows : ∀ e ∈ s.errands, e.Follows s.history
  /-- Nothing is begun but by the errands. -/
  seated : ∀ trigger place, (trigger, place) ∉ s.errands.map Errand.seat →
    s.begun trigger place = []
  recorded : s.recorded.Perm (s.errands.filterMap Errand.finished?)
  log : s.engine.log = { s₀.log with
    records := s₀.log.records ++ Schedule.keptRecords s₀.log.backend s.recorded }
  issued : ∀ f ∈ s.recorded, Engine.Issued 0 s.engine.issued f.record.id
  nodup : (s.recorded.map fun f => f.record.id).Nodup

theorem accounted_opening (s : Engine) (callers : List Caller) :
    Accounted s (opening s callers) where
  tickets := rfl
  follows := by simp [opening]
  seated _ _ _ := rfl
  recorded := .refl _
  log := by simp [opening, recorded, Schedule.keptRecords]
  issued := by simp [opening, recorded]
  nodup := by simp [opening, recorded]

namespace Accounted

variable {s₀ : Engine} {s : System}

/-- No two errands have the same seat. -/
theorem nodup_seats (h : Accounted s₀ s) : (s.errands.map Errand.seat).Nodup := by
  have hseats : s.errands.map Errand.seat =
      (Engine.tasksOf s.found).map fun t => (t.trigger, t.place) := by
    rw [← h.tickets, List.map_map]
    rfl
  rw [hseats]
  exact Engine.nodup_tasksOf s.found

theorem ticket_mem (h : Accounted s₀ s) {e : Errand} (he : e ∈ s.errands) :
    e.task.ticket ∈ Engine.tasksOf s.found := by
  rw [← h.tickets]
  exact List.mem_map.2 ⟨e, he, rfl⟩

theorem trigger_lt (h : Accounted s₀ s) {e : Errand} (he : e ∈ s.errands) :
    e.task.trigger < s.found.length := by
  have hlt : e.task.ticket.trigger < s.found.length :=
    Engine.trigger_lt_of_mem_tasksOf (h.ticket_mem he)
  exact hlt

/-- Some workflows are found, whichever they are, and become errands. -/
theorem load (h : Accounted s₀ s) (x : Except TriggerError Match) : Accounted s₀ (s.load x) := by
  refine ⟨?_, ?_, ?_, ?_, ?_, ?_, ?_⟩
  · have hfresh : (Engine.tasksAt s.found.length x).map Task.ticket =
        Engine.tasksAt s.found.length x :=
      (List.map_congr_left fun t ht => (Engine.mem_tasksAt ht).1).trans (List.map_id _)
    rw [found_load, Engine.tasksOf_concat, ← h.tickets, ← hfresh]
    simp only [System.load, List.map_append, List.map_map]
    rfl
  · intro e he
    rcases List.mem_append.1 he with he | he
    · exact (h.follows e he).append rfl
    · obtain ⟨t, ht, rfl⟩ := List.mem_map.1 he
      obtain ⟨hticket, htrigger, -⟩ := Engine.mem_tasksAt ht
      have hrest : t.definition.actions = t.rest := congrArg Task.rest hticket
      have hnone : s.begun t.trigger t.place = [] := h.seated _ _ fun hseat => by
        obtain ⟨e, he, hsame⟩ := List.mem_map.1 hseat
        have hlt := h.trigger_lt he
        have hlast : e.task.trigger = t.trigger := (Prod.mk.inj hsame).1
        omega
      exact Errand.Follows.append ⟨[], hrest, rfl, hnone⟩ rfl
  · intro trigger place hfree
    have hseat : (trigger, place) ∉ s.errands.map Errand.seat := by
      rw [System.load, List.map_append] at hfree
      exact fun hseat => hfree (List.mem_append_left _ hseat)
    rw [begun_load]
    exact h.seated trigger place hseat
  · have hnew : ((Engine.tasksAt s.found.length x).map (Errand.mk · .fresh)).filterMap
        Errand.finished? = [] := by
      rw [List.filterMap_map]
      exact List.filterMap_eq_nil_iff.2 fun _ _ => rfl
    rw [recorded_load, System.load, List.filterMap_append, hnew, List.append_nil]
    exact h.recorded
  · rw [recorded_load]
    exact h.log
  · rw [recorded_load]
    exact h.issued
  · rw [recorded_load]
    exact h.nodup

/-- A trigger looks up its workflows. -/
theorem trigger (h : Accounted s₀ s) (v context : Value) :
    Accounted s₀ (s.move (.trigger v context)) :=
  h.load (s.engine.lookUp v context)

/-- The log after a step of an errand, and the identifiers of the records. -/
theorem records_errand (h : Accounted s₀ s) {e e' : Errand} {event : Option Event} {s' : Engine}
    (hadvances : e.Advances e' event s.engine s') :
    let recorded := s.recorded ++ event.toList.filterMap Event.recorded?
    s'.log = { s₀.log with
      records := s₀.log.records ++ Schedule.keptRecords s₀.log.backend recorded } ∧
    (∀ f ∈ recorded, Engine.Issued 0 s'.issued f.record.id) ∧
    (recorded.map fun f => f.record.id).Nodup := by
  have hold : ∀ f ∈ s.recorded, Engine.Issued 0 s'.issued f.record.id := fun f hf =>
    (h.issued f hf).mono le_rfl hadvances.steady.issued
  rcases hadvances.outcome with ⟨hnone, hquiet⟩ | ⟨f, hone, hconcludes⟩
  · rw [hnone, List.append_nil, hquiet.log]
    exact ⟨h.log, hold, h.nodup⟩
  · have hfresh : f.record.id ∉ s.recorded.map fun f => f.record.id := by
      intro hmem
      obtain ⟨g, hg, hsame⟩ := List.mem_map.1 hmem
      exact (h.issued g hg).ne hconcludes.id le_rfl hsame
    rw [hone]
    refine ⟨?_, ?_, ?_⟩
    · rw [hconcludes.recorded.log_eq, h.log, Schedule.keptRecords_append, List.append_assoc]
    · intro g hg
      rcases List.mem_append.1 hg with hg | hg
      · exact hold g hg
      · obtain rfl := List.mem_singleton.1 hg
        exact hconcludes.id.mono (Nat.zero_le _) le_rfl
    · rw [List.map_append]
      exact List.concat_eq_append ▸ List.Nodup.concat hfresh h.nodup

/-- The tickets of the errands after a step of one of them. -/
theorem tickets_errand (h : Accounted s₀ s) {i : Nat} {e e' : Errand} {event : Option Event}
    {s' : Engine} (he : s.errands[i]? = some e) (hadvances : e.Advances e' event s.engine s') :
    ((s.errands.set i e').map fun e => e.task.ticket) = Engine.tasksOf s.found := by
  obtain ⟨hi, rfl⟩ := List.getElem?_eq_some_iff.1 he
  have hlt : i < (s.errands.map fun e => e.task.ticket).length := by simpa using hi
  have hsame : (s.errands.map fun e => e.task.ticket)[i] = e'.task.ticket := by
    rw [List.getElem_map, hadvances.ticket]
  rw [← h.tickets, List.map_set, ← hsame, List.set_getElem_self]

/-- The executions that the errands have come to after a step of one of them. -/
theorem recorded_errand (h : Accounted s₀ s) {i : Nat} {e e' : Errand} {event : Option Event}
    {s' : Engine} (he : s.errands[i]? = some e) (hadvances : e.Advances e' event s.engine s') :
    (s.recorded ++ event.toList.filterMap Event.recorded?).Perm
      ((s.errands.set i e').filterMap Errand.finished?) := by
  have hcons : ∀ (u : Errand) (us : List Errand), (u :: us).filterMap Errand.finished? =
      u.finished?.toList ++ us.filterMap Errand.finished? := by
    intro u us
    simp [List.filterMap_eq_flatMap_toList]
  have hbefore := h.recorded.trans ((perm_cons_eraseIdx he).filterMap Errand.finished?)
  have hafter := (set_perm_cons_eraseIdx he e').filterMap Errand.finished?
  rw [hcons] at hbefore hafter
  refine .trans (hbefore.append_right _) (.trans ?_ hafter.symm)
  rw [hadvances.finished, List.append_assoc, List.append_assoc]
  exact List.perm_append_comm.append_left _

/-- An errand makes a step. -/
theorem errand (h : Accounted s₀ s) (i : Nat) (expired : Bool) :
    Accounted s₀ (s.move (.errand i expired)) := by
  rcases s.move_errand_cases i expired with hsame | ⟨e, e', event, s', he, hadvances, hmove⟩
  · rwa [hsame]
  rw [hmove]
  -- The errands are the one that makes the step and others, which sit elsewhere.
  have hmem : e ∈ s.errands := List.mem_of_getElem? he
  have hbefore := perm_cons_eraseIdx he
  have hafter := set_perm_cons_eraseIdx he e'
  have hseats := (hbefore.map Errand.seat).nodup_iff.1 h.nodup_seats
  rw [List.map_cons, List.nodup_cons] at hseats
  have hfound : found ⟨s', s.callers, s.errands.set i e', s.history ++ event.toList⟩ = s.found := by
    rw [found, List.filterMap_append, hadvances.found, List.append_nil, found]
  obtain ⟨hlog, hissued, hnodup⟩ := h.records_errand hadvances
  rw [← recorded_append s s' s.callers (s.errands.set i e')] at hlog hissued hnodup
  refine ⟨?_, ?_, ?_, ?_, hlog, hissued, hnodup⟩
  · rw [hfound]
    exact h.tickets_errand he hadvances
  · intro u hu
    rcases List.mem_cons.1 (hafter.mem_iff.1 hu) with rfl | hu
    · exact hadvances.follows _ (h.follows e hmem)
    · have hother : u.seat ≠ e.seat := fun hsame => hseats.1 (hsame ▸ List.mem_map_of_mem hu)
      have hu' : u ∈ s.errands := hbefore.mem_iff.2 (List.mem_cons_of_mem e hu)
      exact (h.follows u hu').append (hadvances.own _ _ hother)
  · intro trigger place hfree
    rw [(hafter.map Errand.seat).mem_iff, List.map_cons, hadvances.seat_eq, ← List.map_cons,
      ← (hbefore.map Errand.seat).mem_iff] at hfree
    have hother : (trigger, place) ≠ e.seat := by
      rintro hsame
      exact hfree (hsame ▸ List.mem_map_of_mem hmem)
    rw [begun, List.filterMap_append, hadvances.own _ _ hother, List.append_nil]
    exact h.seated trigger place hfree
  · rw [recorded_append]
    exact h.recorded_errand he hadvances

theorem move (h : Accounted s₀ s) (m : Move) : Accounted s₀ (s.move m) := by
  cases m with
  | trigger v context => exact h.trigger v context
  | errand i expired => exact h.errand i expired
  | caller i => exact ⟨h.tickets, h.follows, h.seated, h.recorded, h.log, h.issued, h.nodup⟩
  | pass w => exact ⟨h.tickets, h.follows, h.seated, h.recorded, h.log, h.issued, h.nodup⟩

theorem run (h : Accounted s₀ s) (moves : List Move) : Accounted s₀ (s.run moves) := by
  induction moves generalizing s with
  | nil => exact h
  | cons m moves ih => exact ih (h.move m)

end Accounted

end System

end Automation
