import Automation.Proofs.Trigger.Spans

/-!
# Workflows one at a time

A trigger carries out its workflows in their order if it has a single slot, or if no collaborator
lets others go first (`Engine.Prompt`), so that a workflow that is started is finished in the same
turn (`Schedule.inOrder_of_serial`).

In both cases the tasks stand in a *file* (`Schedule.File`): one at most has a slot, behind it are
the tasks that wait, and behind these the fresh ones that still stand in the queue.
-/

namespace Automation

/-! ## Prompt collaborators -/

/-- No collaborator lets others go first. -/
def Engine.Prompt (s : Engine) : Prop := ∀ o, (s.outside o).suspends = false

theorem Engine.Prompt.steady {s s' : Engine} (h : s.Prompt) (hsteady : s.Steady s') : s'.Prompt := by
  rw [Prompt, hsteady.outside]
  exact h

theorem Engine.Prompt.behaviourOf {s : Engine} (h : s.Prompt) (place : Place) (c : Call) :
    (s.behaviourOf place c).1.suspends = false := by
  cases c with
  | http url method headers body timeout =>
    cases hnetwork : s.network with
    | none => simpa only [Engine.behaviourOf, Call.channel, hnetwork] using h _
    | some answers =>
      simp only [Engine.behaviourOf, Call.channel, hnetwork, Engine.overNetwork]
      split <;> split <;> rfl
  | _ => exact h _

/-- Where collaborators are prompt, a task that is carried on is finished. -/
theorem Task.isFinished_carryOn (t : Task) (actions : List Action) :
    ∀ (progress : Progress) (s : Engine), s.Prompt →
      (t.carryOn progress actions s).1.isFinished = true := by
  induction actions with
  | nil =>
    intro progress s _
    rfl
  | cons a rest ih =>
    intro progress s hprompt
    have hquiet := s.quiet_begin a t.context ⟨t.definition.id, progress.results.length⟩
    rw [carryOn]
    cases hbegin : s.begin a t.context ⟨t.definition.id, progress.results.length⟩ with
    | mk begun s₁ =>
      rw [hbegin] at hquiet
      cases begun with
      | settled r => exact ih _ s₁ (hprompt.steady hquiet.toSteady)
      | pending p =>
        have hsuspends : p.behaviour.suspends = false := by
          rcases s.begin_cases a t.context ⟨t.definition.id, progress.results.length⟩ with
            ⟨message, -, -, hcase⟩ | ⟨kind, wanted, made, -, hcase⟩
          · cases hcase.symm.trans hbegin
          · cases hcase.symm.trans hbegin
            exact hprompt.behaviourOf _ made
        simp only [hsuspends, Bool.false_eq_true, if_false]
        exact ih _ (s₁.finish p false).2
          (hprompt.steady (hquiet.trans (s₁.quiet_finish p false)).toSteady)

namespace Schedule

/-! ## Tasks in a file -/

/-- The tasks of a trigger in a file: in front one at most has a slot, behind it are those that
wait, and at the back those that are fresh.  While one has a slot there is a single one. -/
structure File (trigger : Nat) (s : Schedule) (front back : List Task) : Prop where
  queue : s.ready ++ s.aside = back ++ front
  fresh : ∀ t ∈ back, t.stage = .fresh
  waiting : ∀ t ∈ s.waiting, t.stage = .fresh
  hasSlot : ∀ t ∈ front, t.hasSlot = true
  aside : ∀ t ∈ s.aside, t.hasSlot = true
  single : front.length ≤ 1
  served : front = [] → s.waiting = []
  places : (front ++ s.waiting ++ back).Pairwise fun t u => t.place < u.place
  triggers : ∀ t ∈ front ++ s.waiting ++ back, t.trigger = trigger
  alone : front ≠ [] → s.engine.slots = 1

variable {trigger : Nat} {s u : Schedule} {front back ready : List Task} {t : Task}

theorem hasSlot_of_fresh (h : t.stage = .fresh) : t.hasSlot = false := by
  rw [Task.hasSlot, h]

/-- The turn of a task in a file is that of the first fresh one while another one has the slot, that
of the first fresh one while none has, or that of the one that has it. -/
theorem File.turn (h : File trigger s front back) (hready : s.ready = t :: ready) :
    (∃ v rest, front = [v] ∧ back = t :: rest ∧ ready ++ s.aside = rest ++ [v]) ∨
    (front = [] ∧ back = t :: ready ∧ s.aside = [] ∧ s.waiting = []) ∨
    (front = [t] ∧ back = [] ∧ ready = [] ∧ s.aside = []) := by
  have hqueue := h.queue
  rw [hready, List.cons_append] at hqueue
  cases back with
  | cons v rest =>
    rw [List.cons_append, List.cons.injEq] at hqueue
    obtain ⟨rfl, hqueue⟩ := hqueue
    cases front with
    | nil =>
      rw [List.append_nil] at hqueue
      have haside : s.aside = [] := by
        rw [List.eq_nil_iff_forall_not_mem]
        intro w hw
        have hstage : w.stage = .fresh := by
          refine h.fresh w (List.mem_cons_of_mem t ?_)
          rw [← hqueue]
          exact List.mem_append_right ready hw
        cases (hasSlot_of_fresh hstage).symm.trans (h.aside w hw)
      rw [haside, List.append_nil] at hqueue
      exact .inr (.inl ⟨rfl, by rw [hqueue], haside, h.served rfl⟩)
    | cons v others =>
      have hsingle := h.single
      rw [List.length_cons] at hsingle
      obtain rfl : others = [] := List.eq_nil_of_length_eq_zero (by omega)
      exact .inl ⟨v, rest, rfl, rfl, hqueue⟩
  | nil =>
    rw [List.nil_append] at hqueue
    have hsingle := h.single
    rw [← hqueue, List.length_cons] at hsingle
    have hrest : ready ++ s.aside = [] := List.eq_nil_of_length_eq_zero (by omega)
    obtain ⟨hnone, haside⟩ := List.append_eq_nil_iff.1 hrest
    exact .inr (.inr ⟨by rw [← hqueue, hrest], rfl, hnone, haside⟩)

/-- The task that has the single slot is in front. -/
theorem file_single (hqueue : u.ready ++ u.aside = back ++ [t])
    (haside : ∀ w ∈ u.aside, w.hasSlot = true) (hslot : t.hasSlot = true)
    (hfresh : ∀ t ∈ back, t.stage = .fresh) (hwaiting : ∀ t ∈ u.waiting, t.stage = .fresh)
    (hplaces : (t :: (u.waiting ++ back)).Pairwise fun t u => t.place < u.place)
    (htriggers : ∀ w ∈ t :: (u.waiting ++ back), w.trigger = trigger)
    (halone : u.engine.slots = 1) : File trigger u [t] back :=
  ⟨hqueue, hfresh, hwaiting, by simpa using hslot, haside, Nat.le_refl 1, nofun, by simpa using hplaces,
    by simpa using htriggers, fun _ => halone⟩

theorem slots_of_steady {s s' : Engine} (h : s.Steady s') : s'.slots = s.slots := by
  simp only [Engine.slots, h.limits]

/-- A slot that nobody has goes to the first one that waits. -/
theorem file_handSlot (haside : u.aside = []) (hfresh : ∀ t ∈ u.ready, t.stage = .fresh)
    (hwaiting : ∀ t ∈ u.waiting, t.stage = .fresh)
    (hplaces : (u.waiting ++ u.ready).Pairwise fun t u => t.place < u.place)
    (htriggers : ∀ w ∈ u.waiting ++ u.ready, w.trigger = trigger)
    (halone : u.engine.slots = 1 ∨ u.waiting = []) :
    ∃ front, File trigger (u.handSlot trigger) front u.ready := by
  rw [handSlot]
  cases hw : u.waiting with
  | nil =>
    simp only [removeFirst?]
    rw [hw] at hplaces htriggers
    refine ⟨[], by simp [haside], hfresh, hwaiting, by simp, by simp [haside], Nat.zero_le 1, fun _ => hw,
      ?_, ?_, fun h => absurd rfl h⟩
    · rwa [List.nil_append, hw]
    · rwa [List.nil_append, hw]
  | cons w waiting =>
    have hslots : u.engine.slots = 1 := halone.resolve_right (by simp [hw])
    rw [hw, List.cons_append] at hplaces htriggers
    simp only [removeFirst?, if_pos (htriggers w List.mem_cons_self)]
    obtain ⟨hfirst, hrest⟩ := List.pairwise_cons.1 hplaces
    refine ⟨[{ w with stage := .admitted }], file_single ?_ ?_ rfl hfresh ?_ ?_ ?_ hslots⟩
    · simp only [haside, List.append_nil]
    · simp [haside]
    · intro v hv
      rw [hw] at hwaiting
      exact hwaiting v (List.mem_cons_of_mem w hv)
    · exact List.pairwise_cons.2 ⟨hfirst, hrest⟩
    · intro v hv
      rcases List.mem_cons.1 hv with rfl | hv
      · exact htriggers w List.mem_cons_self
      · exact htriggers v (List.mem_cons_of_mem w hv)

/-- After the turn of the first task, it is in front if it is left.  If it is finished, its slot
goes to the first one that waits. -/
theorem file_place {s₀ engine : Engine} {turn : Turn} (hleads : t.Leads s₀ s.engine (turn, engine))
    (haside : s.aside = []) (hfresh : ∀ t ∈ s.ready, t.stage = .fresh)
    (hwaiting : ∀ t ∈ s.waiting, t.stage = .fresh)
    (hplaces : (t :: (s.waiting ++ s.ready)).Pairwise fun t u => t.place < u.place)
    (htriggers : ∀ w ∈ t :: (s.waiting ++ s.ready), w.trigger = trigger)
    (halone : s.engine.slots = 1 ∨ s.waiting = [] ∧ turn.isFinished = true) :
    ∃ front, File trigger (s.place turn engine) front s.ready := by
  obtain ⟨hfirst, hrest⟩ := List.pairwise_cons.1 hplaces
  have hself : t.trigger = trigger := htriggers t List.mem_cons_self
  have hothers : ∀ w ∈ s.waiting ++ s.ready, w.trigger = trigger := fun w hw =>
    htriggers w (List.mem_cons_of_mem t hw)
  have hleft : ∀ t' : Task, t'.ticket = t.ticket →
      (t' :: (s.waiting ++ s.ready)).Pairwise (fun t u => t.place < u.place) ∧
        ∀ w ∈ t' :: (s.waiting ++ s.ready), w.trigger = trigger := by
    intro t' hticket
    have hplace : t'.place = t.place := Task.place_of_ticket hticket
    have htrigger : t'.trigger = t.trigger := Task.trigger_of_ticket hticket
    refine ⟨List.pairwise_cons.2 ⟨fun w hw => ?_, hrest⟩, fun w hw => ?_⟩
    · rw [hplace]
      exact hfirst w hw
    · rcases List.mem_cons.1 hw with rfl | hw
      · exact htrigger.trans hself
      · exact hothers w hw
  cases hleads with
  | @suspended t' _ ticket sound slot quiet =>
    have hslots : s.engine.slots = 1 := halone.resolve_right (by simp [Turn.isFinished])
    rw [← slots_of_steady quiet.toSteady] at hslots
    obtain ⟨hplaces', htriggers'⟩ := hleft t' ticket
    refine ⟨[t'], file_single ?_ ?_ slot hfresh hwaiting hplaces' htriggers' hslots⟩
    · simp only [place, haside, List.append_nil]
    · simp [place, haside]
  | @stuck t' _ ticket sound slot quiet =>
    have hslots : s.engine.slots = 1 := halone.resolve_right (by simp [Turn.isFinished])
    rw [← slots_of_steady quiet.toSteady] at hslots
    obtain ⟨hplaces', htriggers'⟩ := hleft t' ticket
    refine ⟨[t'], file_single ?_ ?_ slot hfresh hwaiting hplaces' htriggers' hslots⟩
    · simp only [place, haside, List.nil_append]
    · simpa [place, haside] using slot
  | @finished f _ completes concludes =>
    rw [place, completes.trigger, hself]
    refine file_handSlot haside hfresh hwaiting hrest hothers ?_
    rw [slots_of_steady concludes.steady]
    exact halone.imp_right And.left

/-! ## Runs in a file -/

/-- A schedule whose books are right and whose tasks stand in a file, and whose collaborators are
prompt or which has a single slot. -/
structure Filed (s₀ : Engine) (ts : List Task) (trigger : Nat) (s : Schedule) : Prop where
  kept : Kept s₀ ts s
  file : ∃ front back, File trigger s front back
  serial : s₀.slots = 1 ∨ s₀.Prompt

variable {s₀ : Engine} {ts : List Task}

/-- A fresh task that finds a task with the single slot has to wait. -/
theorem File.full {v : Task} {rest : List Task} (h : File trigger s [v] (t :: rest))
    (hqueue : ready ++ s.aside = rest ++ [v]) :
    ¬ ({ s with ready } : Schedule).running t.trigger < s.engine.slots := by
  have hsame : v.trigger = t.trigger := by
    rw [h.triggers v (by simp), h.triggers t (by simp)]
  have hslot : v.hasSlot = true := h.hasSlot v (List.mem_singleton_self v)
  have hrunning : 0 < ({ s with ready } : Schedule).running t.trigger := by
    rw [running, List.countP_pos_iff]
    refine ⟨v, ?_, by simp [hsame, hslot]⟩
    show v ∈ ready ++ s.aside
    simp [hqueue]
  rw [h.alone (List.cons_ne_nil v [])]
  omega

/-- The turn of a fresh task that finds no free slot. -/
theorem file_wait {v : Task} {rest : List Task} (h : File trigger s [v] (t :: rest))
    (hqueue : ready ++ s.aside = rest ++ [v]) :
    File trigger { s with ready, waiting := s.waiting ++ [t] } [v] rest := by
  have hplaces : ([v] ++ (s.waiting ++ [t]) ++ rest).Pairwise fun t u => t.place < u.place := by
    simpa using h.places
  have htriggers : ∀ w ∈ [v] ++ (s.waiting ++ [t]) ++ rest, w.trigger = trigger := by
    simpa using h.triggers
  refine ⟨hqueue, fun w hw => h.fresh w (List.mem_cons_of_mem t hw), fun w hw => ?_, h.hasSlot,
    h.aside, h.single, nofun, hplaces, htriggers, h.alone⟩
  rcases List.mem_append.1 hw with hw | hw
  · exact h.waiting w hw
  · exact List.mem_singleton.1 hw ▸ h.fresh t List.mem_cons_self

/-- The turn of the first fresh task, while no task has a slot. -/
theorem Filed.file_start (h : Filed s₀ ts trigger s) (hready : s.ready = t :: ready)
    (hfile : File trigger s [] (t :: ready)) (haside : s.aside = []) (hwaiting : s.waiting = []) :
    ∃ front back, File trigger (({ s with ready } : Schedule).take t) front back := by
  have hsteady : s₀.Steady s.engine := h.kept.books.steady
  have hsound : t.Sound s₀ := h.kept.books.sound t (by simp [hready])
  have hstage : t.stage = .fresh := hfile.fresh t List.mem_cons_self
  have hrest : ∀ w ∈ ready, w.stage = .fresh := fun w hw =>
    hfile.fresh w (List.mem_cons_of_mem t hw)
  have hplaces := hfile.places
  have htriggers := hfile.triggers
  rw [List.nil_append] at hplaces htriggers
  simp only [Task.Sound, hstage] at hsound
  have hnobody : ({ s with ready } : Schedule).running t.trigger = 0 := by
    rw [running, List.countP_eq_zero]
    intro w hw
    have hw : w ∈ ready := by simpa [haside] using hw
    simp [hasSlot_of_fresh (hrest w hw)]
  have hslots := s.engine.slots_pos
  simp only [take, hstage, if_pos (hnobody ▸ hslots)]
  have halone : s.engine.slots = 1 ∨ s.waiting = [] ∧ (t.start s.engine).1.isFinished = true := by
    rcases h.serial with hsingle | hprompt
    · exact .inl ((slots_of_steady hsteady).trans hsingle)
    · exact .inr ⟨hwaiting, t.isFinished_carryOn t.rest _ _ (hprompt.steady hsteady)⟩
  obtain ⟨front, hplaced⟩ := file_place (s := { s with ready }) (Task.leads_start hsteady hsound)
    haside hrest hfile.waiting (by simpa [hwaiting] using hplaces)
    (by simpa [hwaiting] using htriggers) halone
  exact ⟨front, ready, hplaced⟩

/-- The turn of the task that has the single slot. -/
theorem Filed.file_goOn (h : Filed s₀ ts trigger s) (hready : s.ready = [t])
    (hfile : File trigger s [t] []) (haside : s.aside = []) :
    ∃ front back, File trigger (({ s with ready := [] } : Schedule).take t) front back := by
  have hsteady : s₀.Steady s.engine := h.kept.books.steady
  have hsound : t.Sound s₀ := h.kept.books.sound t (by simp [hready])
  have hslot : t.hasSlot = true := hfile.hasSlot t (List.mem_singleton_self t)
  have hslots : s.engine.slots = 1 := hfile.alone (List.cons_ne_nil t [])
  have hplaces := hfile.places
  have htriggers := hfile.triggers
  rw [List.append_nil] at hplaces htriggers
  have hplaced : ∀ {turn : Turn} {engine : Engine}, t.Leads s₀ s.engine (turn, engine) →
      ∃ front back, File trigger (({ s with ready := [] } : Schedule).place turn engine) front back := by
    intro turn engine hleads
    obtain ⟨front, hfront⟩ := file_place (s := { s with ready := [] }) hleads haside (List.forall_mem_nil _)
      hfile.waiting (by simpa using hplaces) (by simpa using htriggers) (.inl hslots)
    exact ⟨front, [], hfront⟩
  cases hstage : t.stage with
  | fresh => cases (hasSlot_of_fresh hstage).symm.trans hslot
  | admitted =>
    simp only [Task.Sound, hstage] at hsound
    simp only [take, hstage]
    exact hplaced (Task.leads_start hsteady hsound)
  | calling progress p pauses =>
    simp only [Task.Sound, hstage] at hsound
    simp only [take, hstage]
    cases pauses with
    | zero => exact hplaced (Task.leads_resume hsteady hsound)
    | succ pauses =>
      refine ⟨[{ t with stage := .calling progress p pauses }], [], file_single ?_ ?_ rfl
        (List.forall_mem_nil _) hfile.waiting ?_ ?_ hslots⟩
      · simp [haside]
      · simp [haside]
      · simpa using hplaces
      · simpa using htriggers
  | expired progress p =>
    simp only [Task.Sound, hstage] at hsound
    simp only [take, hstage]
    exact hplaced (Task.leads_resume hsteady hsound)

theorem Filed.step (h : Filed s₀ ts trigger s) (hstep : s.step? = some u) :
    Filed s₀ ts trigger u := by
  refine ⟨kept_step h.kept hstep, ?_, h.serial⟩
  obtain ⟨front, back, hfile⟩ := h.file
  cases hready : s.ready with
  | cons t ready =>
    simp only [step?, hready, Option.some.injEq] at hstep
    rw [← hstep]
    rcases hfile.turn hready with ⟨v, rest, rfl, rfl, hqueue⟩ | ⟨rfl, rfl, haside, hwaiting⟩ |
      ⟨rfl, rfl, rfl, haside⟩
    · have hstage : t.stage = .fresh := hfile.fresh t List.mem_cons_self
      simp only [take, hstage, if_neg (hfile.full hqueue)]
      exact ⟨[v], rest, file_wait hfile hqueue⟩
    · exact h.file_start hready hfile haside hwaiting
    · exact h.file_goOn hready hfile haside
  | nil =>
    cases haside : s.aside with
    | nil => simp [step?, hready, haside] at hstep
    | cons t aside =>
      simp only [step?, hready, haside, Option.some.injEq] at hstep
      have hqueue := hfile.queue
      rw [hready, haside, List.nil_append] at hqueue
      rw [← hstep]
      exact ⟨front, back, { hfile with queue := by simpa using hqueue, aside := List.forall_mem_nil _ }⟩

end Schedule

end Automation
