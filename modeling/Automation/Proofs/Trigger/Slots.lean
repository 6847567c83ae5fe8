import Automation.Proofs.Trigger.Serial

/-!
# Slots

The schedule never gives a trigger more slots than there are (`Schedule.running_le_slots`).  A fresh
task starts only where a slot is free, a task that goes on keeps the one that it has, and one that
is done gives its slot to a single other one.  So every turn keeps the bound (`withinSlots_take`),
whatever comes of the turn.
-/

namespace Automation

namespace Schedule

variable {s₀ : Engine} {s u : Schedule} {t : Task} {ts ready : List Task} {n : Nat}

/-- The slots of a trigger that a task has. -/
def slotsOf (n : Nat) (t : Task) : Nat := if t.trigger == n && t.hasSlot then 1 else 0

/-- No trigger has more slots than there are. -/
def WithinSlots (s : Schedule) : Prop := ∀ n, s.running n ≤ s.engine.slots

theorem slotsOf_le (n : Nat) (t : Task) : slotsOf n t ≤ if t.trigger = n then 1 else 0 := by
  by_cases htrigger : t.trigger = n
  · simp only [slotsOf, htrigger, if_true]
    split <;> omega
  · simp [slotsOf, htrigger]

theorem running_cons (s : Schedule) (t : Task) (n : Nat) :
    ({ s with ready := t :: s.ready } : Schedule).running n = s.running n + slotsOf n t :=
  List.countP_cons

theorem running_ready (s : Schedule) (t : Task) (n : Nat) :
    ({ s with ready := s.ready ++ [t] } : Schedule).running n = s.running n + slotsOf n t := by
  simp only [running, List.countP_append, List.countP_singleton, slotsOf]
  omega

theorem running_aside (s : Schedule) (t : Task) (n : Nat) :
    ({ s with aside := s.aside ++ [t] } : Schedule).running n = s.running n + slotsOf n t := by
  simp only [running, List.countP_append, List.countP_singleton, slotsOf]
  omega

/-- A slot that is given goes to one task of its trigger. -/
theorem running_handSlot_le (s : Schedule) (trigger n : Nat) :
    (s.handSlot trigger).running n ≤ s.running n + if trigger = n then 1 else 0 := by
  rw [handSlot]
  cases hremove : removeFirst? trigger s.waiting with
  | none => exact Nat.le_add_right _ _
  | some found =>
    obtain ⟨w, waiting⟩ := found
    obtain ⟨rfl, -⟩ := removeFirst?_eq_some hremove
    have hready := running_ready { s with waiting } { w with stage := .admitted } n
    have hone := slotsOf_le n { w with stage := .admitted }
    exact hready.trans_le (Nat.add_le_add_left hone _)

/-- At the end of its turn a task has a slot, or one other task of its trigger may have got it. -/
theorem running_place_le {turn : Turn} {engine : Engine} (h : t.Leads s₀ s.engine (turn, engine))
    (n : Nat) : (s.place turn engine).running n ≤ s.running n + if t.trigger = n then 1 else 0 := by
  cases h with
  | @suspended t' _ ticket sound slot quiet =>
    have hone := slotsOf_le n t'
    rw [Task.trigger_of_ticket ticket] at hone
    have hready : (s.place (.suspended t') engine).running n = s.running n + slotsOf n t' :=
      running_ready { s with engine } t' n
    omega
  | @stuck t' _ ticket sound slot quiet =>
    have hone := slotsOf_le n t'
    rw [Task.trigger_of_ticket ticket] at hone
    have haside : (s.place (.stuck t') engine).running n = s.running n + slotsOf n t' :=
      running_aside { s with engine } t' n
    omega
  | @finished f _ completes concludes =>
    have hslot :=
      running_handSlot_le { s with engine, finished := s.finished ++ [f] } f.trigger n
    rw [completes.trigger] at hslot
    rw [place, completes.trigger]
    exact hslot

theorem slots_place {turn : Turn} {engine : Engine} (h : t.Leads s₀ s.engine (turn, engine)) :
    (s.place turn engine).engine.slots = s.engine.slots := by
  cases h with
  | suspended ticket sound slot quiet => exact slots_of_steady quiet.toSteady
  | stuck ticket sound slot quiet => exact slots_of_steady quiet.toSteady
  | finished completes concludes =>
    rw [place, engine_handSlot]
    exact slots_of_steady concludes.steady

/-- A turn of a task that has a slot, or for which one is free. -/
theorem withinSlots_place {turn : Turn} {engine : Engine} (h : t.Leads s₀ s.engine (turn, engine))
    (hroom : ∀ n, s.running n + (if t.trigger = n then 1 else 0) ≤ s.engine.slots) :
    (s.place turn engine).WithinSlots := by
  intro n
  rw [slots_place h]
  exact (running_place_le h n).trans (hroom n)

/-- Where a task that stands in the queue has a slot, there is one for it. -/
theorem room_of_hasSlot (h : WithinSlots { s with ready := t :: s.ready })
    (hslot : t.hasSlot = true) (n : Nat) :
    s.running n + (if t.trigger = n then 1 else 0) ≤ s.engine.slots := by
  have hbound := h n
  rw [running_cons] at hbound
  simpa [slotsOf, hslot] using hbound

theorem withinSlots_take (hkept : Kept s₀ ts { s with ready := t :: s.ready })
    (h : WithinSlots { s with ready := t :: s.ready }) : (s.take t).WithinSlots := by
  have hsteady : s₀.Steady s.engine := hkept.books.steady
  have hsound : t.Sound s₀ := hkept.books.sound t (by simp)
  have hothers : ∀ n, s.running n ≤ s.engine.slots := by
    intro n
    have hbound := h n
    rw [running_cons] at hbound
    exact (Nat.le_add_right _ _).trans hbound
  cases hstage : t.stage with
  | fresh =>
    simp only [Task.Sound, hstage] at hsound
    by_cases hfree : s.running t.trigger < s.engine.slots
    · simp only [take, hstage, if_pos hfree]
      refine withinSlots_place (Task.leads_start hsteady hsound) fun n => ?_
      split
      · rename_i hsame
        exact hsame ▸ hfree
      · exact hothers n
    · simp only [take, hstage, if_neg hfree]
      exact hothers
  | admitted =>
    have hslot : t.hasSlot = true := by simp [Task.hasSlot, hstage]
    simp only [Task.Sound, hstage] at hsound
    simp only [take, hstage]
    exact withinSlots_place (Task.leads_start hsteady hsound) (room_of_hasSlot h hslot)
  | calling progress p pauses =>
    have hslot : t.hasSlot = true := by simp [Task.hasSlot, hstage]
    simp only [Task.Sound, hstage] at hsound
    simp only [take, hstage]
    cases pauses with
    | zero => exact withinSlots_place (Task.leads_resume hsteady hsound) (room_of_hasSlot h hslot)
    | succ pauses =>
      intro n
      have hroom := room_of_hasSlot h hslot n
      have hone := slotsOf_le n { t with stage := .calling progress p pauses }
      exact (running_ready s _ n).trans_le ((Nat.add_le_add_left hone _).trans hroom)
  | expired progress p =>
    have hslot : t.hasSlot = true := by simp [Task.hasSlot, hstage]
    simp only [Task.Sound, hstage] at hsound
    simp only [take, hstage]
    exact withinSlots_place (Task.leads_resume hsteady hsound) (room_of_hasSlot h hslot)

theorem withinSlots_step (hkept : Kept s₀ ts s) (h : s.WithinSlots) (hstep : s.step? = some u) :
    u.WithinSlots := by
  cases hready : s.ready with
  | cons t ready =>
    simp only [step?, hready, Option.some.injEq] at hstep
    have hs : s = { ({ s with ready } : Schedule) with ready := t :: ready } := by rw [← hready]
    rw [hs] at hkept h
    exact hstep ▸ withinSlots_take hkept h
  | nil =>
    cases haside : s.aside with
    | nil => simp [step?, hready, haside] at hstep
    | cons t aside =>
      simp only [step?, hready, haside, Option.some.injEq] at hstep
      intro n
      have hbound := h n
      rw [running, hready, haside, List.nil_append] at hbound
      rw [← hstep, running, List.append_nil]
      exact hbound

theorem withinSlots_start (s₀ : Engine) (hfresh : ∀ t ∈ ts, t.ticket = t) :
    WithinSlots { engine := s₀, ready := ts } := by
  intro n
  have hnone : ({ engine := s₀, ready := ts } : Schedule).running n = 0 := by
    rw [running, List.countP_eq_zero]
    intro t ht
    have hstage : t.stage = .fresh := by
      rw [← hfresh t (by simpa using ht)]
      rfl
    simp [hasSlot_of_fresh hstage]
  exact hnone ▸ Nat.zero_le _

/-- At no time of a run that begins with fresh tasks do more tasks of a trigger have a slot than
there are slots. -/
theorem running_le_slots (hfresh : ∀ t ∈ ts, t.ticket = t)
    (hreach : Relation.ReflTransGen (fun s u : Schedule => s.step? = some u)
      { engine := s₀, ready := ts } u) (n : Nat) : u.running n ≤ s₀.slots := by
  have hwithin : Kept s₀ ts u ∧ u.WithinSlots := by
    induction hreach with
    | refl => exact ⟨kept_start s₀ hfresh, withinSlots_start s₀ hfresh⟩
    | tail _ hstep ih => exact ⟨kept_step ih.1 hstep, withinSlots_step ih.1 ih.2 hstep⟩
  rw [← slots_of_steady hwithin.1.books.steady]
  exact hwithin.2 n

end Schedule

end Automation
