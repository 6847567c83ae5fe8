import Automation.Proofs.Concurrent.Account

/-!
# Turns are steps

The schedule that carries out triggers (`Engine.triggerAll`) gives its tasks turns, and a turn goes
on until its task has to wait.  Every turn is made of steps of one errand (`System.makes_take`), so
all that the schedule does is one of the orders of steps that a system can make
(`Engine.triggerAll_interleaved`).
-/

namespace Automation

/-- The errand of a task.  Slots and the order of turns are left to the schedule. -/
def Task.errand (t : Task) : Errand where
  task := { t with stage := .fresh }
  phase :=
    match t.stage with
    | .fresh => .fresh
    | .admitted => .fresh
    | .calling progress p _ => .calling progress p
    | .expired progress p => .calling progress p

/-- An errand is as a turn of its task leaves it, and so is what is told of its steps. -/
def Turn.ShownBy (e : Errand) (events : List Event) : Turn → Prop
  | .suspended t => e = t.errand ∧ events.filterMap Event.recorded? = []
  | .stuck t => e = t.errand ∧ events.filterMap Event.recorded? = []
  | .finished f => e.finished? = some f ∧ events.filterMap Event.recorded? = [f]

/-- The time of an action has run out exactly if its collaborator takes too long. -/
def Errand.IsTimely (e : Errand) (expired : Bool) (s : Engine) : Prop :=
  ∀ progress p, e.phase = .calling progress p → expired = s.runsOut p.behaviour

namespace System

/-- Steps of the errand of a number. -/
def steps (x : System) (i : Nat) (flags : List Bool) : System := x.run (flags.map (.errand i ·))

/-- Steps of an errand in which every action takes as long as its collaborator makes it take. -/
def Timely (x : System) (i : Nat) : List Bool → Prop
  | [] => True
  | expired :: flags =>
    (∀ e, x.errands[i]? = some e → e.IsTimely expired x.engine) ∧
      Timely (x.move (.errand i expired)) i flags

/-- Some timely steps of the errand of a number come to what a turn comes to. -/
def Makes (x : System) (i : Nat) (turn : Turn) (s : Engine) : Prop :=
  ∃ flags e events, x.steps i flags = ⟨s, x.callers, x.errands.set i e, x.history ++ events⟩ ∧
    x.Timely i flags ∧ events.filterMap Event.found? = [] ∧ turn.ShownBy e events

variable {x : System} {i : Nat} {e e' : Errand} {turn : Turn} {s s' : Engine}

/-- A step before others that come to a turn, of which nothing is recorded. -/
theorem Makes.cons {expired : Bool} {events : List Event}
    (htimely : ∀ u, x.errands[i]? = some u → u.IsTimely expired x.engine)
    (hmove : x.move (.errand i expired) =
      ⟨s, x.callers, x.errands.set i e, x.history ++ events⟩)
    (hfound : events.filterMap Event.found? = [])
    (hrecorded : events.filterMap Event.recorded? = [])
    (h : Makes ⟨s, x.callers, x.errands.set i e, x.history ++ events⟩ i turn s') :
    x.Makes i turn s' := by
  obtain ⟨flags, e', later, hrun, hrest, hfound', hshown⟩ := h
  refine ⟨expired :: flags, e', events ++ later, ?_, ⟨htimely, hmove ▸ hrest⟩,
    by simp [hfound, hfound'], ?_⟩
  · rw [steps, run, List.map_cons, List.foldl_cons, ← run, ← steps, hmove, hrun]
    simp
  · cases turn with
    | finished f => exact ⟨hshown.1, by simpa [hrecorded] using hshown.2⟩
    | suspended t => exact ⟨hshown.1, by simpa [hrecorded] using hshown.2⟩
    | stuck t => exact ⟨hshown.1, by simpa [hrecorded] using hshown.2⟩

theorem move_errand (he : x.errands[i]? = some e) (expired : Bool) :
    x.move (.errand i expired) = ⟨(e.step expired x.engine).2.2, x.callers,
      x.errands.set i (e.step expired x.engine).1,
      x.history ++ (e.step expired x.engine).2.1.toList⟩ := by
  simp only [move, he]

/-- A task that waits leaves an errand that waits. -/
theorem shownBy_wait (t : Task) (progress : Progress) (p : Pending) (rest : List Action)
    (s : Engine) {events : List Event} (hevents : events.filterMap Event.recorded? = []) :
    (t.wait progress p rest s).ShownBy
      ⟨{ t with rest, stage := .fresh }, .calling progress p⟩ events := by
  simp only [Task.wait]
  split
  · exact ⟨rfl, hevents⟩
  · split
    · exact ⟨rfl, hevents⟩
    · exact ⟨rfl, hevents⟩

/-- Where no reply is waited for, no time runs out. -/
theorem isTimely_of_getElem? {t : Task} {phase : Phase} (he : x.errands[i]? = some ⟨t, phase⟩)
    (hphase : ∀ progress p, phase ≠ .calling progress p) (expired : Bool) (u : Errand)
    (hu : x.errands[i]? = some u) : u.IsTimely expired x.engine := by
  obtain rfl := Option.some.inj (he.symm.trans hu)
  exact fun progress p hcalling => absurd hcalling (hphase progress p)

/-- A reply is taken before steps that come to a turn. -/
theorem Makes.answered {t : Task} {progress : Progress} {p : Pending}
    (he : x.errands[i]? = some ⟨t, .calling progress p⟩) {expired : Bool}
    (hexpired : expired = x.engine.runsOut p.behaviour) {next : Engine → Turn × Engine}
    (h : ∀ y : System, y.errands[i]? =
        some ⟨t, .ready (progress.add (x.engine.finish p expired).1)⟩ →
      y.Makes i (next y.engine).1 (next y.engine).2) :
    x.Makes i (next (x.engine.finish p expired).2).1 (next (x.engine.finish p expired).2).2 := by
  have hi : i < x.errands.length := (List.getElem?_eq_some_iff.1 he).1
  have htimely : ∀ u, x.errands[i]? = some u → u.IsTimely expired x.engine := by
    intro u hu progress' p' hcalling
    obtain rfl := Option.some.inj (he.symm.trans hu)
    obtain ⟨-, rfl⟩ := Phase.calling.inj hcalling
    exact hexpired
  exact .cons htimely (move_errand he expired) rfl rfl
    (h ⟨(x.engine.finish p expired).2, _, _, _⟩ (List.getElem?_set_self hi))

/-- What a task does that is carried on is made of steps of its errand. -/
theorem makes_carryOn (t : Task) (actions : List Action) :
    ∀ (progress : Progress) (x : System),
      x.errands[i]? = some ⟨{ t with rest := actions, stage := .fresh }, .ready progress⟩ →
      x.Makes i (t.carryOn progress actions x.engine).1
        (t.carryOn progress actions x.engine).2 := by
  induction actions with
  | nil =>
    intro progress x he
    have htimely := isTimely_of_getElem? he (fun _ _ h => Phase.noConfusion h) false
    exact ⟨[false], _, _, move_errand he false, ⟨htimely, trivial⟩, rfl, rfl, rfl⟩
  | cons a rest ih =>
    intro progress x he
    have hi : i < x.errands.length := (List.getElem?_eq_some_iff.1 he).1
    have hbegin : x.move (.errand i false) =
        ⟨(x.engine.begin a t.context ⟨t.definition.id, progress.results.length⟩).2, x.callers,
          x.errands.set i ⟨{ t with rest, stage := .fresh }, .of progress
            (x.engine.begin a t.context ⟨t.definition.id, progress.results.length⟩).1⟩,
          x.history ++ [.began t.trigger t.place a t.context]⟩ := move_errand he false
    rw [Task.carryOn]
    have htimely := isTimely_of_getElem? he (fun _ _ h => Phase.noConfusion h) false
    generalize x.engine.begin a t.context ⟨t.definition.id, progress.results.length⟩ = begun
      at hbegin
    obtain ⟨begun, s⟩ := begun
    cases begun with
    | settled r =>
      exact .cons htimely hbegin rfl rfl
        (ih (progress.add r) ⟨s, _, _, _⟩ (List.getElem?_set_self hi))
    | pending p =>
      dsimp only
      split
      · exact ⟨[false], _, _, hbegin, ⟨htimely, trivial⟩, rfl, shownBy_wait t progress p rest s rfl⟩
      · rename_i hsuspends
        have hintime : false = s.runsOut p.behaviour := by
          simp only [Behaviour.suspends, Bool.or_eq_true, not_or, Bool.not_eq_true] at hsuspends
          simp [Engine.runsOut, Behaviour.suspends, hsuspends]
        exact .cons htimely hbegin rfl rfl
          (.answered (List.getElem?_set_self hi) hintime fun y => ih _ y)

/-- A task that is carried on after its action was settled. -/
theorem makes_resume {t : Task} {progress : Progress} {p : Pending}
    (he : x.errands[i]? = some ⟨{ t with stage := .fresh }, .calling progress p⟩) {expired : Bool}
    (hexpired : expired = x.engine.runsOut p.behaviour) :
    x.Makes i (t.resume progress p expired x.engine).1 (t.resume progress p expired x.engine).2 :=
  .answered he hexpired fun y hy => makes_carryOn t t.rest _ y hy

theorem makes_start {t : Task}
    (he : x.errands[i]? = some ⟨{ t with stage := .fresh }, .fresh⟩) :
    x.Makes i (t.start x.engine).1 (t.start x.engine).2 := by
  have hi : i < x.errands.length := (List.getElem?_eq_some_iff.1 he).1
  have htimely := isTimely_of_getElem? he (fun _ _ h => Phase.noConfusion h) false
  exact .cons htimely (move_errand he false) rfl rfl
    (makes_carryOn t t.rest ⟨x.engine.clock, x.engine.ticks, []⟩ ⟨x.engine, _, _, _⟩
      (List.getElem?_set_self hi))

/-! ## Turns of the schedule -/

/-- The errands that are not done. -/
def opened (x : System) : List Errand := x.errands.filter fun e => e.finished?.isNone

theorem opened_eq_nil_iff {x : System} : x.opened = [] ↔ x.isDone = true := by
  simp [opened, isDone, List.filter_eq_nil_iff, Option.isSome_iff_ne_none]

/-- A system and a schedule have done the same, and have the same to do. -/
structure Carries (x : System) (u : Schedule) : Prop where
  engine : x.engine = u.engine
  recorded : x.recorded = u.finished
  opened : x.opened.Perm ((u.ready ++ u.aside ++ u.waiting).map Task.errand)

theorem finished?_errand (t : Task) : t.errand.finished? = none := by
  cases hstage : t.stage <;> simp [Task.errand, Errand.finished?, hstage]

/-- The errand of a task that has its turn, and the errands that are left when it has made steps. -/
theorem exists_errand {t : Task} {us : List Task} (h : x.opened.Perm ((t :: us).map Task.errand)) :
    ∃ i, x.errands[i]? = some t.errand ∧ ∀ s events e,
      (opened ⟨s, x.callers, x.errands.set i e, x.history ++ events⟩).Perm
        (if e.finished?.isNone then e :: us.map Task.errand else us.map Task.errand) := by
  have hmem : t.errand ∈ x.errands :=
    List.mem_of_mem_filter (h.mem_iff.2 (List.mem_map_of_mem List.mem_cons_self))
  obtain ⟨i, he⟩ := List.getElem?_of_mem hmem
  have hothers : ((t.errand :: x.errands.eraseIdx i).filter fun e => e.finished?.isNone).Perm
      ((t :: us).map Task.errand) := ((perm_cons_eraseIdx he).filter _).symm.trans h
  rw [List.filter_cons, finished?_errand] at hothers
  refine ⟨i, he, fun s events e => ?_⟩
  refine ((set_perm_cons_eraseIdx he e).filter fun e => e.finished?.isNone).trans ?_
  rw [List.filter_cons]
  split
  · exact hothers.cons_inv.cons e
  · exact hothers.cons_inv

/-- Giving a slot to a task that waits changes no errand. -/
theorem errands_handSlot (u : Schedule) (trigger : Nat)
    (hfresh : ∀ w ∈ u.waiting, w.stage = .fresh) :
    (((u.handSlot trigger).ready ++ (u.handSlot trigger).aside ++
      (u.handSlot trigger).waiting).map Task.errand).Perm
        ((u.ready ++ u.aside ++ u.waiting).map Task.errand) ∧
      (u.handSlot trigger).engine = u.engine ∧ (u.handSlot trigger).finished = u.finished := by
  rw [Schedule.handSlot]
  cases hremove : Schedule.removeFirst? trigger u.waiting with
  | none => exact ⟨.refl _, rfl, rfl⟩
  | some found =>
    obtain ⟨w, waiting⟩ := found
    obtain ⟨-, hperm⟩ := Schedule.removeFirst?_eq_some hremove
    have hw : w.stage = .fresh := hfresh w (hperm.mem_iff.2 List.mem_cons_self)
    have hsame : ({ w with stage := .admitted } : Task).errand = w.errand := by
      simp [Task.errand, hw]
    refine ⟨?_, rfl, rfl⟩
    have hwaiting := (hperm.map Task.errand).symm.append_left
      (u.ready.map Task.errand ++ u.aside.map Task.errand)
    refine .trans ?_ (.trans hwaiting (.of_eq (by simp)))
    simp only [List.map_append, List.map_cons, hsame, List.append_assoc, List.singleton_append]
    exact List.perm_middle.symm.append_left _

/-- A turn whose steps are made. -/
theorem carries_place {u : Schedule} {t : Task} (h : x.Carries { u with ready := t :: u.ready })
    (hfresh : ∀ w ∈ u.waiting, w.stage = .fresh)
    (hmakes : ∀ i, x.errands[i]? = some t.errand → x.Makes i turn s) :
    ∃ i flags, x.errands[i]? = some t.errand ∧ x.Timely i flags ∧
      (x.steps i flags).Carries (u.place turn s) ∧ (x.steps i flags).found = x.found := by
  have hbefore : x.opened.Perm ((t :: (u.ready ++ u.aside ++ u.waiting)).map Task.errand) :=
    h.opened
  obtain ⟨i, hi, hset⟩ := exists_errand hbefore
  obtain ⟨flags, e, events, hrun, htimely, hfound, hshown⟩ := hmakes i hi
  have hopened := hset s events e
  have hrecorded : (x.steps i flags).recorded =
      u.finished ++ events.filterMap Event.recorded? := by
    rw [hrun, recorded_append, h.recorded]
  refine ⟨i, flags, hi, htimely, ?_,
    by rw [hrun, found, List.filterMap_append, hfound, List.append_nil, found]⟩
  rw [← hrun] at hopened
  have hengine : (x.steps i flags).engine = s := by rw [hrun]
  cases turn with
  | suspended t' =>
    obtain ⟨rfl, hnone⟩ := hshown
    rw [hnone, List.append_nil] at hrecorded
    have hperm : (t' :: (u.ready ++ u.aside ++ u.waiting)).Perm
        (u.ready ++ [t'] ++ u.aside ++ u.waiting) := by
      simp only [List.append_assoc, List.singleton_append]
      exact List.perm_middle.symm
    rw [finished?_errand] at hopened
    exact ⟨hengine, hrecorded, hopened.trans (hperm.map Task.errand)⟩
  | stuck t' =>
    obtain ⟨rfl, hnone⟩ := hshown
    rw [hnone, List.append_nil] at hrecorded
    have hperm : (t' :: (u.ready ++ u.aside ++ u.waiting)).Perm
        (u.ready ++ (u.aside ++ [t']) ++ u.waiting) := by
      simp only [← List.append_assoc]
      exact (List.perm_append_singleton t' _).symm.append_right u.waiting
    rw [finished?_errand] at hopened
    exact ⟨hengine, hrecorded, hopened.trans (hperm.map Task.errand)⟩
  | finished f =>
    obtain ⟨hdone, hone⟩ := hshown
    obtain ⟨herrands, hslotEngine, hslotFinished⟩ :=
      errands_handSlot { u with engine := s, finished := u.finished ++ [f] } f.trigger hfresh
    rw [hone] at hrecorded
    rw [hdone] at hopened
    exact ⟨hengine.trans hslotEngine.symm, hrecorded.trans hslotFinished.symm,
      hopened.trans herrands.symm⟩

/-- The turn of a task is made of timely steps of its errand, or of none.  An errand that is started
had a slot given to it or found a free one. -/
theorem carries_take {s₀ : Engine} {ts : List Task} {u : Schedule} {t : Task}
    (hkept : Schedule.Kept s₀ ts { u with ready := t :: u.ready })
    (h : x.Carries { u with ready := t :: u.ready }) :
    x.Carries (u.take t) ∨ ∃ i flags, x.errands[i]? = some t.errand ∧
      (t.stage = .fresh → u.running t.trigger < u.engine.slots) ∧ x.Timely i flags ∧
      (x.steps i flags).Carries (u.take t) ∧ (x.steps i flags).found = x.found := by
  have hfresh : ∀ w ∈ u.waiting, w.stage = .fresh := hkept.fresh
  have hsound : t.Sound s₀ := hkept.books.sound t (by simp)
  have hsteady : s₀.Steady x.engine := h.engine.symm ▸ hkept.books.steady
  have hengine : x.engine = u.engine := h.engine
  cases hstage : t.stage with
  | fresh =>
    by_cases hfree : u.running t.trigger < u.engine.slots
    · simp only [Schedule.take, hstage, if_pos hfree]
      refine .inr ?_
      obtain ⟨i, flags, hi, htimely, hcarries⟩ := carries_place h hfresh fun i hi =>
        hengine ▸ makes_start (by simpa [Task.errand, hstage] using hi)
      exact ⟨i, flags, hi, fun _ => hfree, htimely, hcarries⟩
    · simp only [Schedule.take, hstage, if_neg hfree]
      have hperm : (t :: (u.ready ++ u.aside ++ u.waiting)).Perm
          (u.ready ++ u.aside ++ (u.waiting ++ [t])) := by
        simp only [← List.append_assoc]
        exact (List.perm_append_singleton t _).symm
      exact .inl ⟨h.engine, h.recorded, h.opened.trans (hperm.map Task.errand)⟩
  | admitted =>
    simp only [Schedule.take, hstage]
    refine .inr ?_
    obtain ⟨i, flags, hi, htimely, hcarries⟩ := carries_place h hfresh fun i hi =>
      hengine ▸ makes_start (by simpa [Task.errand, hstage] using hi)
    exact ⟨i, flags, hi, (by cases ·), htimely, hcarries⟩
  | calling progress p pauses =>
    simp only [Task.Sound, hstage] at hsound
    have hintime : false = x.engine.runsOut p.behaviour :=
      hsound.2.1.symm.trans (hsteady.runsOut_eq _).symm
    cases pauses with
    | zero =>
      simp only [Schedule.take, hstage]
      refine .inr ?_
      obtain ⟨i, flags, hi, htimely, hcarries⟩ := carries_place h hfresh fun i hi =>
        hengine ▸ makes_resume (by simpa [Task.errand, hstage] using hi) hintime
      exact ⟨i, flags, hi, (by cases ·), htimely, hcarries⟩
    | succ pauses =>
      simp only [Schedule.take, hstage]
      have hsame : ({ t with stage := .calling progress p pauses } : Task).errand = t.errand := by
        simp [Task.errand, hstage]
      have hperm : (t :: (u.ready ++ u.aside ++ u.waiting)).map Task.errand |>.Perm
          ((u.ready ++ [{ t with stage := .calling progress p pauses }] ++ u.aside ++
            u.waiting).map Task.errand) := by
        simp only [List.map_append, List.map_cons, hsame, List.append_assoc, List.singleton_append]
        exact List.perm_middle.symm
      exact .inl ⟨h.engine, h.recorded, h.opened.trans hperm⟩
  | expired progress p =>
    simp only [Task.Sound, hstage] at hsound
    have hlate : true = x.engine.runsOut p.behaviour :=
      hsound.2.1.symm.trans (hsteady.runsOut_eq _).symm
    simp only [Schedule.take, hstage]
    refine .inr ?_
    obtain ⟨i, flags, hi, htimely, hcarries⟩ := carries_place h hfresh fun i hi =>
      hengine ▸ makes_resume (by simpa [Task.errand, hstage] using hi) hlate
    exact ⟨i, flags, hi, (by cases ·), htimely, hcarries⟩

/-- The tasks that stand aside come back to the queue, or the first task in the queue has its
turn. -/
theorem step_cases {u u' : Schedule} (h : x.Carries u) (hstep : u.step? = some u') :
    x.Carries u' ∨ ∃ t ready, u.ready = t :: ready ∧
      u' = ({ u with ready } : Schedule).take t := by
  cases hready : u.ready with
  | cons t ready =>
    simp only [Schedule.step?, hready, Option.some.injEq] at hstep
    exact .inr ⟨t, ready, rfl, hstep.symm⟩
  | nil =>
    cases haside : u.aside with
    | nil => simp [Schedule.step?, hready, haside] at hstep
    | cons t aside =>
      simp only [Schedule.step?, hready, haside, Option.some.injEq] at hstep
      have hopened := h.opened
      rw [hready, haside, List.nil_append] at hopened
      rw [← hstep]
      refine .inl ⟨h.engine, h.recorded, ?_⟩
      rwa [List.append_nil]

theorem carries_step {s₀ : Engine} {ts : List Task} {u u' : Schedule}
    (hkept : Schedule.Kept s₀ ts u) (h : x.Carries u) (hstep : u.step? = some u') :
    ∃ moves, (x.run moves).Carries u' ∧ (x.run moves).found = x.found := by
  rcases step_cases h hstep with hsame | ⟨t, ready, hready, rfl⟩
  · exact ⟨[], hsame, rfl⟩
  · have hu : u = { ({ u with ready } : Schedule) with ready := t :: ready } := by rw [← hready]
    rw [hu] at hkept h
    rcases carries_take hkept h with hsame | ⟨i, flags, -, -, -, hcarries, hfound⟩
    · exact ⟨[], hsame, rfl⟩
    · exact ⟨_, hcarries, hfound⟩

/-! ## All turns -/

/-- Triggers that arrive before any other step. -/
theorem run_triggers (s : Engine) (v : Value) (contexts : List Value) :
    (opening s []).run (contexts.map (.trigger v ·)) =
      ⟨s, [], (Engine.tasksOf (contexts.map (s.lookUp v))).map (⟨·, .fresh⟩),
        (contexts.map (s.lookUp v)).map .loaded⟩ := by
  induction contexts using List.reverseRecOn with
  | nil => rfl
  | append_singleton contexts context ih =>
    have hfound : ((contexts.map (s.lookUp v)).map Event.loaded).filterMap Event.found? =
        contexts.map (s.lookUp v) := by
      rw [List.filterMap_map]
      exact List.filterMap_some
    rw [List.map_append, run_append, ih]
    simp only [run, List.map_cons, List.map_nil, List.foldl_cons, List.foldl_nil, move, found,
      hfound, List.map_append, Engine.tasksOf_concat]

end System

/-- All turns of a schedule are made of steps. -/
theorem System.carries_run {x : System} {s : Engine} {ts : List Task}
    (hfresh : ∀ t ∈ ts, t.ticket = t) (h : x.Carries { engine := s, ready := ts }) :
    ∃ moves, (x.run moves).Carries (Schedule.run { engine := s, ready := ts }) ∧
      (x.run moves).found = x.found ∧ (x.run moves).isDone = true := by
  obtain ⟨⟨hkept, moves, hcarries, hfound⟩, hend⟩ := Schedule.run_induction
    (P := fun u => Schedule.Kept s ts u ∧
      ∃ moves, (x.run moves).Carries u ∧ (x.run moves).found = x.found)
    (by
      rintro u u' ⟨hkept, moves, hcarries, hfound⟩ hstep
      obtain ⟨more, hcarries', hfound'⟩ := carries_step hkept hcarries hstep
      refine ⟨Schedule.kept_step hkept hstep, moves ++ more, ?_, ?_⟩
      · rwa [run_append]
      · rw [run_append, hfound', hfound])
    { engine := s, ready := ts } ⟨Schedule.kept_start s hfresh, [], h, rfl⟩
  refine ⟨moves, hcarries, hfound, ?_⟩
  obtain ⟨hready, haside, hwaiting⟩ := hkept.idle hend
  have hopened := hcarries.opened
  rw [hready, haside, hwaiting] at hopened
  exact opened_eq_nil_iff.1 (List.perm_nil.1 hopened)

/-- Events that come at the same time are carried out by a system at which the triggers arrive first
and whose errands are then done in some order of steps. -/
theorem Engine.triggerAll_interleaved (s : Engine) (v : Value) (contexts : List Value) :
    ∃ moves, let final := (System.opening s []).run (contexts.map (.trigger v ·) ++ moves)
      let results := final.found.mapIdx (triggered final.recorded)
      final.isDone = true ∧ final.found = contexts.map (s.lookUp v) ∧
        s.triggerAll v contexts =
          (results.map Prod.fst, (results.map Prod.snd).foldl addSpan final.engine) := by
  have hfresh : ∀ t ∈ tasksOf (contexts.map (s.lookUp v)), t.ticket = t := fun t ht =>
    (mem_tasksOf ht).1
  have hstart : ((System.opening s []).run (contexts.map (.trigger v ·))).Carries
      { engine := s, ready := tasksOf (contexts.map (s.lookUp v)) } := by
    have herrands : ∀ t ∈ tasksOf (contexts.map (s.lookUp v)), t.errand = ⟨t, .fresh⟩ := by
      intro t ht
      rw [← hfresh t ht]
      rfl
    rw [System.run_triggers]
    refine ⟨rfl, ?_, .of_eq ?_⟩
    · rw [System.recorded, List.filterMap_map]
      exact List.filterMap_eq_nil_iff.2 fun _ _ => rfl
    · rw [System.opened, List.filter_eq_self.2]
      · simp only [List.append_nil]
        exact (List.map_congr_left herrands).symm
      · intro e he
        obtain ⟨t, -, rfl⟩ := List.mem_map.1 he
        rfl
  obtain ⟨moves, hcarries, hfound, hdone⟩ := System.carries_run hfresh hstart
  rw [← System.run_append] at hcarries hfound hdone
  have hloaded : ((System.opening s []).run (contexts.map (.trigger v ·))).found =
      contexts.map (s.lookUp v) := by
    rw [System.run_triggers, System.found, List.filterMap_map]
    exact List.filterMap_some
  refine ⟨moves, hdone, hfound.trans hloaded, ?_⟩
  rw [hfound, hloaded, hcarries.recorded, hcarries.engine]
  rfl

end Automation
