import Automation.Proofs.Concurrent.Triggers
import Automation.Proofs.Concurrent.Turns

/-!
# The gate of a trigger

The errands of a trigger pass a *gate*: there is a number of permits, an errand takes one when it
starts and gives it back when its execution has been recorded, and one that finds none does not
start.  Apart from that, errands take their turns in any order (`Gate.run`).

Permits are neither made nor lost (`permits_run`), so there are never more errands underway than
there were permits.  There is always a way to the end (`exists_rest`), since while no errand is
underway all the permits are free, and there is one at least.
-/

namespace Automation

/-! ## Gates -/

/-- A system whose errands need permits. -/
structure Gate where
  system : System
  /-- The permits that no errand has. -/
  permits : Nat

namespace Errand

/-- An errand has been started, and its execution has not been recorded yet. -/
def isUnderway (e : Errand) : Bool :=
  match e.phase with
  | .ready _ => true
  | .calling .. => true
  | _ => false

/-- The permits that an errand has. -/
def permits (e : Errand) : Nat := if e.isUnderway then 1 else 0

end Errand

namespace Gate

/-- The errands of a trigger that found some workflows, and a permit for each of those that may be
carried out at a time.  That is one at least. -/
def opening (s : Engine) (m : Match) (limit : Int) : Gate where
  system := (System.opening s []).load (.ok m)
  permits := max 1 limit.toNat

/-- The turn of the errand of a number. -/
def turn (g : Gate) (i : Nat) (expired : Bool) : Gate :=
  match g.system.errands[i]? with
  | none => g
  | some e =>
    match e.phase, e.task.rest, g.permits with
    | .fresh, _, 0 => g
    | .fresh, _, permits + 1 => ⟨g.system.move (.errand i expired), permits⟩
    | .ready _, [], permits => ⟨g.system.move (.errand i expired), permits + 1⟩
    | _, _, permits => ⟨g.system.move (.errand i expired), permits⟩

/-- Turns in an order. -/
def run (g : Gate) (turns : List (Nat × Bool)) : Gate :=
  turns.foldl (fun g turn => g.turn turn.1 turn.2) g

/-- The number of errands that have been started and whose executions have not been recorded. -/
def underway (g : Gate) : Nat := g.system.errands.countP Errand.isUnderway

/-- What has come of the trigger, made from the executions in the order in which they were
recorded. -/
def result (g : Gate) (m : Match) : TriggerResult :=
  (Engine.triggered g.system.recorded 0 (.ok m)).1

/-- Turns in which every action takes as long as its collaborator makes it take. -/
def Timely (g : Gate) : List (Nat × Bool) → Prop
  | [] => True
  | turn :: turns =>
    (∀ e, g.system.errands[turn.1]? = some e → e.IsTimely turn.2 g.system.engine) ∧
      Timely (g.turn turn.1 turn.2) turns

theorem run_append (g : Gate) (earlier later : List (Nat × Bool)) :
    g.run (earlier ++ later) = (g.run earlier).run later :=
  List.foldl_append

theorem timely_append {g : Gate} {earlier later : List (Nat × Bool)} (h : g.Timely earlier)
    (h' : (g.run earlier).Timely later) : g.Timely (earlier ++ later) := by
  induction earlier generalizing g with
  | nil => exact h'
  | cons turn earlier ih => exact ⟨h.1, ih h.2 h'⟩

variable {g : Gate} {i : Nat} {e : Errand} {expired : Bool}

/-- An errand finds no permit and nothing happens, or it makes a step and takes or gives back the
permit that it needs or does not need any more. -/
theorem turn_cases (g : Gate) (i : Nat) (expired : Bool) :
    g.turn i expired = g ∨ ∃ e, g.system.errands[i]? = some e ∧
      (g.turn i expired).system = g.system.move (.errand i expired) ∧
      (g.turn i expired).permits + (e.step expired g.system.engine).1.permits =
        g.permits + e.permits := by
  rw [turn]
  cases he : g.system.errands[i]? with
  | none => exact .inl rfl
  | some e =>
    obtain ⟨t, phase⟩ := e
    cases phase with
    | fresh =>
      cases hpermits : g.permits with
      | zero => exact .inl rfl
      | succ permits => exact .inr ⟨_, rfl, rfl, rfl⟩
    | ready progress =>
      cases hrest : t.rest with
      | nil =>
        simp only [hrest]
        refine .inr ⟨_, rfl, trivial, ?_⟩
        simp only [Errand.step, hrest]
        rfl
      | cons a rest =>
        simp only [hrest]
        refine .inr ⟨_, rfl, trivial, ?_⟩
        simp only [Errand.step, hrest]
        generalize (g.system.engine.begin a t.context _).1 = begun
        cases begun <;> rfl
    | calling progress p => exact .inr ⟨_, rfl, rfl, rfl⟩
    | finished f => exact .inr ⟨_, rfl, rfl, rfl⟩

/-- A step of an errand changes what is underway by what it changes of the permits of the errand. -/
theorem underway_set {xs : List Errand} (he : xs[i]? = some e) (e' : Errand) :
    (xs.set i e').countP Errand.isUnderway + e.permits =
      xs.countP Errand.isUnderway + e'.permits := by
  have hbefore := (perm_cons_eraseIdx he).countP_eq Errand.isUnderway
  have hafter := (set_perm_cons_eraseIdx he e').countP_eq Errand.isUnderway
  rw [List.countP_cons] at hbefore hafter
  simp only [Errand.permits]
  omega

/-- No permit is made or lost in a turn. -/
theorem permits_turn (g : Gate) (i : Nat) (expired : Bool) :
    (g.turn i expired).permits + (g.turn i expired).underway = g.permits + g.underway := by
  rcases g.turn_cases i expired with hsame | ⟨e, he, hsystem, hpermits⟩
  · rw [hsame]
  · have hset := underway_set he (e.step expired g.system.engine).1
    rw [underway, hsystem, System.move_errand he]
    simp only [underway] at hset ⊢
    omega

theorem permits_run (g : Gate) (turns : List (Nat × Bool)) :
    (g.run turns).permits + (g.run turns).underway = g.permits + g.underway := by
  induction turns generalizing g with
  | nil => rfl
  | cons turn turns ih => exact (ih _).trans (g.permits_turn turn.1 turn.2)

/-- An errand of a trigger that has not had a turn. -/
theorem exists_task {s : Engine} {m : Match} {limit : Int}
    (he : e ∈ (opening s m limit).system.errands) : ∃ t ∈ m.tasks 0, e = ⟨t, .fresh⟩ := by
  obtain ⟨t, ht, rfl⟩ := List.mem_map.1 he
  exact ⟨t, ht, rfl⟩

theorem underway_opening (s : Engine) (m : Match) (limit : Int) :
    (opening s m limit).underway = 0 := by
  rw [underway, List.countP_eq_zero]
  intro e he
  obtain ⟨t, -, rfl⟩ := exists_task he
  exact Bool.false_ne_true

/-- All the permits are held by errands that are underway, or by none. -/
theorem permits_opening (s : Engine) (m : Match) (limit : Int) (turns : List (Nat × Bool)) :
    ((opening s m limit).run turns).permits + ((opening s m limit).run turns).underway =
      max 1 limit.toNat := by
  rw [permits_run, underway_opening]
  rfl

/-! ## What is told of a run -/

/-- What every step of an errand keeps is kept by a run. -/
theorem run_induction {P : System → Prop}
    (hstep : ∀ x i expired, P x → P (x.move (.errand i expired))) (g : Gate)
    (turns : List (Nat × Bool)) (h : P g.system) : P (g.run turns).system := by
  induction turns generalizing g with
  | nil => exact h
  | cons turn turns ih =>
    have hturn : P (g.turn turn.1 turn.2).system := by
      rcases g.turn_cases turn.1 turn.2 with hsame | ⟨e, he, hsystem, -⟩
      · rwa [hsame]
      · rw [hsystem]
        exact hstep _ _ _ h
    exact ih _ hturn

theorem accounted_run (s : Engine) (m : Match) (limit : Int) (turns : List (Nat × Bool)) :
    System.Accounted s ((opening s m limit).run turns).system :=
  run_induction (fun _ i expired h => h.errand i expired) _ turns
    ((System.accounted_opening s []).load (.ok m))

theorem found_run (s : Engine) (m : Match) (limit : Int) (turns : List (Nat × Bool)) :
    ((opening s m limit).run turns).system.found = [.ok m] := by
  refine run_induction (P := fun x => x.found = [.ok m]) ?_ _ turns (System.found_load _ _)
  intro x i expired h
  rw [x.found_move, h]
  rfl

end Gate

/-- The errand has begun an action, and its execution has not been recorded. -/
def System.isAtWork (x : System) (e : Errand) : Bool :=
  !(x.begun e.task.trigger e.task.place).isEmpty && e.finished?.isNone

/-- An errand begins its first action after its start. -/
theorem Errand.Follows.isUnderway {x : System} {e : Errand} (h : e.Follows x.history)
    (hatWork : x.isAtWork e = true) : e.isUnderway = true := by
  obtain ⟨t, phase⟩ := e
  obtain ⟨done, -, hagrees, hbegun⟩ := h
  simp only [System.isAtWork, System.begun, hbegun, Bool.and_eq_true] at hatWork
  cases phase with
  | fresh =>
    obtain rfl : done = [] := hagrees
    simp at hatWork
  | ready progress => rfl
  | calling progress p => rfl
  | finished f => cases hatWork.2

namespace Gate

theorem atWork_le_underway (s : Engine) (m : Match) (limit : Int) (turns : List (Nat × Bool)) :
    let final := (opening s m limit).run turns
    final.system.errands.countP final.system.isAtWork ≤ final.underway := by
  intro final
  refine List.countP_mono_left fun e he hatWork => ?_
  exact ((accounted_run s m limit turns).follows e he).isUnderway hatWork

/-- When all is done, the executions in the order of the workflows make up the result, in whatever
order they were recorded. -/
theorem exists_runs (s : Engine) (m : Match) (limit : Int) (turns : List (Nat × Bool)) :
    let final := (opening s m limit).run turns
    final.system.isDone = true → ∃ runs, List.Forall₂ Task.Performs (m.tasks 0) runs ∧
      runs.Perm final.system.recorded ∧ final.result m = Engine.resultOf m runs := by
  intro final hdone
  have haccounted := accounted_run s m limit turns
  have hfound : final.system.found = [.ok m] := found_run s m limit turns
  have hfirst : final.system.found[0]? = some (.ok m) := by
    rw [hfound]
    rfl
  obtain ⟨runs, hruns, hperm, hresult⟩ := haccounted.runs hdone hfirst
  refine ⟨runs, hruns, ?_, hresult⟩
  have hall : final.system.recordedBy 0 = final.system.recorded := by
    rw [System.recordedBy, List.filter_eq_self]
    intro f hf
    obtain ⟨t, ht, hperforms⟩ := exists_mem_of_forall₂ (haccounted.performs hdone) f
      (haccounted.recorded.mem_iff.1 hf)
    rw [hfound, Engine.tasksOf_singleton] at ht
    rw [hperforms.trigger, (Match.mem_tasks ht).2.1]
    rfl
  rwa [hall] at hperm

end Gate

/-! ## Turns that lead on -/

/-- The number of steps that an errand makes at most. -/
def Errand.stepsLeft (e : Errand) : Nat :=
  match e.phase with
  | .fresh => 2 * e.task.rest.length + 2
  | .ready _ => 2 * e.task.rest.length + 1
  | .calling .. => 2 * e.task.rest.length + 2
  | .finished _ => 0

theorem Errand.stepsLeft_step {e : Errand} (hleft : e.finished? = none) (expired : Bool)
    (s : Engine) : (e.step expired s).1.stepsLeft < e.stepsLeft := by
  obtain ⟨t, phase⟩ := e
  cases phase with
  | fresh => exact Nat.lt_succ_self _
  | ready progress =>
    cases hrest : t.rest with
    | nil =>
      simp only [step, hrest, stepsLeft]
      exact Nat.succ_pos _
    | cons a rest =>
      simp only [step, hrest, stepsLeft]
      generalize (s.begin a t.context _).1 = begun
      cases begun with
      | settled r => exact Nat.lt_of_lt_of_eq (Nat.lt_add_of_pos_right Nat.two_pos) rfl
      | pending p => exact Nat.lt_succ_self _
  | calling progress p => exact Nat.lt_succ_self _
  | finished f => cases hleft

/-- An errand that has made a step has been started. -/
theorem Errand.phase_step_ne_fresh {e : Errand} {expired : Bool} {s : Engine} :
    (e.step expired s).1.phase ≠ .fresh := by
  intro hfresh
  obtain ⟨t, phase⟩ := e
  cases phase with
  | ready progress =>
    cases hrest : t.rest with
    | nil =>
      simp only [step, hrest] at hfresh
      cases hfresh
    | cons a rest =>
      simp only [step, hrest] at hfresh
      generalize (s.begin a t.context _).1 = begun at hfresh
      cases begun <;> cases hfresh
  | _ => cases hfresh

namespace Gate

variable {g : Gate}

/-- The number of steps that all errands make at most. -/
def stepsLeft (g : Gate) : Nat := (g.system.errands.map Errand.stepsLeft).sum

/-- Whether the time of the action for which an errand waits runs out. -/
def expires (g : Gate) (i : Nat) : Bool :=
  match (g.system.errands[i]?).map Errand.phase with
  | some (.calling _ p) => g.system.engine.runsOut p.behaviour
  | _ => false

/-- An errand makes a step in its turn if it has been started or finds a permit. -/
theorem system_turn {i : Nat} {e : Errand} (he : g.system.errands[i]? = some e)
    (hpermit : e.phase = .fresh → 0 < g.permits) (expired : Bool) :
    (g.turn i expired).system = g.system.move (.errand i expired) := by
  rw [turn, he]
  obtain ⟨t, phase⟩ := e
  cases phase with
  | fresh =>
    obtain ⟨permits, hpermits⟩ := Nat.exists_eq_succ_of_ne_zero (hpermit rfl).ne'
    simp only [hpermits]
  | ready progress =>
    cases hrest : t.rest with
    | nil => simp only [hrest]
    | cons a rest => simp only [hrest]
  | calling progress p => rfl
  | finished f => rfl

/-- Steps of an errand that has been started, or finds a permit, are turns. -/
theorem run_steps {i : Nat} (flags : List Bool) :
    ∀ {g : Gate} {e : Errand}, g.system.errands[i]? = some e →
      (e.phase = .fresh → 0 < g.permits) →
      (g.run (flags.map (i, ·))).system = g.system.steps i flags ∧
        (g.system.Timely i flags → g.Timely (flags.map (i, ·))) := by
  induction flags with
  | nil => exact fun _ _ => ⟨rfl, fun _ => trivial⟩
  | cons expired flags ih =>
    intro g e he hpermit
    have hi : i < g.system.errands.length := (List.getElem?_eq_some_iff.1 he).1
    have hsystem := system_turn he hpermit expired
    have he' : (g.turn i expired).system.errands[i]? =
        some (e.step expired g.system.engine).1 := by
      rw [hsystem, System.move_errand he]
      exact List.getElem?_set_self hi
    obtain ⟨hrun, htimely⟩ := ih he' fun hfresh => absurd hfresh Errand.phase_step_ne_fresh
    rw [hsystem] at hrun htimely
    exact ⟨hrun, fun h => ⟨h.1, htimely h.2⟩⟩

/-- As long as not all is done, some errand can make a step: one that is underway, or one that takes
a permit, since all of them are free while none is underway. -/
theorem exists_turn (hpermits : 0 < g.permits + g.underway) (hleft : g.system.isDone = false) :
    ∃ (i : Nat) (e : Errand), g.system.errands[i]? = some e ∧ e.finished? = none ∧
      (e.phase = .fresh → 0 < g.permits) := by
  rcases Nat.eq_zero_or_pos g.underway with hnone | hsome
  · obtain ⟨e, he, hunfinished⟩ := List.all_eq_false.1 hleft
    obtain ⟨i, hi⟩ := List.getElem?_of_mem he
    exact ⟨i, e, hi, by simpa using hunfinished, fun _ => by omega⟩
  · obtain ⟨⟨t, phase⟩, he, hunderway⟩ := List.countP_pos_iff.1 hsome
    obtain ⟨i, hi⟩ := List.getElem?_of_mem he
    refine ⟨i, ⟨t, phase⟩, hi, ?_, ?_⟩
    · cases phase with
      | finished f => cases hunderway
      | _ => rfl
    · rintro rfl
      cases hunderway

theorem stepsLeft_turn {i : Nat} {e : Errand} (he : g.system.errands[i]? = some e)
    (hleft : e.finished? = none) (hpermit : e.phase = .fresh → 0 < g.permits) (expired : Bool) :
    (g.turn i expired).stepsLeft < g.stepsLeft := by
  have hbefore := ((perm_cons_eraseIdx he).map Errand.stepsLeft).sum_nat
  have hafter := ((set_perm_cons_eraseIdx he (e.step expired g.system.engine).1).map
    Errand.stepsLeft).sum_nat
  have hless := e.stepsLeft_step hleft expired g.system.engine
  rw [stepsLeft, stepsLeft, system_turn he hpermit, System.move_errand he]
  simp only [List.map_cons, List.sum_cons] at hbefore hafter ⊢
  omega

/-- Where there are permits, free ones or held ones, some timely turns lead to the end. -/
theorem exists_rest (g : Gate) (hpermits : 0 < g.permits + g.underway) :
    ∃ more, (g.run more).system.isDone = true ∧ g.Timely more := by
  induction hsteps : g.stepsLeft using Nat.strong_induction_on generalizing g with
  | _ n ih =>
    cases hdone : g.system.isDone with
    | true => exact ⟨[], hdone, trivial⟩
    | false =>
      obtain ⟨i, e, he, hleft, hpermit⟩ := exists_turn hpermits hdone
      have hless := stepsLeft_turn he hleft hpermit (g.expires i)
      obtain ⟨more, hmore, htimely⟩ := ih _ (hsteps ▸ hless) (g.turn i (g.expires i))
        (g.permits_turn i (g.expires i) ▸ hpermits) rfl
      refine ⟨(i, g.expires i) :: more, hmore, fun u hu progress p hphase => ?_, htimely⟩
      simp only [expires, hu, Option.map_some, hphase]

end Gate

end Automation
