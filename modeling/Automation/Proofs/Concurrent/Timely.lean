import Automation.Proofs.Concurrent.Gate
import Automation.Proofs.Trigger.OneByOne

/-!
# Workflows in any order

Turns are *timely* if every action takes as long as its collaborator makes it take.  Then an errand
has done so far what its actions come to (`Errand.Sound`), whatever others do meanwhile, and one
that is done has completed its task.  So the books of the trigger are right after any timely turns
(`Gate.Kept`), and at the end they agree with those of carrying out the workflows one after the
other (`Gate.agrees_run`).
-/

namespace Automation

/-! ## Steps in time -/

namespace Errand

/-- An errand has done so far what its actions come to. -/
def Sound (s₀ : Engine) (e : Errand) : Prop :=
  match e.phase with
  | .fresh => e.task.rest = e.task.definition.actions
  | .ready progress => progress.triggeredAt = s₀.clock ∧
      ∃ done, e.task.definition.actions = done ++ e.task.rest ∧
        s₀.CarriedOut e.task.context e.task.definition.id done progress.results
  | .calling progress p => e.task.Underway s₀ progress p (s₀.runsOut p.behaviour)
  | .finished _ => True

/-- What a timely step of an errand leads to. -/
inductive Leads (s₀ : Engine) (e : Errand) (s : Engine) :
    Errand × Option Event × Engine → Prop where
  | idle (finished : e.finished?.isSome = true) : Leads s₀ e s (e, none, s)
  | onward {e' : Errand} {event : Option Event} {s' : Engine}
      (left : e.finished? = none) (left' : e'.finished? = none)
      (ticket : e'.task.ticket = e.task.ticket) (sound : e'.Sound s₀)
      (untold : event.toList.filterMap Event.recorded? = []) (quiet : s.Quiet s') :
      Leads s₀ e s (e', event, s')
  | done {progress : Progress} (left : e.finished? = none)
      (completes : e.task.Completes s₀ (e.task.conclude progress s).1) :
      Leads s₀ e s (⟨e.task, .finished (e.task.conclude progress s).1⟩,
        some (.recorded (e.task.conclude progress s).1), (e.task.conclude progress s).2)

theorem leads_step {s₀ s : Engine} {e : Errand} {expired : Bool} (hsteady : s₀.Steady s)
    (hsound : e.Sound s₀) (htimely : e.IsTimely expired s) : e.Leads s₀ s (e.step expired s) := by
  obtain ⟨t, phase⟩ := e
  cases phase with
  | fresh => exact .onward rfl rfl rfl ⟨hsteady.clock, [], hsound.symm, .nil⟩ rfl (.refl s)
  | ready progress =>
    obtain ⟨htime, done, hactions, hdone⟩ := hsound
    cases hrest : t.rest with
    | nil =>
      have hall : t.definition.actions = done := by simpa [hrest] using hactions
      simp only [step, hrest]
      obtain - | - | ⟨completes, -⟩ := Task.leads_conclude (s := s) htime (hall ▸ hdone)
      exact .done rfl completes
    | cons a rest =>
      simp only [hrest] at hactions
      have hquiet := s.quiet_begin a t.context ⟨t.definition.id, progress.results.length⟩
      simp only [step, hrest]
      cases hbegin : s.begin a t.context ⟨t.definition.id, progress.results.length⟩ with
      | mk begun s' =>
        rw [hbegin] at hquiet
        cases begun with
        | settled r =>
          refine .onward rfl rfl rfl ⟨htime, done ++ [a], ?_, hdone.snoc (.settled hsteady hbegin)⟩
            rfl hquiet
          simpa using hactions
        | pending p =>
          exact .onward rfl rfl rfl
            ⟨htime, rfl, done, a, hactions, hdone, s, s', hsteady, hbegin⟩ rfl hquiet
  | calling progress p =>
    obtain rfl : expired = s₀.runsOut p.behaviour :=
      (htimely progress p rfl).trans (hsteady.runsOut_eq _)
    obtain ⟨htime, -, done, a, hactions, hdone, hawaits⟩ := hsound
    refine .onward rfl rfl rfl ⟨htime, done ++ [a], ?_, hdone.snoc (.finished hawaits hsteady)⟩ rfl
      (s.quiet_finish p _)
    simpa using hactions
  | finished f => exact .idle rfl

end Errand

/-! ## Books -/

namespace Gate

variable {s₀ : Engine} {m : Match} {g : Gate}

/-- The books of the trigger are right: what its errands have recorded so far, and what is left. -/
structure Kept (s₀ : Engine) (m : Match) (x : System) : Prop where
  books : Schedule.Books s₀ (m.tasks 0) x.engine x.recorded
    (x.opened.map fun e => e.task.ticket)
  sound : ∀ e ∈ x.errands, e.Sound s₀
  foretold : s₀.Numbered → ∀ f ∈ x.recorded, s₀.Foretells f

/-- The tasks that are left when an errand has made a step: its own if the errand is not done, and
those that were left before. -/
theorem Kept.left {x : System} (h : Kept s₀ m x) {i : Nat} {e : Errand}
    (he : x.errands[i]? = some e) (hleft : e.finished? = none) :
    ∃ others, Schedule.Books s₀ (m.tasks 0) x.engine x.recorded (e.task.ticket :: others) ∧
      ∀ (e' : Errand) (s : Engine) (events : List Event),
        (if e'.finished?.isNone then e'.task.ticket :: others else others).Perm
          ((System.opened ⟨s, x.callers, x.errands.set i e', x.history ++ events⟩).map
            fun e => e.task.ticket) := by
  have hbefore := (perm_cons_eraseIdx he).filter fun e => e.finished?.isNone
  rw [List.filter_cons, hleft] at hbefore
  refine ⟨_, h.books.perm (hbefore.map fun e : Errand => e.task.ticket), fun e' s events => ?_⟩
  have hafter := (set_perm_cons_eraseIdx he e').filter fun e => e.finished?.isNone
  rw [List.filter_cons] at hafter
  have htickets := (hafter.map fun e : Errand => e.task.ticket).symm
  split
  · rename_i hopen
    rwa [if_pos hopen] at htickets
  · rename_i hdone
    rwa [if_neg hdone] at htickets

/-- A timely step of an errand keeps the books right. -/
theorem Kept.errand {x : System} (h : Kept s₀ m x) {i : Nat} {e : Errand} {expired : Bool}
    (he : x.errands[i]? = some e) (htimely : e.IsTimely expired x.engine) :
    Kept s₀ m (x.move (.errand i expired)) := by
  have hsound : e.Sound s₀ := h.sound e (List.mem_of_getElem? he)
  have hleads := Errand.leads_step h.books.steady hsound htimely
  have hothers : ∀ e' : Errand, e'.Sound s₀ → ∀ u ∈ x.errands.set i e', u.Sound s₀ := by
    intro e' hsound' u hu
    rcases List.mem_or_eq_of_mem_set hu with hu | rfl
    · exact h.sound u hu
    · exact hsound'
  rw [System.move_errand he]
  generalize e.step expired x.engine = result at hleads
  cases hleads with
  | idle finished =>
    have hsame : x.errands.set i e = x.errands := by
      obtain ⟨hi, rfl⟩ := List.getElem?_eq_some_iff.1 he
      exact List.set_getElem_self hi
    simpa [hsame] using h
  | @onward e' event s' left left' ticket sound untold quiet =>
    obtain ⟨others, hbooks, htickets⟩ := h.left he left
    have hopened := htickets e' s' event.toList
    simp only [left', Option.isNone_none, if_true] at hopened
    have hrecorded : System.recorded ⟨s', x.callers, x.errands.set i e',
        x.history ++ event.toList⟩ = x.recorded := by
      rw [x.recorded_append, untold, List.append_nil]
    have hafter : Schedule.Books s₀ (m.tasks 0) s' x.recorded (e'.task.ticket :: others) :=
      hbooks.suspend rfl ticket quiet
    exact ⟨hrecorded.symm ▸ hafter.perm hopened, hothers e' sound, hrecorded.symm ▸ h.foretold⟩
  | @done progress left completes =>
    obtain ⟨others, hbooks, htickets⟩ := h.left he left
    have hopened := htickets ⟨e.task, .finished (e.task.conclude progress x.engine).1⟩
      (e.task.conclude progress x.engine).2 [.recorded (e.task.conclude progress x.engine).1]
    have hrecorded := x.recorded_append (e.task.conclude progress x.engine).2 x.callers
      (x.errands.set i ⟨e.task, .finished (e.task.conclude progress x.engine).1⟩)
      [.recorded (e.task.conclude progress x.engine).1]
    have hafter := hbooks.finish completes.ticket (e.task.concludes_conclude progress x.engine)
    refine ⟨hrecorded.symm ▸ hafter.perm hopened, hothers _ trivial, fun hnumbered => ?_⟩
    rw [Option.toList_some, hrecorded]
    refine List.forall_mem_append.2 ⟨h.foretold hnumbered, List.forall_mem_singleton.2 ?_⟩
    have hbackend : x.engine.log.backend = s₀.log.backend := by rw [hbooks.log]
    exact Engine.foretells_conclude hbooks.steady hbackend (hbooks.fresh hnumbered) _ _

theorem opened_opening (s : Engine) (m : Match) (limit : Int) :
    (opening s m limit).system.opened = (m.tasks 0).map (⟨·, .fresh⟩) := by
  refine List.filter_eq_self.2 fun e he => ?_
  obtain ⟨t, -, rfl⟩ := exists_task he
  rfl

theorem kept_opening (s : Engine) (m : Match) (limit : Int) :
    Kept s m (opening s m limit).system := by
  have htickets : (opening s m limit).system.opened.map (fun e => e.task.ticket) = m.tasks 0 := by
    rw [opened_opening, List.map_map]
    exact (List.map_congr_left (m.ticket_tasks 0)).trans (List.map_id _)
  refine ⟨?_, fun e he => ?_, fun _ => List.forall_mem_nil _⟩
  · rw [htickets]
    exact s.books_tasks m
  · obtain ⟨t, ht, rfl⟩ := exists_task he
    exact (congrArg Task.rest (m.ticket_tasks 0 t ht)).symm

theorem kept_run (h : Kept s₀ m g.system) {turns : List (Nat × Bool)} (htimely : g.Timely turns) :
    Kept s₀ m (g.run turns).system := by
  induction turns generalizing g with
  | nil => exact h
  | cons turn turns ih =>
    obtain ⟨hturn, hrest⟩ := htimely
    have hkept : Kept s₀ m (g.turn turn.1 turn.2).system := by
      rcases g.turn_cases turn.1 turn.2 with hsame | ⟨e, he, hsystem, -⟩
      · rwa [hsame]
      · rw [hsystem]
        exact h.errand he (hturn e he)
    exact ih hkept hrest

/-- Where no collaborator takes too long, turns in which no time runs out are timely. -/
theorem timely_of_fixed {outcomes : Place → Behaviour} (hfixed : s₀.Fixed outcomes)
    (hintime : ∀ place, s₀.runsOut (outcomes place) = false) (h : Kept s₀ m g.system)
    {turns : List (Nat × Bool)} (hturns : ∀ turn ∈ turns, turn.2 = false) : g.Timely turns := by
  induction turns generalizing g with
  | nil => trivial
  | cons turn turns ih =>
    have hturn : ∀ e, g.system.errands[turn.1]? = some e → e.IsTimely turn.2 g.system.engine := by
      rintro ⟨t, phase⟩ he progress p rfl
      obtain ⟨-, -, done, a, -, -, hawaits⟩ := h.sound _ (List.mem_of_getElem? he)
      obtain ⟨t', -, hbehaviour⟩ := hawaits.made hfixed
      rw [hturns turn List.mem_cons_self, hbehaviour, h.books.steady.runsOut_eq, hintime]
    have hkept : Kept s₀ m (g.run [turn]).system := kept_run h ⟨hturn, trivial⟩
    exact ⟨hturn, ih hkept fun u hu => hturns u (List.mem_cons_of_mem turn hu)⟩

/-- When all is done in time, the trigger has come to what it comes to one after the other. -/
theorem agrees_run {s : Engine} {limit : Int} {turns : List (Nat × Bool)}
    (hindependent : s.Independent) (hnumbered : s.Numbered)
    (htimely : (opening s m limit).Timely turns)
    (hdone : ((opening s m limit).run turns).system.isDone = true)
    (hmeasured : s.log.backend = .database →
      ∀ f ∈ ((opening s m limit).run turns).system.recorded ++ (Task.performAll (m.tasks 0) s).1,
        f.IsMeasured) :
    (s.oneByOne m).Agrees (((opening s m limit).run turns).result m) := by
  have hkept := kept_run (kept_opening s m limit) htimely
  have hbooks := hkept.books
  rw [System.opened_eq_nil_iff.2 hdone] at hbooks
  exact Engine.agrees_oneByOne hindependent hnumbered hbooks (hkept.foretold hnumbered) hmeasured

end Gate

end Automation
