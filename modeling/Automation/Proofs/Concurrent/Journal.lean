import Automation.Proofs.Action.Calls
import Automation.Proofs.Concurrent.Account
import Mathlib.Data.List.ReduceOption

/-!
# What errands ask of collaborators

An action asks for the one call that its filled configuration wants, as the engine routes it at that
time, or for none (`Engine.AsksFor`).  A step of an errand that begins an action puts what it asks
for into the journal of the engine, and no other step puts anything there
(`System.exists_asked_move`).  So the journal of a run is that of the actions in its history, one
after the other (`System.exists_asked_run`): what was begun is what was asked for.
-/

namespace Automation

/-- What an action asks for in an event: a call if it wants one that can be routed. -/
def Engine.AsksFor (s : Engine) (a : Action) (context : Value) (asked : Option Call) : Prop :=
  ∀ made, asked = some made ↔ ∃ t filled wanted,
    Wants context s.limits.webhookTimeout a.type (.mapping a.config) t filled wanted ∧
      s.route wanted = .ok made

namespace Engine

/-- An action that is begun puts what it asks for into the journal. -/
theorem journal_begin (s : Engine) (a : Action) (context : Value) (place : Place) :
    ∃ asked, s.AsksFor a context asked ∧
      (s.begin a context place).2.journal = s.journal ++ asked.toList := by
  have hasks : ∀ made, (∃ t wanted, s.Asks a context t wanted made) ↔ ∃ t filled wanted,
      Wants context s.limits.webhookTimeout a.type (.mapping a.config) t filled wanted ∧
        s.route wanted = .ok made := by
    intro made
    constructor
    · rintro ⟨t, wanted, h⟩
      obtain ⟨⟨filled, hwants⟩, hroute⟩ := asks_iff.1 h
      exact ⟨t, filled, wanted, hwants, hroute⟩
    · rintro ⟨t, filled, wanted, hwants, hroute⟩
      exact ⟨t, wanted, asks_iff.2 ⟨⟨filled, hwants⟩, hroute⟩⟩
  rcases s.begin_cases a context place with ⟨text, hnone, -, h⟩ | ⟨t, wanted, made, hmade, h⟩
  · refine ⟨none, fun made => ?_, ?_⟩
    · rw [← hasks]
      exact iff_of_false nofun fun ⟨t, wanted, hmade⟩ => hnone t wanted made hmade
    · rw [h, Option.toList_none, List.append_nil]
      rfl
  · refine ⟨some made, fun made' => ?_, ?_⟩
    · rw [← hasks]
      constructor
      · rintro ⟨⟩
        exact ⟨t, wanted, hmade⟩
      · rintro ⟨t', wanted', hmade'⟩
        rw [(hmade.unique hmade').2.2]
    · rw [h]
      exact s.journal_make place t s.ticks wanted made

/-- Nothing is asked for while an execution is recorded. -/
theorem journal_conclude (t : Task) (progress : Progress) (s : Engine) :
    (t.conclude progress s).2.journal = s.journal := by
  rcases s.issue.2.record_cases (t.recordOf progress s) with
    ⟨-, hrecord⟩ | ⟨-, failure, hrecord, -⟩
  · rw [Task.conclude_of_ok hrecord]
    rfl
  · rw [Task.conclude_of_error hrecord]
    rfl

end Engine

/-- The action that was begun, and the event. -/
def Event.action? : Event → Option (Action × Value)
  | .began _ _ a context => some (a, context)
  | _ => none

/-- What a step of an errand puts into the journal is what the action asks for that it begins, if it
begins one. -/
theorem Errand.exists_asked_step (e : Errand) (expired : Bool) (s : Engine) :
    ∃ asked, List.Forall₂ (fun b => s.AsksFor b.1 b.2)
        ((e.step expired s).2.1.toList.filterMap Event.action?) asked ∧
      (e.step expired s).2.2.journal = s.journal ++ asked.reduceOption := by
  obtain ⟨t, phase⟩ := e
  cases phase with
  | fresh => exact ⟨[], .nil, (List.append_nil _).symm⟩
  | ready progress =>
    cases hrest : t.rest with
    | nil =>
      refine ⟨[], ?_, ?_⟩
      · simp only [step, hrest]
        exact .nil
      · simp only [step, hrest, Engine.journal_conclude]
        exact (List.append_nil _).symm
    | cons a rest =>
      obtain ⟨asked, hasked, hjournal⟩ :=
        s.journal_begin a t.context ⟨t.definition.id, progress.results.length⟩
      refine ⟨[asked], ?_, ?_⟩
      · simp only [step, hrest]
        exact .cons hasked .nil
      · simp only [step, hrest, hjournal]
        cases asked <;> rfl
  | calling progress p =>
    exact ⟨[], .nil, (s.journal_finish p expired).trans (List.append_nil _).symm⟩
  | finished f => exact ⟨[], .nil, (List.append_nil _).symm⟩

namespace System

/-- The actions that were begun, with the events, in the order in which they were. -/
def actions (s : System) : List (Action × Value) := s.history.filterMap Event.action?

/-- An action with an event asks for something in an engine that some steps come by. -/
def AsksAlong (s : System) (moves : List Move) (begun : Action × Value) (asked : Option Call) :
    Prop :=
  ∃ earlier later, moves = earlier ++ later ∧
    (s.run earlier).engine.AsksFor begun.1 begun.2 asked

/-- What a step puts into the journal is what the actions ask for that it begins. -/
theorem exists_asked_move (s : System) (m : Move) :
    ∃ begun asked, (s.move m).actions = s.actions ++ begun ∧
      List.Forall₂ (fun b => s.engine.AsksFor b.1 b.2) begun asked ∧
      (s.move m).engine.journal = s.engine.journal ++ asked.reduceOption := by
  cases m with
  | errand i expired =>
    cases he : s.errands[i]? with
    | none => exact ⟨[], [], by simp [move, he], .nil, by simp [move, he]⟩
    | some e =>
      obtain ⟨asked, hasked, hjournal⟩ := e.exists_asked_step expired s.engine
      refine ⟨_, asked, ?_, hasked, ?_⟩
      · simp only [move, he, actions, List.filterMap_append]
      · simp only [move, he, hjournal]
  | trigger v context => exact ⟨[], [], List.filterMap_append, .nil, (List.append_nil _).symm⟩
  | caller i => exact ⟨[], [], (List.append_nil _).symm, .nil, (List.append_nil _).symm⟩
  | pass w => exact ⟨[], [], (List.append_nil _).symm, .nil, (List.append_nil _).symm⟩

/-- What a run puts into the journal is what the actions ask for that it begins, one after the
other, each in the engine as it was at that time. -/
theorem exists_asked_run (s : System) (moves : List Move) :
    ∃ begun asked, (s.run moves).actions = s.actions ++ begun ∧
      List.Forall₂ (s.AsksAlong moves) begun asked ∧
      (s.run moves).engine.journal = s.engine.journal ++ asked.reduceOption := by
  induction moves using List.reverseRecOn with
  | nil => exact ⟨[], [], by simp [run], .nil, by simp [run]⟩
  | append_singleton moves m ih =>
    obtain ⟨begun, asked, hactions, hasked, hjournal⟩ := ih
    obtain ⟨begun', asked', hactions', hasked', hjournal'⟩ := (s.run moves).exists_asked_move m
    have hrun : s.run (moves ++ [m]) = (s.run moves).move m := s.run_append moves [m]
    refine ⟨begun ++ begun', asked ++ asked', ?_, List.rel_append ?_ ?_, ?_⟩
    · rw [hrun, hactions', hactions, List.append_assoc]
    · refine hasked.imp fun b c => ?_
      rintro ⟨earlier, later, rfl, h⟩
      exact ⟨earlier, later ++ [m], List.append_assoc .., h⟩
    · exact hasked'.imp fun b c h => ⟨moves, [m], rfl, h⟩
    · rw [hrun, hjournal', hjournal, List.reduceOption_append, List.append_assoc]

end System

end Automation
