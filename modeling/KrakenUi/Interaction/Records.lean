import KrakenUi.Interaction.Serial

namespace Interaction

/-!
# Runs with a record of their calls

A record lists the calls of a run, newest first, with the states around them.
What is said about the record of every complete run is said about every call
that any run makes, provided that a program can always be run to an end.
-/

variable {S : Signature} {State α : Type}

/-- A call of a run, between two states. -/
structure Taken (S : Signature) (State : Type) where
  before : State
  command : S.Command
  after : State

/-- The effect of a call, which is put on record. -/
def recorded (effect : Effect S State) : Effect S (State × List (Taken S State)) :=
  fun before command reply after =>
    effect before.1 command reply after.1 ∧
      after.2 = ⟨before.1, command, after.1⟩ :: before.2

/-- The effect of the calls that are made where they may be. -/
def guarded (effect : Effect S State) (allowed : State -> S.Command -> Prop) : Effect S State :=
  fun before command reply after => effect before command reply after ∧ allowed before command

/-- Every call can end somehow. -/
def Total (effect : Effect S State) : Prop :=
  forall state command, Exists fun reply => Exists fun after => effect state command reply after

section Records

variable {effect : Effect S State} {program : Program S α} {outcome : Option α}
  {state after : State × List (Taken S State)} {taken : Taken S State}

theorem recorded_here {before : State} {log : List (Taken S State)} {command : S.Command}
    {reply : Option (S.Reply command)} {disk : State} (acted : effect before command reply disk) :
    recorded effect (before, log) command reply (disk, ⟨before, command, disk⟩ :: log) :=
  ⟨acted, rfl⟩

/-- Nothing is taken off the record. -/
theorem record_grows (run : Completes (recorded effect) program state outcome after) :
    forall taken, taken ∈ state.2 -> taken ∈ after.2 := by
  induction run with
  | done value state => exact fun _ member => member
  | fails failed =>
      intro taken member
      rw [failed.2]
      exact List.mem_cons_of_mem _ member
  | step answered _ inductionHypothesis =>
      intro taken member
      apply inductionHypothesis
      rw [answered.2]
      exact List.mem_cons_of_mem _ member

/-- A program can be run to an end from every state. -/
theorem exists_completes (total : Total effect) (program : Program S α)
    (state : State × List (Taken S State)) :
    Exists fun outcome => Exists fun after =>
      Completes (recorded effect) program state outcome after := by
  induction program generalizing state with
  | done value => exact ⟨some value, state, Completes.done value state⟩
  | call command next inductionHypothesis =>
      rcases total state.1 command with ⟨reply, disk, acted⟩
      cases reply with
      | none => exact ⟨none, _, Completes.fails (recorded_here acted)⟩
      | some reply =>
          rcases inductionHypothesis reply (disk, _ :: state.2) with ⟨outcome, after, rest⟩
          exact ⟨outcome, after, Completes.step (recorded_here acted) rest⟩

/-- A call on record could have ended in any other way. -/
theorem exists_otherwise (total : Total effect)
    (run : Completes (recorded effect) program state outcome after) (member : taken ∈ after.2)
    (fresh : taken ∉ state.2) {reply : S.Reply taken.command} {disk : State}
    (acted : effect taken.before taken.command (some reply) disk) :
    Exists fun outcome => Exists fun after =>
      Completes (recorded effect) program state outcome after ∧
        Taken.mk taken.before taken.command disk ∈ after.2 := by
  induction run with
  | done value state => exact absurd member fresh
  | @fails command next state after failed =>
      rw [failed.2] at member
      rcases List.mem_cons.mp member with rfl | old
      · rcases exists_completes total (next reply) (disk, ⟨state.1, command, disk⟩ :: state.2) with
            ⟨outcome, last, rest⟩
        exact ⟨outcome, last, Completes.step (recorded_here acted) rest,
          record_grows rest _ List.mem_cons_self⟩
      · exact absurd old fresh
  | @step command next reply' outcome state between after answered rest inductionHypothesis =>
      by_cases here : taken ∈ between.2
      · rw [answered.2] at here
        rcases List.mem_cons.mp here with rfl | old
        · rcases exists_completes total (next reply) (disk, ⟨state.1, command, disk⟩ :: state.2)
              with ⟨outcome, last, rest⟩
          exact ⟨outcome, last, Completes.step (recorded_here acted) rest,
            record_grows rest _ List.mem_cons_self⟩
        · exact absurd old fresh
      · rcases inductionHypothesis member here with ⟨outcome, last, run, found⟩
        exact ⟨outcome, last, Completes.step answered run, found⟩

/-- A run all of whose calls are allowed is a run of allowed calls. -/
theorem completes_guarded {allowed : State -> S.Command -> Prop}
    (run : Completes (recorded effect) program state outcome after)
    (meets : forall taken, taken ∈ after.2 -> allowed taken.before taken.command) :
    Completes (recorded (guarded effect allowed)) program state outcome after := by
  induction run with
  | done value state => exact Completes.done value state
  | fails failed =>
      apply Completes.fails
      have here := meets ⟨_, _, _⟩ (failed.2 ▸ List.mem_cons_self)
      exact ⟨⟨failed.1, here⟩, failed.2⟩
  | step answered rest inductionHypothesis =>
      apply Completes.step _ (inductionHypothesis meets)
      have here := meets ⟨_, _, _⟩ (record_grows rest _ (answered.2 ▸ List.mem_cons_self))
      exact ⟨⟨answered.1, here⟩, answered.2⟩

/-- A run in which each call does what it is told, recorded. -/
def enact (act : State -> (command : S.Command) -> Option (S.Reply command) × State) :
    Program S α -> State × List (Taken S State) -> Option α × State × List (Taken S State)
  | .done value, state => (some value, state)
  | .call command next, state =>
      let after := (act state.1 command).2
      let log := ⟨state.1, command, after⟩ :: state.2
      match (act state.1 command).1 with
      | none => (none, after, log)
      | some reply => enact act (next reply) (after, log)

theorem enact_completes {act : State -> (command : S.Command) -> Option (S.Reply command) × State}
    (acts : forall state command, effect state command (act state command).1 (act state command).2)
    (program : Program S α) (state : State × List (Taken S State)) :
    Completes (recorded effect) program state (enact act program state).1
      (enact act program state).2 := by
  induction program generalizing state with
  | done value => exact Completes.done value state
  | call command next inductionHypothesis =>
      have acted := acts state.1 command
      simp only [enact]
      cases answered : (act state.1 command).1 with
      | none =>
          rw [answered] at acted
          exact Completes.fails (recorded_here acted)
      | some reply =>
          rw [answered] at acted
          exact Completes.step (recorded_here acted) (inductionHypothesis reply _)

end Records
end Interaction
