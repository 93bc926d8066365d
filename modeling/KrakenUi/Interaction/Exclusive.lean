import KrakenUi.Interaction.Throughout
import Mathlib.Data.List.Basic

namespace Interaction

/-!
# One task at a time

A service is asked to start a task.  It does so unless one is under way, which a
flag of its state tells, and the task takes the flag back at its end.  Any
number of requests may come at any time, also between two commands of the task.

The flag and the tasks are two different things.  That they agree is what has to
be proved: then the commands of a task follow each other as if nothing else
happened, and what holds all through the task holds in every run.
-/

variable {S : Signature} {State : Type}

structure Exclusive (S : Signature) (State : Type) where
  busy : State -> Bool
  /-- The flag is set. -/
  claim : State -> State
  task : Program S Unit

namespace Exclusive

/-- The state and what is left of the tasks that are not over. -/
structure Config (S : Signature) (State : Type) where
  state : State
  tasks : List (Program S Unit)

/-- A task that is over is gone. -/
def unfinished : Program S Unit -> List (Program S Unit)
  | .done _ => []
  | .call command next => [.call command next]

/-- Everything that can happen next. -/
inductive Moves (service : Exclusive S State) (acts : Acts S State) :
    Config S State -> Config S State -> Prop
  | started {config : Config S State} (free : service.busy config.state = false) :
      Moves service acts config
        ⟨service.claim config.state, unfinished service.task ++ config.tasks⟩
  | refused {config : Config S State} (busy : service.busy config.state = true) :
      Moves service acts config config
  /-- Somebody has looked at the state. -/
  | asked (config : Config S State) : Moves service acts config config
  | worked {state after : State} {command : S.Command} {next : S.Reply command -> Program S Unit}
      {reply : S.Reply command} {before later : List (Program S Unit)}
      (acted : acts state command reply after) :
      Moves service acts ⟨state, before ++ .call command next :: later⟩
        ⟨after, before ++ unfinished (next reply) ++ later⟩

inductive Reaches (service : Exclusive S State) (acts : Acts S State) (start : Config S State) :
    Config S State -> Prop
  | here : Reaches service acts start start
  | next {config after : Config S State} (reached : Reaches service acts start config)
      (moved : Moves service acts config after) : Reaches service acts start after

/-- The service rests, or it works on exactly one task that goes as it should. -/
def Orderly (service : Exclusive S State) (acts : Acts S State) (holds rests : State -> Prop)
    (config : Config S State) : Prop :=
  (config.tasks = [] ∧ rests config.state) ∨
    Exists fun command => Exists fun next =>
      config.tasks = [.call command next] ∧
        Throughout acts (fun state => holds state ∧ service.busy state = true)
          (.call command next) config.state (fun _ => rests)

section Runs

variable {service : Exclusive S State} {acts : Acts S State} {holds rests : State -> Prop}
  {config after : Config S State}

theorem orderly_unfinished {program : Program S Unit} {state : State}
    (throughout : Throughout acts (fun state => holds state ∧ service.busy state = true)
      program state (fun _ => rests)) :
    service.Orderly acts holds rests ⟨state, unfinished program⟩ := by
  cases program with
  | done value => exact Or.inl ⟨rfl, throughout.ended⟩
  | call command next => exact Or.inr ⟨command, next, rfl, throughout⟩

theorem Orderly.moves (orderly : service.Orderly acts holds rests config)
    (task : forall state, rests state ->
      Throughout acts (fun state => holds state ∧ service.busy state = true) service.task
        (service.claim state) (fun _ => rests))
    (moved : Moves service acts config after) : service.Orderly acts holds rests after := by
  cases moved with
  | asked => exact orderly
  | refused busy => exact orderly
  | started idle =>
      rcases orderly with ⟨none, rest⟩ | ⟨command, next, -, throughout⟩
      · rw [none, List.append_nil]
        exact orderly_unfinished (task config.state rest)
      · have busy := throughout.here.2
        rw [idle] at busy
        cases busy
  | @worked state after command next reply before later acted =>
      rcases orderly with ⟨none, rest⟩ | ⟨command', next', one, throughout⟩
      · exact absurd none (List.append_ne_nil_of_right_ne_nil _ (List.cons_ne_nil _ _))
      · -- the one task is the one that has worked
        rcases List.append_eq_singleton_iff.mp one with ⟨rfl, same⟩ | ⟨-, impossible⟩
        · cases same
          rw [List.nil_append, List.append_nil]
          exact orderly_unfinished (throughout.later acted)
        · cases impossible

/-- If all tasks go as they should, at most one is under way, and what holds
throughout them and between them holds in every configuration that is reached. -/
theorem Reaches.always {start : State} (reached : Reaches service acts ⟨start, []⟩ config)
    (begins : rests start) (between : forall state, rests state -> holds state)
    (task : forall state, rests state ->
      Throughout acts (fun state => holds state ∧ service.busy state = true) service.task
        (service.claim state) (fun _ => rests)) :
    config.tasks.length ≤ 1 ∧ holds config.state := by
  have orderly : service.Orderly acts holds rests config := by
    induction reached with
    | here => exact Or.inl ⟨rfl, begins⟩
    | next _ moved inductionHypothesis => exact inductionHypothesis.moves task moved
  rcases orderly with ⟨none, rest⟩ | ⟨command, next, one, throughout⟩
  · rw [none]
    exact ⟨Nat.zero_le 1, between _ rest⟩
  · rw [one]
    exact ⟨Nat.le_refl 1, throughout.here.1⟩

/-- The state at the end of a program, as long as its commands can be performed. -/
def finish (act : State -> (command : S.Command) -> Option (S.Reply command × State)) :
    Program S Unit -> State -> Option State
  | .done _, state => some state
  | .call command next, state =>
      match act state command with
      | none => none
      | some (reply, after) => finish act (next reply) after

/-- A task can be finished without anything else happening. -/
theorem reaches_finish
    {act : State -> (command : S.Command) -> Option (S.Reply command × State)}
    {lawful : State -> Prop}
    (acted : forall state command reply after, lawful state ->
      act state command = some (reply, after) ->
        acts state command reply after ∧ lawful after)
    {start : Config S State} {program : Program S Unit} {state last : State}
    (begins : lawful state)
    (reached : Reaches service acts start ⟨state, unfinished program⟩)
    (finished : finish act program state = some last) :
    Reaches service acts start ⟨last, []⟩ := by
  induction program generalizing state with
  | done value =>
      cases finished
      exact reached
  | call command next inductionHypothesis =>
      rw [finish] at finished
      cases performed : act state command with
      | none =>
          rw [performed] at finished
          cases finished
      | some result =>
          rcases result with ⟨reply, after⟩
          rw [performed] at finished
          have one := acted state command reply after begins performed
          apply inductionHypothesis reply one.2 _ finished
          have moved := Reaches.next reached
            (@Moves.worked _ _ service acts _ _ _ next _ [] [] one.1)
          rwa [List.nil_append, List.append_nil] at moved

end Runs

end Exclusive
end Interaction
