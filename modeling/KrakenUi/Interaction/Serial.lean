import KrakenUi.Interaction.Program

namespace Interaction

/-!
# Programs that run one at a time

When nothing else happens while a program runs, its runs are a relation between
the states before and after.  A command either answers or fails, and a program
ends with its value or at the command that fails.

`Ensures` says what holds after every such run from one state.  It has one rule
for each way to build a program, so a proof about a handler follows its text.
-/

variable {S : Signature} {State α β : Type}

/-- What one command may do to a state, with its reply or without one. -/
abbrev Effect (S : Signature) (State : Type) :=
  State -> (command : S.Command) -> Option (S.Reply command) -> State -> Prop

/-- Complete runs of a program, with its value unless a command failed. -/
inductive Completes (effect : Effect S State) : Program S α -> State -> Option α -> State -> Prop
  | done (value : α) (state : State) :
      Completes effect (.done value) state (some value) state
  | fails {command : S.Command} {next : S.Reply command -> Program S α} {state after : State}
      (failed : effect state command none after) :
      Completes effect (.call command next) state none after
  | step {command : S.Command} {next : S.Reply command -> Program S α}
      {reply : S.Reply command} {outcome : Option α} {state between after : State}
      (answered : effect state command (some reply) between)
      (rest : Completes effect (next reply) between outcome after) :
      Completes effect (.call command next) state outcome after

/-- What holds after a run that may have failed. -/
def Outcome (post : α -> State -> Prop) (broken : State -> Prop) : Option α -> State -> Prop
  | some value, state => post value state
  | none, state => broken state

/-- Every complete run from the state ends as it should. -/
def Ensures (effect : Effect S State) (broken : State -> Prop) (program : Program S α)
    (state : State) (post : α -> State -> Prop) : Prop :=
  forall outcome after, Completes effect program state outcome after ->
    Outcome post broken outcome after

namespace Ensures

variable {effect : Effect S State} {broken : State -> Prop} {state : State}

theorem pure {value : α} {post : α -> State -> Prop} (holds : post value state) :
    Ensures effect broken (Pure.pure value : Program S α) state post := by
  intro outcome after completed
  cases completed with
  | done => exact holds

theorem call {command : S.Command} {next : S.Reply command -> Program S α}
    {post : α -> State -> Prop}
    (fails : forall after, effect state command none after -> broken after)
    (answers : forall reply after, effect state command (some reply) after ->
      Ensures effect broken (next reply) after post) :
    Ensures effect broken (.call command next) state post := by
  intro outcome after completed
  cases completed with
  | fails failed => exact fails after failed
  | step answered rest => exact answers _ _ answered _ _ rest

theorem mono {program : Program S α} {post weaker : α -> State -> Prop}
    (ensures : Ensures effect broken program state post)
    (implies : forall value after, post value after -> weaker value after) :
    Ensures effect broken program state weaker := by
  intro outcome after completed
  have holds := ensures outcome after completed
  cases outcome with
  | none => exact holds
  | some value => exact implies value after holds

/-- A sequence ensures what its second part ensures after its first part. -/
theorem bind {program : Program S α} {next : α -> Program S β} {middle : α -> State -> Prop}
    {post : β -> State -> Prop} (first : Ensures effect broken program state middle)
    (second : forall value after, middle value after ->
      Ensures effect broken (next value) after post) :
    Ensures effect broken (program >>= next) state post := by
  induction program generalizing state with
  | done value => exact second value state (first _ _ (Completes.done value state))
  | call command rest inductionHypothesis =>
      apply call
      · intro after failed
        exact first _ _ (Completes.fails failed)
      · intro reply after answered
        apply inductionHypothesis
        intro outcome last completed
        exact first outcome last (Completes.step answered completed)

/-- What every permitted command keeps holds after the program. -/
theorem only {allowed : S.Command -> Prop} {invariant : State -> Prop}
    (kept : forall state command reply after, invariant state -> allowed command ->
      effect state command reply after -> invariant after)
    (fallen : forall state, invariant state -> broken state)
    {program : Program S α} (permitted : program.Only allowed) (holds : invariant state) :
    Ensures effect broken program state (fun _ after => invariant after) := by
  induction program generalizing state with
  | done value => exact pure holds
  | call command next inductionHypothesis =>
      rcases (Program.only_call _ _ _).mp permitted with ⟨first, later⟩
      apply call
      · intro after failed
        exact fallen after (kept state command none after holds first failed)
      · intro reply after answered
        exact inductionHypothesis reply (later reply)
          (kept state command (some reply) after holds first answered)

end Ensures

/-- The states after any number of complete runs. -/
inductive Serves {Request : Type} (effect : Request -> Effect S State)
    (answers : Request -> Program S α -> Prop) (start : State) : State -> Prop
  | here : Serves effect answers start start
  | next {state after : State} {request : Request} {program : Program S α} {outcome : Option α}
      (served : Serves effect answers start state) (answered : answers request program)
      (completed : Completes (effect request) program state outcome after) :
      Serves effect answers start after

/-- What every request keeps, whether or not it fails, holds after all of them. -/
theorem Serves.keeps {Request : Type} {effect : Request -> Effect S State}
    {answers : Request -> Program S α -> Prop} {start state : State} {invariant : State -> Prop}
    (initial : invariant start)
    (kept : forall request program state, answers request program -> invariant state ->
      Ensures (effect request) invariant program state (fun _ => invariant))
    (served : Serves effect answers start state) : invariant state := by
  induction served with
  | here => exact initial
  | @next before after request program outcome _ answered completed inductionHypothesis =>
      have holds := kept _ _ _ answered inductionHypothesis _ _ completed
      cases outcome with
      | none => exact holds
      | some value => exact holds

end Interaction
