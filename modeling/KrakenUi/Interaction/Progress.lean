import KrakenUi.Interaction.Semantics

namespace Interaction

variable {S : Signature} {M : Semantics S} {α : Type}

/-!
# Commands that a program does not miss

A contract says what a program may do.  That it does something is a statement
about all choices of the environment: whatever it draws, the program comes to
the command.  `Issues` says so of a program that runs alone.  The environment
is held to some of its draws, and one of them must be possible at each command
on the way, so a program that gets stuck does not issue anything.

`Delivers` says that a program that runs alone comes to its end, and what holds
there.
-/

/-- Run alone from the state, the program comes to the command. -/
def Issues (draws : M.Draw -> Prop) (wanted : S.Command) :
    Program S α -> M.State -> M.Held -> Prop
  | .done _, _, _ => False
  | .call command next, state, held =>
      command = wanted ∨
        ((Exists fun draw => draws draw ∧ (M.perform state held command draw).isSome = true) ∧
          forall draw reply after rest, draws draw ->
            M.perform state held command draw = some (reply, after, rest) ->
            Issues draws wanted (next reply) after rest)

namespace Issues

variable {draws : M.Draw -> Prop} {wanted : S.Command} {state after : M.State}
  {held rest : M.Held}

theorem here (next : S.Reply wanted -> Program S α) :
    Issues draws wanted (.call wanted next) state held :=
  Or.inl rfl

/-- A command with the same outcome for every draw. -/
theorem step {command : S.Command} {next : S.Reply command -> Program S α}
    {reply : S.Reply command} (possible : Exists fun draw => draws draw)
    (answers : forall draw, draws draw ->
      M.perform state held command draw = some (reply, after, rest))
    (later : Issues draws wanted (next reply) after rest) :
    Issues draws wanted (.call command next) state held := by
  right
  constructor
  · rcases possible with ⟨draw, allowed⟩
    refine ⟨draw, allowed, ?_⟩
    rw [answers draw allowed]
    rfl
  · intro draw reply' after' rest' allowed performed
    rw [answers draw allowed] at performed
    cases performed
    exact later

/-- A program that never uses the command does not come to it. -/
theorem not_of_only {program : Program S α} (only : program.Only fun command => command ≠ wanted) :
    ¬ Issues draws wanted program state held := by
  induction program generalizing state held with
  | done value => exact id
  | call command next inductionHypothesis =>
      rcases (Program.only_call _ _ _).mp only with ⟨other, later⟩
      intro issues
      rcases issues with same | ⟨⟨draw, allowed, possible⟩, continued⟩
      · exact other same
      · rcases Option.isSome_iff_exists.mp possible with ⟨⟨reply, after, rest⟩, performed⟩
        exact inductionHypothesis reply (later reply)
          (continued draw reply after rest allowed performed)

end Issues

/-- Run alone from the state, the program ends whatever the environment draws,
and its end is as it should be. -/
def Delivers (post : α -> M.State -> M.Held -> Prop) : Program S α -> M.State -> M.Held -> Prop
  | .done value, state, held => post value state held
  | .call command next, state, held =>
      (forall draw, (M.perform state held command draw).isSome = true) ∧
        forall draw reply after rest,
          M.perform state held command draw = some (reply, after, rest) ->
          Delivers post (next reply) after rest

namespace Delivers

variable {β : Type} {post : α -> M.State -> M.Held -> Prop} {state after : M.State}
  {held rest : M.Held}

/-- A command with the same outcome for every draw. -/
theorem step {command : S.Command} {next : S.Reply command -> Program S α}
    {reply : S.Reply command}
    (answers : forall draw, M.perform state held command draw = some (reply, after, rest))
    (later : Delivers post (next reply) after rest) :
    Delivers post (.call command next) state held := by
  constructor
  · intro draw
    rw [answers draw]
    rfl
  · intro draw reply' after' rest' performed
    rw [answers draw] at performed
    cases performed
    exact later

theorem mono {weaker : α -> M.State -> M.Held -> Prop} {program : Program S α}
    (delivers : Delivers post program state held)
    (implies : forall value after rest, post value after rest -> weaker value after rest) :
    Delivers weaker program state held := by
  induction program generalizing state held with
  | done value => exact implies value state held delivers
  | call command next inductionHypothesis =>
      refine ⟨delivers.1, ?_⟩
      intro draw reply after rest performed
      exact inductionHypothesis reply (delivers.2 draw reply after rest performed)

/-- A sequence delivers what its second part delivers at the end of its first part. -/
theorem bind {program : Program S β} {next : β -> Program S α}
    {middle : β -> M.State -> M.Held -> Prop} (first : Delivers middle program state held)
    (second : forall value after rest, middle value after rest ->
      Delivers post (next value) after rest) :
    Delivers post (program >>= next) state held := by
  induction program generalizing state held with
  | done value => exact second value state held first
  | call command continuation inductionHypothesis =>
      refine ⟨first.1, ?_⟩
      intro draw reply after rest performed
      exact inductionHypothesis reply (first.2 draw reply after rest performed)

end Delivers
end Interaction
