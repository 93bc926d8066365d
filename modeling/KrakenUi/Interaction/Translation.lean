import KrakenUi.Interaction.Program

namespace Interaction
namespace Program

variable {S T : Signature} {α β : Type}

/-!
# Commands that stand for programs

A program over one signature becomes a program over another when every command
is replaced by a program that computes its reply.  A call of a function can so
be one command in one place and the commands of the function in another.
-/

/-- Every command replaced by a program. -/
def translate (meaning : (command : S.Command) -> Program T (S.Reply command)) :
    Program S α -> Program T α
  | done value => done value
  | call command next =>
      (meaning command).bind fun reply => (next reply).translate meaning

variable {meaning : (command : S.Command) -> Program T (S.Reply command)}

@[simp] theorem translate_pure (value : α) :
    (pure value : Program S α).translate meaning = pure value := rfl

@[simp] theorem translate_done (value : α) :
    (done value : Program S α).translate meaning = done value := rfl

@[simp] theorem translate_call (command : S.Command) (next : S.Reply command -> Program S α) :
    (call command next).translate meaning =
      (meaning command >>= fun reply => (next reply).translate meaning) := rfl

@[simp] theorem translate_perform (command : S.Command) :
    (perform command).translate meaning = meaning command :=
  bind_done (meaning command)

theorem translate_bind (program : Program S α) (next : α -> Program S β) :
    (program >>= next).translate meaning =
      (program.translate meaning >>= fun value => (next value).translate meaning) := by
  induction program with
  | done value => rfl
  | call command rest inductionHypothesis =>
      rw [call_bind, translate_call, translate_call, bind_assoc]
      congr 1
      funext reply
      exact inductionHypothesis reply

/-- A command that stands for itself. -/
theorem translate_self (program : Program S α) : program.translate perform = program := by
  induction program with
  | done value => rfl
  | call command next inductionHypothesis =>
      rw [translate_call, perform_bind]
      congr 1
      funext reply
      exact inductionHypothesis reply

variable {U : Signature} {further : (command : T.Command) -> Program U (T.Reply command)}

/-- Two translations after each other. -/
theorem translate_translate (program : Program S α) :
    (program.translate meaning).translate further =
      program.translate fun command => (meaning command).translate further := by
  induction program with
  | done value => rfl
  | call command next inductionHypothesis =>
      rw [translate_call, translate_bind, translate_call]
      congr 1
      funext reply
      exact inductionHypothesis reply

/-- A translation of commands into commands that may be issued. -/
theorem Only.translate {allowed : S.Command -> Prop} {permitted : T.Command -> Prop}
    {program : Program S α} (only : program.Only allowed)
    (means : forall command, allowed command -> (meaning command).Only permitted) :
    (program.translate meaning).Only permitted := by
  induction program with
  | done value => exact only_pure permitted value
  | call command next inductionHypothesis =>
      rcases (only_call _ _ _).mp only with ⟨first, later⟩
      rw [translate_call]
      exact (means command first).bind fun reply => inductionHypothesis reply (later reply)

end Program
end Interaction
