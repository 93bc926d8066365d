import KrakenUi.Interaction.Program

namespace Interaction

/-!
# What holds all the time

A program whose commands cannot be undone is judged at each of its commands, not
only at its end.  `Throughout` says that something holds whenever a command is
about to be performed, and what holds when the program is over.

A program that may stop with an error is an attempt.  Its judgement has one end
for the value and one for the error, so a sequence of attempts is taken apart
without asking each time how the first one went.
-/

variable {S : Signature} {State ε α β : Type}

/-- What a command may do to a state, with its reply. -/
abbrev Acts (S : Signature) (State : Type) :=
  State -> (command : S.Command) -> S.Reply command -> State -> Prop

/-- The acts that meet a condition. -/
def Acts.meeting (acts meets : Acts S State) : Acts S State := fun before command reply after =>
  acts before command reply after ∧ meets before command reply after

/-- Something holds at every command, and the program ends as it should. -/
def Throughout (acts : Acts S State) (holds : State -> Prop) :
    Program S α -> State -> (α -> State -> Prop) -> Prop
  | .done value, state, post => post value state
  | .call command next, state, post => holds state ∧ forall reply after,
      acts state command reply after -> Throughout acts holds (next reply) after post

namespace Throughout

variable {acts : Acts S State} {holds : State -> Prop} {state : State}

theorem done {value : α} {post : α -> State -> Prop} (ends : post value state) :
    Throughout acts holds (.done value) state post := ends

theorem call {command : S.Command} {next : S.Reply command -> Program S α}
    {post : α -> State -> Prop} (here : holds state)
    (later : forall reply after, acts state command reply after ->
      Throughout acts holds (next reply) after post) :
    Throughout acts holds (.call command next) state post :=
  ⟨here, later⟩

theorem ended {value : α} {post : α -> State -> Prop}
    (throughout : Throughout acts holds (.done value) state post) : post value state := throughout

theorem here {command : S.Command} {next : S.Reply command -> Program S α}
    {post : α -> State -> Prop}
    (throughout : Throughout acts holds (.call command next) state post) : holds state :=
  throughout.1

theorem later {command : S.Command} {next : S.Reply command -> Program S α}
    {post : α -> State -> Prop} {reply : S.Reply command} {after : State}
    (throughout : Throughout acts holds (.call command next) state post)
    (acted : acts state command reply after) : Throughout acts holds (next reply) after post :=
  throughout.2 reply after acted

theorem mono {program : Program S α} {post weaker : α -> State -> Prop}
    (throughout : Throughout acts holds program state post)
    (implies : forall value after, post value after -> weaker value after) :
    Throughout acts holds program state weaker := by
  induction program generalizing state with
  | done value => exact implies value state throughout
  | call command next inductionHypothesis =>
      apply call throughout.here
      intro reply after acted
      exact inductionHypothesis reply (throughout.later acted)

theorem bind {program : Program S α} {next : α -> Program S β} {middle : α -> State -> Prop}
    {post : β -> State -> Prop} (first : Throughout acts holds program state middle)
    (second : forall value after, middle value after ->
      Throughout acts holds (next value) after post) :
    Throughout acts holds (program >>= next) state post := by
  induction program generalizing state with
  | done value => exact second value state first
  | call command rest inductionHypothesis =>
      apply call first.here
      intro reply after acted
      exact inductionHypothesis reply (first.later acted)

end Throughout

/-! ## Endures -/

/-- A program that may stop with an error. -/
abbrev Fallible (S : Signature) (ε α : Type) := ExceptT ε (Program S) α

namespace Fallible

/-- A command whose reply may be an error. -/
def ask (command : S.Command) (reads : S.Reply command -> Except ε α) : Fallible S ε α :=
  ExceptT.mk (.call command fun reply => .done (reads reply))

/-- A command that cannot fail. -/
def tell (command : S.Command) : Fallible S ε (S.Reply command) := ask command .ok

/-- What has been computed already. -/
def given (outcome : Except ε α) : Fallible S ε α := ExceptT.mk (.done outcome)

/-- A program over another signature, each of whose commands is an attempt. -/
def within {T : Signature} (meaning : (command : T.Command) -> Fallible S ε (T.Reply command)) :
    Program T α -> Fallible S ε α
  | .done value => pure value
  | .call command next => meaning command >>= fun reply => within meaning (next reply)

/-- The end of an attempt. -/
def Ends (good : α -> State -> Prop) (bad : State -> Prop) : Except ε α -> State -> Prop
  | .ok value, state => good value state
  | .error _, state => bad state

end Fallible

/-- Something holds at every command of the attempt, which ends well or badly. -/
def Endures (acts : Acts S State) (holds : State -> Prop) (attempt : Fallible S ε α)
    (state : State)
    (good : α -> State -> Prop) (bad : State -> Prop) : Prop :=
  Throughout acts holds attempt.run state (Fallible.Ends good bad)

namespace Endures

variable {acts : Acts S State} {holds : State -> Prop} {state : State} {bad : State -> Prop}

theorem pure {value : α} {good : α -> State -> Prop} (ends : good value state) :
    Endures acts holds (Pure.pure value : Fallible S ε α) state good bad :=
  Throughout.done ends

theorem throw {error : ε} {good : α -> State -> Prop} (ends : bad state) :
    Endures acts holds (MonadExcept.throw error : Fallible S ε α) state good bad :=
  Throughout.done ends

theorem given {outcome : Except ε α} {good : α -> State -> Prop}
    (ends : Fallible.Ends good bad outcome state) :
    Endures acts holds (Fallible.given outcome) state good bad :=
  Throughout.done ends

theorem ask {command : S.Command} {reads : S.Reply command -> Except ε α}
    {good : α -> State -> Prop} (here : holds state)
    (ends : forall reply after, acts state command reply after ->
      Fallible.Ends good bad (reads reply) after) :
    Endures acts holds (Fallible.ask command reads) state good bad :=
  Throughout.call here fun reply after acted => Throughout.done (ends reply after acted)

theorem tell {command : S.Command} {good : S.Reply command -> State -> Prop} (here : holds state)
    (ends : forall reply after, acts state command reply after -> good reply after) :
    Endures acts holds (Fallible.tell command : Fallible S ε _) state good bad :=
  ask here ends

theorem mono {attempt : Fallible S ε α} {good better : α -> State -> Prop} {worse : State -> Prop}
    (attempts : Endures acts holds attempt state better worse)
    (well : forall value after, better value after -> good value after)
    (badly : forall after, worse after -> bad after) :
    Endures acts holds attempt state good bad := by
  apply Throughout.mono attempts
  intro outcome after ends
  cases outcome with
  | ok value => exact well value after ends
  | error error => exact badly after ends

/-- An attempt goes on after a good end only. -/
theorem bind {attempt : Fallible S ε α} {next : α -> Fallible S ε β} {middle : α -> State -> Prop}
    {good : β -> State -> Prop} (first : Endures acts holds attempt state middle bad)
    (second : forall value after, middle value after ->
      Endures acts holds (next value) after good bad) :
    Endures acts holds (attempt >>= next) state good bad := by
  apply Throughout.bind first
  intro outcome after ends
  cases outcome with
  | ok value => exact second value after ends
  | error error => exact Throughout.done ends

/-- What every permitted command keeps, however it ends, holds all the time. -/
theorem within {T : Signature} {meaning : (command : T.Command) -> Fallible S ε (T.Reply command)}
    {allowed : T.Command -> Prop} {invariant : State -> Prop}
    (kept : forall command before, allowed command -> invariant before ->
      Endures acts holds (meaning command) before (fun _ => invariant) invariant)
    {program : Program T α} (permitted : program.Only allowed) (start : invariant state) :
    Endures acts holds (Fallible.within meaning program) state (fun _ => invariant) invariant := by
  induction program generalizing state with
  | done value => exact pure start
  | call command next inductionHypothesis =>
      rcases (Program.only_call _ _ _).mp permitted with ⟨first, rest⟩
      apply bind (kept command state first start)
      intro reply after holdsAfter
      exact inductionHypothesis reply (rest reply) holdsAfter

end Endures

-- From here on programs are taken apart by the rules, never by computing them.
attribute [irreducible] Throughout

end Interaction
