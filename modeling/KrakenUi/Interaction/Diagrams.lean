import KrakenUi.Interaction.Exclusive

namespace Interaction

/-!
# Programs that follow a diagram

A diagram has stages.  At each stage some commands are allowed, and a command
with its reply leads to the next stage.  Whether a program follows a diagram is
seen from the program alone, without a meaning for its commands.

What the stages say about the state is a matter of the meaning.  If every
allowed command respects it, then in every run of a service whose task follows
the diagram there is a stage for the state, and whatever the task does next is
allowed there.
-/

variable {S : Signature} {State Stage ε α β : Type}

structure Diagram (S : Signature) (Stage : Type) where
  allows : Stage -> S.Command -> Prop
  leads : Stage -> (command : S.Command) -> S.Reply command -> Stage

/-- All commands are allowed, and the program ends where it should. -/
def Follows (diagram : Diagram S Stage) : Program S α -> Stage -> (α -> Stage -> Prop) -> Prop
  | .done value, stage, post => post value stage
  | .call command next, stage, post => diagram.allows stage command ∧
      forall reply, Follows diagram (next reply) (diagram.leads stage command reply) post

namespace Follows

variable {diagram : Diagram S Stage} {stage : Stage}

theorem done {value : α} {post : α -> Stage -> Prop} (ends : post value stage) :
    Follows diagram (.done value) stage post := ends

theorem call {command : S.Command} {next : S.Reply command -> Program S α}
    {post : α -> Stage -> Prop} (allowed : diagram.allows stage command)
    (later : forall reply, Follows diagram (next reply) (diagram.leads stage command reply) post) :
    Follows diagram (.call command next) stage post :=
  ⟨allowed, later⟩

theorem ended {value : α} {post : α -> Stage -> Prop}
    (follows : Follows diagram (.done value) stage post) : post value stage := follows

theorem allowed {command : S.Command} {next : S.Reply command -> Program S α}
    {post : α -> Stage -> Prop} (follows : Follows diagram (.call command next) stage post) :
    diagram.allows stage command := follows.1

theorem later {command : S.Command} {next : S.Reply command -> Program S α}
    {post : α -> Stage -> Prop} (follows : Follows diagram (.call command next) stage post)
    (reply : S.Reply command) :
    Follows diagram (next reply) (diagram.leads stage command reply) post := follows.2 reply

theorem mono {program : Program S α} {post weaker : α -> Stage -> Prop}
    (follows : Follows diagram program stage post)
    (implies : forall value stage, post value stage -> weaker value stage) :
    Follows diagram program stage weaker := by
  induction program generalizing stage with
  | done value => exact implies value stage follows
  | call command next inductionHypothesis =>
      apply call follows.allowed
      intro reply
      exact inductionHypothesis reply (follows.later reply)

theorem bind {program : Program S α} {next : α -> Program S β} {middle : α -> Stage -> Prop}
    {post : β -> Stage -> Prop} (first : Follows diagram program stage middle)
    (second : forall value stage, middle value stage -> Follows diagram (next value) stage post) :
    Follows diagram (program >>= next) stage post := by
  induction program generalizing stage with
  | done value => exact second value stage first
  | call command rest inductionHypothesis =>
      apply call first.allowed
      intro reply
      exact inductionHypothesis reply (first.later reply)

end Follows

/-! ## Attempts -/

/-- The attempt follows the diagram, to a good end or to a bad one. -/
def Walks (diagram : Diagram S Stage) (attempt : Fallible S ε α) (stage : Stage)
    (good : α -> Stage -> Prop) (bad : Stage -> Prop) : Prop :=
  Follows diagram attempt.run stage (Fallible.Ends good bad)

namespace Walks

variable {diagram : Diagram S Stage} {stage : Stage} {good : α -> Stage -> Prop}
  {bad : Stage -> Prop}

theorem pure {value : α} (ends : good value stage) :
    Walks diagram (Pure.pure value : Fallible S ε α) stage good bad :=
  Follows.done ends

theorem throw {error : ε} (ends : bad stage) :
    Walks diagram (MonadExcept.throw error : Fallible S ε α) stage good bad :=
  Follows.done ends

theorem given {outcome : Except ε α} (ends : Fallible.Ends good bad outcome stage) :
    Walks diagram (Fallible.given outcome) stage good bad :=
  Follows.done ends

theorem ask {command : S.Command} {reads : S.Reply command -> Except ε α}
    (allowed : diagram.allows stage command)
    (ends : forall reply, Fallible.Ends good bad (reads reply)
      (diagram.leads stage command reply)) :
    Walks diagram (Fallible.ask command reads) stage good bad :=
  Follows.call allowed fun reply => Follows.done (ends reply)

/-- An attempt goes on after a good end only. -/
theorem bind {attempt : Fallible S ε β} {next : β -> Fallible S ε α} {middle : β -> Stage -> Prop}
    (first : Walks diagram attempt stage middle bad)
    (second : forall value stage, middle value stage ->
      Walks diagram (next value) stage good bad) :
    Walks diagram (attempt >>= next) stage good bad := by
  apply Follows.bind first
  intro outcome stage ends
  cases outcome with
  | ok value => exact second value stage ends
  | error error => exact Follows.done ends

/-- A program whose commands all stay where they are stays there. -/
theorem within {T : Signature} {meaning : (command : T.Command) -> Fallible S ε (T.Reply command)}
    {here : Stage -> Prop}
    (stays : forall command stage, here stage ->
      Walks diagram (meaning command) stage (fun _ => here) here)
    (program : Program T α) (start : here stage) :
    Walks diagram (Fallible.within meaning program) stage (fun _ => here) here := by
  induction program generalizing stage with
  | done value => exact pure start
  | call command next inductionHypothesis =>
      apply bind (stays command stage start)
      intro reply stage found
      exact inductionHypothesis reply found

end Walks

/-! ## Services whose task follows a diagram -/

/-- What the stages say about the states of a service. -/
structure Mapped (service : Exclusive S State) (acts : Acts S State) (diagram : Diagram S Stage)
    (linked : Stage -> State -> Prop) (rests : State -> Prop) : Prop where
  busy : forall {stage state command}, linked stage state -> diagram.allows stage command ->
    service.busy state = true
  /-- A task begins at a stage and follows the diagram to a place where it can rest. -/
  task : forall {state}, rests state -> Exists fun stage =>
    linked stage (service.claim state) ∧
      Follows diagram service.task stage (fun _ last => forall state, linked last state ->
        rests state)
  acted : forall {stage state command reply after}, linked stage state ->
    diagram.allows stage command -> acts state command reply after ->
      linked (diagram.leads stage command reply) after

namespace Exclusive

/-- The service rests, or the one task is somewhere on the diagram. -/
def Guided (linked : Stage -> State -> Prop) (rests : State -> Prop) (diagram : Diagram S Stage)
    (config : Config S State) : Prop :=
  (config.tasks = [] ∧ rests config.state) ∨
    Exists fun stage => Exists fun command => Exists fun next =>
      config.tasks = [.call command next] ∧ linked stage config.state ∧
        Follows diagram (.call command next) stage (fun _ last => forall state,
          linked last state -> rests state)

variable {service : Exclusive S State} {acts : Acts S State} {diagram : Diagram S Stage}
  {linked : Stage -> State -> Prop} {rests : State -> Prop} {config after : Config S State}

theorem guided_unfinished {program : Program S Unit} {stage : Stage} {state : State}
    (here : linked stage state)
    (follows : Follows diagram program stage (fun _ last => forall state, linked last state ->
      rests state)) :
    Guided linked rests diagram ⟨state, unfinished program⟩ := by
  cases program with
  | done value => exact Or.inl ⟨rfl, follows.ended state here⟩
  | call command next => exact Or.inr ⟨stage, command, next, rfl, here, follows⟩

theorem Guided.moves (mapped : Mapped service acts diagram linked rests)
    (guided : Guided linked rests diagram config) (moved : Moves service acts config after) :
    Guided linked rests diagram after := by
  cases moved with
  | asked => exact guided
  | refused busy => exact guided
  | started idle =>
      rcases guided with ⟨none, rest⟩ | ⟨stage, command, next, -, here, follows⟩
      · rw [none, List.append_nil]
        rcases mapped.task rest with ⟨stage, here, follows⟩
        exact guided_unfinished here follows
      · have busy := mapped.busy here follows.allowed
        rw [idle] at busy
        cases busy
  | @worked state after command next reply before later acted =>
      rcases guided with ⟨none, rest⟩ | ⟨stage, command', next', one, here, follows⟩
      · exact absurd none (List.append_ne_nil_of_right_ne_nil _ (List.cons_ne_nil _ _))
      · -- the one task is the one that has worked
        rcases List.append_eq_singleton_iff.mp one with ⟨rfl, same⟩ | ⟨-, impossible⟩
        · cases same
          rw [List.nil_append, List.append_nil]
          exact guided_unfinished (mapped.acted here follows.allowed acted) (follows.later reply)
        · cases impossible

/-- In every configuration that is reached the service rests or has a stage. -/
theorem Reaches.guided {start : State} (mapped : Mapped service acts diagram linked rests)
    (begins : rests start) (reached : Reaches service acts ⟨start, []⟩ config) :
    Guided linked rests diagram config := by
  induction reached with
  | here => exact Or.inl ⟨rfl, begins⟩
  | next _ moved inductionHypothesis => exact inductionHypothesis.moves mapped moved

end Exclusive
end Interaction
