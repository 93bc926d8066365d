import KrakenUi.Interaction.Semantics
import Mathlib.Logic.Equiv.Defs

namespace Interaction

variable {S T : Signature} {α β : Type}

/-!
# Two kinds of commands in one program

A handler of a server may use the calls of its own machine and those of a
client that talks to somebody else.  Programs that were written for one of the
two kinds are embedded into programs that may use both, and a run of an embedded
program is an embedded run of the program.

The other side is no part of the machine.  Its answers come from the
environment, and they leave the state as it is.
-/

/-- Commands of one signature that are also commands of another one. -/
structure Embedding (S T : Signature) where
  command : S.Command -> T.Command
  reply : forall command' : S.Command, S.Reply command' ≃ T.Reply (command command')

/-- The same observation, seen by a program of the other signature. -/
def Embedding.carry (embedding : Embedding S T) (seen : Observation S) : Observation T :=
  ⟨embedding.command seen.command, embedding.reply seen.command seen.reply⟩

namespace Program

/-- The same program with the commands of the other signature. -/
def embed (embedding : Embedding S T) : Program S α -> Program T α
  | done value => done value
  | call command next => call (embedding.command command) fun reply =>
      (next ((embedding.reply command).symm reply)).embed embedding

variable {embedding : Embedding S T}

@[simp] theorem embed_pure (value : α) :
    (pure value : Program S α).embed embedding = pure value := rfl

@[simp] theorem embed_call (command : S.Command) (next : S.Reply command -> Program S α) :
    (call command next).embed embedding =
      call (embedding.command command) fun reply =>
        (next ((embedding.reply command).symm reply)).embed embedding := rfl

theorem embed_bind (program : Program S α) (next : α -> Program S β) :
    (program >>= next).embed embedding =
      (program.embed embedding >>= fun value => (next value).embed embedding) := by
  induction program with
  | done value => rfl
  | call command rest inductionHypothesis =>
      rw [call_bind, embed_call, embed_call, call_bind]
      congr 1
      funext reply
      exact inductionHypothesis _

/-- The runs of an embedded program are the embedded runs. -/
theorem returns_embed {program : Program S α} {transcript : List (Observation T)} {value : α} :
    (program.embed embedding).Returns transcript value ↔
      Exists fun own => transcript = own.map embedding.carry ∧ program.Returns own value := by
  induction program generalizing transcript with
  | done result =>
      constructor
      · intro returned
        rcases (returns_done _ _ _).mp returned with ⟨rfl, rfl⟩
        exact ⟨[], rfl, (returns_done _ _ _).mpr ⟨rfl, rfl⟩⟩
      · rintro ⟨own, rfl, returned⟩
        rcases (returns_done _ _ _).mp returned with ⟨rfl, rfl⟩
        exact (returns_done _ _ _).mpr ⟨rfl, rfl⟩
  | call command next inductionHypothesis =>
      rw [embed_call, returns_call]
      constructor
      · rintro ⟨reply, rest, rfl, returned⟩
        rcases (inductionHypothesis _).mp returned with ⟨own, rfl, inner⟩
        refine ⟨⟨command, (embedding.reply command).symm reply⟩ :: own, ?_,
          (returns_call _ _ _ _).mpr ⟨_, own, rfl, inner⟩⟩
        rw [List.map_cons, Embedding.carry, Equiv.apply_symm_apply]
      · rintro ⟨own, rfl, returned⟩
        rcases (returns_call _ _ _ _).mp returned with ⟨reply, rest, rfl, inner⟩
        refine ⟨embedding.reply command reply, rest.map embedding.carry, rfl, ?_⟩
        rw [Equiv.symm_apply_apply]
        exact (inductionHypothesis reply).mpr ⟨rest, rfl, inner⟩

/-- An embedded program issues embedded commands only. -/
theorem only_embed {allowed : S.Command -> Prop} {permitted : T.Command -> Prop}
    {program : Program S α} (only : program.Only allowed)
    (means : forall command, allowed command -> permitted (embedding.command command)) :
    (program.embed embedding).Only permitted := by
  induction program with
  | done value => exact only_pure permitted value
  | call command next inductionHypothesis =>
      rcases (only_call _ _ _).mp only with ⟨first, later⟩
      rw [embed_call, only_call]
      exact ⟨means command first, fun reply => inductionHypothesis _ (later _)⟩

/-- What holds of all embedded commands holds of an embedded program. -/
theorem only_embedded {permitted : T.Command -> Prop} (program : Program S α)
    (means : forall command, permitted (embedding.command command)) :
    (program.embed embedding).Only permitted := by
  induction program with
  | done value => exact only_pure permitted value
  | call command next inductionHypothesis =>
      rw [embed_call, only_call]
      exact ⟨means command, fun reply => inductionHypothesis _⟩

end Program

/-! ## Side by side -/

abbrev Signature.beside (S T : Signature) : Signature where
  Command := S.Command ⊕ T.Command
  Reply := Sum.elim S.Reply T.Reply

namespace Signature

def inner (S T : Signature) : Embedding S (S.beside T) where
  command := Sum.inl
  reply := fun _ => Equiv.refl _

def outer (S T : Signature) : Embedding T (S.beside T) where
  command := Sum.inr
  reply := fun _ => Equiv.refl _

end Signature

/-- The machine whose requests also talk to somebody outside.  Each of them stands
for a request of the machine.  What is answered from outside may depend on the state,
and on a choice of the environment. -/
abbrev Semantics.outward (M : Semantics S) (T : Signature) {Request : Type}
    (underlying : Request -> M.Request) (Choice : Type)
    (answer : M.State -> (command : T.Command) -> Choice -> Option (T.Reply command)) :
    Semantics (S.beside T) where
  State := M.State
  Held := M.Held
  Request := Request
  Draw := M.Draw × Choice
  Event := M.Event
  Place := M.Place
  placeEq := M.placeEq
  accept := fun state request => M.accept state (underlying request)
  perform := fun state held command draw =>
    match command with
    | .inl command => M.perform state held command draw.1
    | .inr command => (answer state command draw.2).map fun reply => (reply, state, held)
  fetches := fun state held command => command.elim (M.fetches state held) fun _ => none
  landmark := fun command => command.elim M.landmark fun _ => false
  close := fun state held draw => M.close state held draw.1
  happen := M.happen

end Interaction
