import Mathlib.Logic.Basic

namespace Interaction

/-!
# Programs as trees of commands

A request handler of a server is sequential code that talks to the rest of
the world one call at a time: it reads the clock, runs a transaction, asks a
library to check a password.  Between two such calls anything may happen
elsewhere, so the calls are the atomic steps of every interleaving.

A program is therefore kept as a tree.  A node carries one command and the
continuation for each possible reply; a leaf carries the returned value.  The
tree says nothing about what the commands do.  That meaning is supplied by a
machine, and different machines may run the same program.

`Returns` relates a program to a complete transcript of commands and replies.
It is the tool for speaking about a call that some running request has
finished, without marking the end of the call in the program itself.
-/

/-- The commands a program may issue and the type of reply each one gets. -/
structure Signature where
  Command : Type
  Reply : Command -> Type

/-- One command together with the reply it received. -/
structure Observation (S : Signature) where
  command : S.Command
  reply : S.Reply command

/-- A program is finished, or it issues a command and waits for the reply. -/
inductive Program (S : Signature) (α : Type) : Type where
  | done (value : α)
  | call (command : S.Command) (next : S.Reply command -> Program S α)

namespace Program

variable {S : Signature} {α β γ : Type}

def bind : Program S α -> (α -> Program S β) -> Program S β
  | done value, next => next value
  | call command rest, next => call command (fun reply => (rest reply).bind next)

instance : Monad (Program S) where
  pure := done
  bind := bind

/-- The program that issues one command and returns its reply. -/
def perform (command : S.Command) : Program S (S.Reply command) :=
  call command done

@[simp] theorem pure_eq_done (value : α) : (pure value : Program S α) = done value := rfl

@[simp] theorem done_bind (value : α) (next : α -> Program S β) :
    (done value >>= next) = next value := rfl

@[simp] theorem call_bind (command : S.Command) (rest : S.Reply command -> Program S α)
    (next : α -> Program S β) :
    (call command rest >>= next) = call command (fun reply => rest reply >>= next) := rfl

@[simp] theorem perform_bind (command : S.Command) (next : S.Reply command -> Program S β) :
    (perform command >>= next) = call command next := rfl

theorem bind_assoc (program : Program S α) (next : α -> Program S β) (last : β -> Program S γ) :
    (program >>= next >>= last) = (program >>= fun value => next value >>= last) := by
  induction program with
  | done value => rfl
  | call command rest inductionHypothesis =>
      simp only [call_bind]
      congr 1
      funext reply
      exact inductionHypothesis reply

theorem bind_done (program : Program S α) : (program >>= done) = program := by
  induction program with
  | done value => rfl
  | call command rest inductionHypothesis =>
      simp only [call_bind]
      congr 1
      funext reply
      exact inductionHypothesis reply

/-- The transcript, oldest command first, is a complete run of the program
and the run returned `value`. -/
def Returns : Program S α -> List (Observation S) -> α -> Prop
  | done result, transcript, value => transcript = [] ∧ result = value
  | call command next, transcript, value =>
      Exists fun reply => Exists fun rest =>
        transcript = ⟨command, reply⟩ :: rest ∧ (next reply).Returns rest value

@[simp] theorem returns_done (result value : α) (transcript : List (Observation S)) :
    (done result).Returns transcript value ↔ transcript = [] ∧ result = value := Iff.rfl

@[simp] theorem returns_pure (result value : α) (transcript : List (Observation S)) :
    (pure result : Program S α).Returns transcript value ↔ transcript = [] ∧ result = value :=
  Iff.rfl

@[simp] theorem returns_call (command : S.Command) (next : S.Reply command -> Program S α)
    (transcript : List (Observation S)) (value : α) :
    (call command next).Returns transcript value ↔
      Exists fun reply => Exists fun rest =>
        transcript = ⟨command, reply⟩ :: rest ∧ (next reply).Returns rest value := Iff.rfl

@[simp] theorem returns_perform (command : S.Command) (reply : S.Reply command)
    (transcript : List (Observation S)) :
    (perform command).Returns transcript reply ↔ transcript = [⟨command, reply⟩] := by
  constructor
  · rintro ⟨given, rest, rfl, rfl, rfl⟩
    rfl
  · rintro rfl
    exact ⟨reply, [], rfl, rfl, rfl⟩

/-- A run of a sequence is a run of the first part followed by a run of the
part that its value selects. -/
theorem returns_bind (program : Program S α) (next : α -> Program S β)
    (transcript : List (Observation S)) (value : β) :
    (program >>= next).Returns transcript value ↔
      Exists fun first => Exists fun second => Exists fun middle =>
        transcript = first ++ second ∧ program.Returns first middle ∧
          (next middle).Returns second value := by
  induction program generalizing transcript with
  | done result =>
      constructor
      · intro returned
        exact ⟨[], transcript, result, rfl, ⟨rfl, rfl⟩, returned⟩
      · rintro ⟨first, second, middle, rfl, ⟨rfl, rfl⟩, returned⟩
        exact returned
  | call command rest inductionHypothesis =>
      constructor
      · rintro ⟨reply, tail, rfl, returned⟩
        rcases (inductionHypothesis reply tail).mp returned with
            ⟨first, second, middle, rfl, before, after⟩
        exact ⟨⟨command, reply⟩ :: first, second, middle, rfl, ⟨reply, first, rfl, before⟩, after⟩
      · rintro ⟨first, second, middle, rfl, ⟨reply, tail, rfl, before⟩, after⟩
        exact ⟨reply, tail ++ second, rfl,
          (inductionHypothesis reply _).mpr ⟨tail, second, middle, rfl, before, after⟩⟩

/-- After this transcript the first program has become the second one. -/
inductive Resumes : Program S α -> List (Observation S) -> Program S α -> Prop
  | start (program : Program S α) : Resumes program [] program
  | step {program : Program S α} {transcript : List (Observation S)} {command : S.Command}
      {rest : S.Reply command -> Program S α} (reply : S.Reply command)
      (resumed : Resumes program transcript (call command rest)) :
      Resumes program (transcript ++ [⟨command, reply⟩]) (rest reply)

theorem Resumes.first {command : S.Command} {rest : S.Reply command -> Program S α}
    {transcript : List (Observation S)} {remaining : Program S α} {reply : S.Reply command}
    (resumed : Resumes (rest reply) transcript remaining) :
    Resumes (call command rest) (⟨command, reply⟩ :: transcript) remaining := by
  induction resumed with
  | start => exact Resumes.step reply (Resumes.start _)
  | step later _ inductionHypothesis => exact Resumes.step later inductionHypothesis

/-- A program that issues a command is at its start, or the reply has come. -/
theorem resumes_call {command : S.Command} {rest : S.Reply command -> Program S α}
    {transcript : List (Observation S)} {remaining : Program S α} :
    Resumes (call command rest) transcript remaining ↔
      (transcript = [] ∧ remaining = call command rest) ∨
        Exists fun reply => Exists fun tail =>
          transcript = ⟨command, reply⟩ :: tail ∧ Resumes (rest reply) tail remaining := by
  constructor
  · intro resumed
    induction resumed with
    | start => exact Or.inl ⟨rfl, rfl⟩
    | step reply resumed inductionHypothesis =>
        rcases inductionHypothesis with ⟨rfl, same⟩ | ⟨first, tail, rfl, later⟩
        · cases same
          exact Or.inr ⟨reply, [], rfl, Resumes.start _⟩
        · exact Or.inr ⟨first, _, rfl, later.step reply⟩
  · rintro (⟨rfl, rfl⟩ | ⟨reply, tail, rfl, resumed⟩)
    · exact Resumes.start _
    · exact resumed.first

@[simp] theorem resumes_done {value : α} {transcript : List (Observation S)}
    {remaining : Program S α} :
    Resumes (done value) transcript remaining ↔ transcript = [] ∧ remaining = done value := by
  constructor
  · intro resumed
    induction resumed with
    | start => exact ⟨rfl, rfl⟩
    | step reply resumed inductionHypothesis =>
        have impossible := inductionHypothesis.2
        cases impossible
  · rintro ⟨rfl, rfl⟩
    exact Resumes.start _

/-- What remains is a leaf exactly when the transcript is a complete run. -/
theorem resumes_to_done {program : Program S α} {transcript : List (Observation S)} {value : α} :
    Resumes program transcript (done value) ↔ program.Returns transcript value := by
  induction program generalizing transcript with
  | done result =>
      rw [resumes_done, returns_done]
      simp [eq_comm]
  | call command rest inductionHypothesis =>
      rw [resumes_call, returns_call]
      simp only [reduceCtorEq, and_false, false_or, inductionHypothesis]

theorem resumes_perform {command : S.Command} {rest : S.Reply command -> Program S α}
    {transcript : List (Observation S)} {remaining : Program S α}
    (resumed : Resumes (perform command >>= rest) transcript remaining) :
    transcript = [] ∨ Exists fun reply => Exists fun tail =>
      transcript = ⟨command, reply⟩ :: tail ∧ Resumes (rest reply) tail remaining :=
  (resumes_call.mp resumed).imp And.left id

/-- A sequence is inside its first part, or has finished it. -/
theorem resumes_bind {program : Program S α} {next : α -> Program S β}
    {transcript : List (Observation S)} {remaining : Program S β}
    (resumed : Resumes (program >>= next) transcript remaining) :
    (Exists fun rest => Resumes program transcript rest) ∨
      Exists fun first => Exists fun second => Exists fun middle =>
        transcript = first ++ second ∧ program.Returns first middle ∧
          Resumes (next middle) second remaining := by
  induction program generalizing transcript with
  | done result => exact Or.inr ⟨[], transcript, result, rfl, ⟨rfl, rfl⟩, resumed⟩
  | call command rest inductionHypothesis =>
      rcases resumes_call.mp resumed with ⟨rfl, -⟩ | ⟨reply, tail, rfl, later⟩
      · exact Or.inl ⟨_, Resumes.start _⟩
      · rcases inductionHypothesis reply later with ⟨inside, within⟩ |
          ⟨first, second, middle, rfl, returned, after⟩
        · exact Or.inl ⟨inside, within.first⟩
        · exact Or.inr ⟨⟨command, reply⟩ :: first, second, middle, rfl,
            ⟨reply, first, rfl, returned⟩, after⟩

/-- Dropping the value of a program adds nothing to its runs. -/
theorem resumes_discard {program : Program S α} {transcript : List (Observation S)}
    {remaining : Program S Unit}
    (resumed : Resumes (program >>= fun _ => pure ()) transcript remaining) :
    Exists fun rest => Resumes program transcript rest := by
  rcases resumes_bind resumed with inside | ⟨first, second, middle, rfl, returned, after⟩
  · exact inside
  · rcases resumes_done.mp after with ⟨rfl, -⟩
    rw [List.append_nil]
    exact ⟨_, resumes_to_done.mpr returned⟩

section Replay

variable [DecidableEq S.Command]

/-- Run the program on the replies of a transcript. -/
def replay : Program S α -> List (Observation S) -> Option α
  | done result, [] => some result
  | done _, _ :: _ => none
  | call _ _, [] => none
  | call command next, observed :: rest =>
      if same : observed.command = command then (next (same ▸ observed.reply)).replay rest
      else none

/-- Replaying decides whether a transcript is a complete run. -/
theorem replay_eq_some (program : Program S α) (transcript : List (Observation S)) (value : α) :
    program.replay transcript = some value ↔ program.Returns transcript value := by
  induction program generalizing transcript with
  | done result => cases transcript <;> simp [replay, Returns]
  | call command next inductionHypothesis =>
      cases transcript with
      | nil => simp [replay, Returns]
      | cons observed rest =>
          rcases observed with ⟨issued, reply⟩
          by_cases same : issued = command
          · subst same
            simp only [replay, dite_true, inductionHypothesis, Returns]
            constructor
            · intro returned
              exact ⟨reply, rest, rfl, returned⟩
            · rintro ⟨given, tail, equal, returned⟩
              cases equal
              exact returned
          · simp only [replay, same, dite_false, Returns, reduceCtorEq, false_iff]
            rintro ⟨given, tail, equal, -⟩
            cases equal
            exact same rfl

end Replay

/-- Every command the program can ever issue satisfies a condition. -/
def Only (allowed : S.Command -> Prop) : Program S α -> Prop
  | done _ => True
  | call command next => allowed command ∧ forall reply, (next reply).Only allowed

@[simp] theorem only_done (allowed : S.Command -> Prop) (value : α) :
    (done value : Program S α).Only allowed ↔ True := Iff.rfl

@[simp] theorem only_call (allowed : S.Command -> Prop) (command : S.Command)
    (next : S.Reply command -> Program S α) :
    (call command next).Only allowed ↔ allowed command ∧ forall reply, (next reply).Only allowed :=
  Iff.rfl

@[simp] theorem only_perform (allowed : S.Command -> Prop) (command : S.Command) :
    (perform command).Only allowed ↔ allowed command := by
  simp [perform]

theorem Only.bind {allowed : S.Command -> Prop} {program : Program S α}
    {next : α -> Program S β} (first : program.Only allowed)
    (second : forall value, (next value).Only allowed) : (program >>= next).Only allowed := by
  induction program with
  | done value => exact second value
  | call command rest inductionHypothesis =>
      exact ⟨first.1, fun reply => inductionHypothesis reply (first.2 reply)⟩

theorem Only.mono {allowed weaker : S.Command -> Prop} {program : Program S α}
    (only : program.Only allowed) (implies : forall command, allowed command -> weaker command) :
    program.Only weaker := by
  induction program with
  | done value => exact True.intro
  | call command rest inductionHypothesis =>
      exact ⟨implies command only.1, fun reply => inductionHypothesis reply (only.2 reply)⟩

theorem only_pure (allowed : S.Command -> Prop) (value : α) :
    (pure value : Program S α).Only allowed := True.intro

/-- Whatever a program has done so far, its commands satisfy the condition. -/
theorem Only.transcript {allowed : S.Command -> Prop} {program rest : Program S α}
    {transcript : List (Observation S)} (only : program.Only allowed)
    (resumed : Resumes program transcript rest) :
    forall seen, seen ∈ transcript -> allowed seen.command := by
  induction program generalizing transcript with
  | done value =>
      rcases resumes_done.mp resumed with ⟨rfl, -⟩
      exact fun seen member => absurd member List.not_mem_nil
  | call command next inductionHypothesis =>
      rcases resumes_call.mp resumed with ⟨rfl, -⟩ | ⟨reply, tail, rfl, later⟩
      · exact fun seen member => absurd member List.not_mem_nil
      · intro seen member
        rcases List.mem_cons.mp member with rfl | among
        · exact only.1
        · exact inductionHypothesis reply (only.2 reply) later seen among

-- From here on a program is taken apart by the rules, never by computing it.
attribute [irreducible] Only Returns

end Program
end Interaction
