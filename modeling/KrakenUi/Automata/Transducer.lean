import Mathlib.Data.List.Basic

namespace Automata

/-!
# Machines that read once and write as they go

A transducer reads its input from left to right.  On each symbol it writes a
list and goes to its next state, so what it writes for a prefix does not depend
on the rest.  A program that looks ahead can be compared with a transducer that
does not.

Three ways to pass over a part of the input recur: copying it, skipping it, and
reaching the same state whatever the part was.
-/

structure Transducer (State Input Output : Type) where
  step : State -> Input -> List Output × State

namespace Transducer

variable {State Input Output : Type} (machine : Transducer State Input Output)

/-- What is written from a state on. -/
def write (state : State) : List Input -> List Output
  | [] => []
  | symbol :: rest => (machine.step state symbol).1 ++ write (machine.step state symbol).2 rest

/-- The state after the input. -/
def after (state : State) : List Input -> State
  | [] => state
  | symbol :: rest => after (machine.step state symbol).2 rest

@[simp] theorem write_nil (state : State) : machine.write state [] = [] := rfl

@[simp] theorem after_nil (state : State) : machine.after state [] = state := rfl

theorem write_cons (state : State) (symbol : Input) (rest : List Input) :
    machine.write state (symbol :: rest) =
      (machine.step state symbol).1 ++ machine.write (machine.step state symbol).2 rest := rfl

theorem after_cons (state : State) (symbol : Input) (rest : List Input) :
    machine.after state (symbol :: rest) = machine.after (machine.step state symbol).2 rest := rfl

theorem after_append (state : State) (first second : List Input) :
    machine.after state (first ++ second) = machine.after (machine.after state first) second := by
  induction first generalizing state with
  | nil => rfl
  | cons symbol rest inductionHypothesis => exact inductionHypothesis _

theorem write_append (state : State) (first second : List Input) :
    machine.write state (first ++ second) =
      machine.write state first ++ machine.write (machine.after state first) second := by
  induction first generalizing state with
  | nil => rfl
  | cons symbol rest inductionHypothesis =>
      rw [List.cons_append, write_cons, write_cons, after_cons, inductionHypothesis,
        List.append_assoc]

variable {machine}

/-- Symbols that leave the state as it is and are copied. -/
theorem copies {state : State} {machine : Transducer State Input Input} {part : List Input}
    (steps : forall symbol, symbol ∈ part -> machine.step state symbol = ([symbol], state)) :
    machine.write state part = part ∧ machine.after state part = state := by
  induction part with
  | nil => exact ⟨rfl, rfl⟩
  | cons symbol rest inductionHypothesis =>
      have first := steps symbol List.mem_cons_self
      rcases inductionHypothesis fun other among => steps other (List.mem_cons_of_mem symbol among)
          with ⟨written, reached⟩
      rw [write_cons, after_cons, first]
      exact ⟨congrArg (symbol :: ·) written, reached⟩

/-- Symbols that leave the state as it is and write nothing. -/
theorem skips {state : State} {part : List Input}
    (steps : forall symbol, symbol ∈ part -> machine.step state symbol = ([], state)) :
    machine.write state part = [] ∧ machine.after state part = state := by
  induction part with
  | nil => exact ⟨rfl, rfl⟩
  | cons symbol rest inductionHypothesis =>
      have first := steps symbol List.mem_cons_self
      rcases inductionHypothesis fun other among => steps other (List.mem_cons_of_mem symbol among)
          with ⟨written, reached⟩
      rw [write_cons, after_cons, first]
      exact ⟨written, reached⟩

/-- What every step keeps holds after any input. -/
theorem after_keeps {invariant : State -> Prop}
    (kept : forall state symbol, invariant state -> invariant (machine.step state symbol).2)
    {state : State} (holds : invariant state) (input : List Input) :
    invariant (machine.after state input) := by
  induction input generalizing state with
  | nil => exact holds
  | cons symbol rest inductionHypothesis => exact inductionHypothesis (kept state symbol holds)

/-- What the symbols of a part keep holds after the part. -/
theorem after_along {invariant : State -> Prop} {part : List Input}
    (kept : forall symbol, symbol ∈ part -> forall state, invariant state ->
      invariant (machine.step state symbol).2)
    {state : State} (holds : invariant state) : invariant (machine.after state part) := by
  induction part generalizing state with
  | nil => exact holds
  | cons symbol rest inductionHypothesis =>
      apply inductionHypothesis
      · exact fun other among => kept other (List.mem_cons_of_mem symbol among)
      · exact kept symbol List.mem_cons_self state holds

/-- Two parts that write the same and lead to the same state can be exchanged. -/
theorem exchange {state : State} {first second : List Input}
    (written : machine.write state first = machine.write state second)
    (reached : machine.after state first = machine.after state second) (rest : List Input) :
    machine.write state (first ++ rest) = machine.write state (second ++ rest) := by
  rw [write_append, write_append, written, reached]

/-- Pieces with separators between them are read one by one, if every separator
leads back to where the first piece was read from. -/
theorem write_intercalate {Piece : Type} {start : State} {separator : List Input}
    {between : List Output} {text : Piece -> List Input} {shown : Piece -> List Output}
    {pieces : List Piece}
    (reads : forall piece, piece ∈ pieces -> machine.write start (text piece) = shown piece)
    (parts : forall piece, piece ∈ pieces ->
      machine.write (machine.after start (text piece)) separator = between ∧
        machine.after (machine.after start (text piece)) separator = start) :
    machine.write start (separator.intercalate (pieces.map text)) =
      between.intercalate (pieces.map shown) := by
  induction pieces with
  | nil => rfl
  | cons piece rest inductionHypothesis =>
      have first := reads piece List.mem_cons_self
      cases rest with
      | nil =>
          rw [List.map_singleton, List.map_singleton, List.intercalate_singleton,
            List.intercalate_singleton, first]
      | cons next rest =>
          rcases parts piece List.mem_cons_self with ⟨written, reached⟩
          have later := inductionHypothesis
            (fun other among => reads other (List.mem_cons_of_mem piece among))
            (fun other among => parts other (List.mem_cons_of_mem piece among))
          rw [List.map_cons, List.map_cons] at later ⊢
          rw [List.map_cons, List.map_cons, List.intercalate_cons_cons,
            List.intercalate_cons_cons, write_append, write_append, after_append, first, written,
            reached, later]

/-- A second run over what a first run wrote changes nothing, if that is so for
what each step wrote. -/
theorem write_write {machine : Transducer State Input Input} {invariant : State -> Prop}
    (kept : forall state symbol, invariant state -> invariant (machine.step state symbol).2)
    (stable : forall state symbol, invariant state ->
      machine.write state (machine.step state symbol).1 = (machine.step state symbol).1 ∧
        machine.after state (machine.step state symbol).1 = (machine.step state symbol).2)
    {state : State} (holds : invariant state) (input : List Input) :
    machine.write state (machine.write state input) = machine.write state input ∧
      machine.after state (machine.write state input) = machine.after state input := by
  induction input generalizing state with
  | nil => exact ⟨rfl, rfl⟩
  | cons symbol rest inductionHypothesis =>
      rcases stable state symbol holds with ⟨written, reached⟩
      rcases inductionHypothesis (kept state symbol holds) with ⟨later, last⟩
      constructor
      · rw [write_cons, write_append, written, reached, later]
      · rw [write_cons, after_append, reached, last, after_cons]

end Transducer
end Automata
