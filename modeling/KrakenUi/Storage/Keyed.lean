import Mathlib.Data.Option.Basic

namespace Storage

/-!
# Keyed tables and the history of their changes

A table has at most one row for each key.  A change puts a row, which takes the
place of the row with its key, or drops all rows that satisfy a condition.  What
such a table is for can be said without the table: a row is held if it was put
and no later change displaced it.

Some rows are dead: no reader can see them, and a row that is dead stays dead.
A store may remove dead rows whenever it likes.  `Represents` relates the table
of a store to the changes that its users asked for, and it looks at the rows
that are not dead only, so that the removals do not show.
-/

inductive Change (Row : Type) where
  | put (row : Row)
  | drop (dropped : Row -> Prop)

variable {Row Key : Type} {key : Row -> Key} {row : Row}

/-- The row is not there any more after the change, unless the change puts it. -/
def Change.Displaces (key : Row -> Key) (row : Row) : Change Row -> Prop
  | .put newer => key newer = key row
  | .drop dropped => dropped row

/-- The row was put and is not displaced since.  The newest change is first. -/
def Held (key : Row -> Key) (row : Row) : List (Change Row) -> Prop
  | [] => False
  | change :: earlier =>
      change = .put row ∨ (¬ change.Displaces key row ∧ Held key row earlier)

/-- No two rows with the same key are held. -/
theorem Held.unique {first second : Row} {changes : List (Change Row)}
    (held : Held key first changes) (other : Held key second changes)
    (same : key first = key second) : first = second := by
  induction changes with
  | nil => exact held.elim
  | cons change earlier inductionHypothesis =>
      rcases held with rfl | ⟨stays, before⟩
      · rcases other with equal | ⟨displaced, -⟩
        · cases equal
          rfl
        · exact absurd same displaced
      · rcases other with rfl | ⟨-, otherBefore⟩
        · exact absurd same.symm stays
        · exact inductionHypothesis before otherBefore

/-- The rows of the table that are alive are the held rows that are alive. -/
def Represents (key : Row -> Key) (alive : Row -> Prop) (table : Key -> Option Row)
    (changes : List (Change Row)) : Prop :=
  forall row, alive row -> (table (key row) = some row ↔ Held key row changes)

namespace Represents

variable {alive : Row -> Prop} {table after : Key -> Option Row} {changes : List (Change Row)}

theorem empty (alive : Row -> Prop) : Represents key alive (fun _ => none) [] := by
  intro row _
  constructor
  · intro found
    cases found
  · intro held
    exact held.elim

/-- Rows may die in between. -/
theorem later {fewer : Row -> Prop} (represents : Represents key alive table changes)
    (dead : forall row, fewer row -> alive row) : Represents key fewer table changes :=
  fun row live => represents row (dead row live)

theorem put [DecidableEq Key] (represents : Represents key alive table changes) (newer : Row)
    (becomes : forall id, after id = if id = key newer then some newer else table id) :
    Represents key alive after (.put newer :: changes) := by
  intro row live
  rw [becomes]
  by_cases same : key row = key newer
  · rw [if_pos same]
    constructor
    · intro equal
      cases equal
      exact Or.inl rfl
    · rintro (equal | ⟨stays, -⟩)
      · cases equal
        rfl
      · exact absurd same.symm stays
  · rw [if_neg same, represents row live]
    constructor
    · intro held
      exact Or.inr ⟨fun displaced => same displaced.symm, held⟩
    · rintro (equal | ⟨-, held⟩)
      · cases equal
        exact absurd rfl same
      · exact held

/-- A deletion that follows a condition on the rows. -/
theorem drop (represents : Represents key alive table changes) {dropped : Row -> Prop}
    (becomes : forall row, after (key row) = some row ↔
      table (key row) = some row ∧ ¬ dropped row) :
    Represents key alive after (.drop dropped :: changes) := by
  intro row live
  rw [becomes row, represents row live]
  constructor
  · rintro ⟨held, stays⟩
    exact Or.inr ⟨stays, held⟩
  · rintro (equal | ⟨stays, held⟩)
    · cases equal
    · exact ⟨held, stays⟩

/-- A deletion that only removes dead rows is no change at all. -/
theorem prune (represents : Represents key alive table changes)
    (becomes : forall row, alive row -> (after (key row) = some row ↔ table (key row) = some row)) :
    Represents key alive after changes :=
  fun row live => (becomes row live).trans (represents row live)

end Represents
end Storage
