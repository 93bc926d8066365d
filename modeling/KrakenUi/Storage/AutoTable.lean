import Mathlib.Data.List.Pairwise
import Mathlib.Data.List.Count

namespace Storage

/-!
# Tables with automatically numbered rows

A table numbers its rows itself.  It remembers the largest number it has ever
issued and gives a new row the next one, so a number is not issued again after
its row has been deleted.  A schema adds what else the table refuses: two rows
that clash, such as two rows with one value in a unique column, and rows that
fail a check.  A change that would break the schema fails as a whole.

The structure carries all of this, so that a table with a duplicate number, a
number beyond the sequence or a clash cannot be built.

`Evolves` is the relation between an earlier and a later content of the same
table.  A row of the later table whose number had been issued by then is a
descendant of a row of the earlier table, and a relation on rows says what a
row may become.  The relation is a preorder and every operation respects it,
which is what lets a proof recognise a row after an arbitrary amount of work
by other parties.
-/

/-- The columns of a table as far as the table itself looks at them. -/
structure Schema (Row : Type) where
  key : Row -> Int
  clash : Row -> Row -> Bool
  check : Row -> Bool

variable {Row : Type} {schema : Schema Row}

/-- The rows respect the unique columns and the row checks. -/
def Schema.Admits (schema : Schema Row) (rows : List Row) : Prop :=
  rows.Pairwise (fun first second => schema.clash first second = false) ∧
    forall row, row ∈ rows -> schema.check row = true

instance (schema : Schema Row) (rows : List Row) : Decidable (schema.Admits rows) :=
  inferInstanceAs (Decidable (_ ∧ _))

structure AutoTable (schema : Schema Row) where
  rows : List Row
  sequence : Int
  bounded : forall row, row ∈ rows -> schema.key row ≤ sequence
  distinct : rows.Pairwise fun first second => schema.key first ≠ schema.key second
  admits : schema.Admits rows

namespace AutoTable

/-- A table without rows that has issued no positive number yet. -/
def empty : AutoTable schema where
  rows := []
  sequence := 0
  bounded := fun _ member => absurd member List.not_mem_nil
  distinct := List.Pairwise.nil
  admits := ⟨List.Pairwise.nil, fun _ member => absurd member List.not_mem_nil⟩

/-- The first row that satisfies a filter. -/
def find (table : AutoTable schema) (selected : Row -> Bool) : Option Row :=
  table.rows.find? selected

def all (table : AutoTable schema) (selected : Row -> Bool) : List Row :=
  table.rows.filter selected

def count (table : AutoTable schema) (selected : Row -> Bool) : Nat :=
  table.rows.countP selected

/-- Append a row under the next number. -/
def insert (table : AutoTable schema) (make : Int -> Row)
    (numbered : forall number, schema.key (make number) = number) : Option (AutoTable schema) :=
  if admits : schema.Admits (table.rows ++ [make (table.sequence + 1)]) then
    some {
      rows := table.rows ++ [make (table.sequence + 1)]
      sequence := table.sequence + 1
      bounded := by
        intro row member
        rcases List.mem_append.mp member with old | new
        · exact Int.le_trans (table.bounded row old) (by omega)
        · exact Int.le_of_eq (by rw [List.mem_singleton.mp new, numbered])
      distinct := by
        refine List.pairwise_append.mpr ⟨table.distinct, List.pairwise_singleton _ _, ?_⟩
        intro first firstMember second secondMember
        rw [List.mem_singleton.mp secondMember, numbered]
        have := table.bounded first firstMember
        omega
      admits := admits }
  else none

def deleteWhere (table : AutoTable schema) (selected : Row -> Bool) : AutoTable schema where
  rows := table.rows.filter fun row => !selected row
  sequence := table.sequence
  bounded := fun row member => table.bounded row (List.mem_filter.mp member).1
  distinct := table.distinct.filter _
  admits := ⟨table.admits.1.filter _, fun row member =>
    table.admits.2 row (List.mem_filter.mp member).1⟩

/-- The rows with the selected ones changed. -/
def changed (table : AutoTable schema) (selected : Row -> Bool) (change : Row -> Row) : List Row :=
  table.rows.map fun row => if selected row then change row else row

/-- Change every selected row without touching its number. -/
def updateWhere (table : AutoTable schema) (selected : Row -> Bool) (change : Row -> Row)
    (numbered : forall row, schema.key (change row) = schema.key row) :
    Option (AutoTable schema) :=
  if admits : schema.Admits (table.changed selected change) then
    some {
      rows := table.changed selected change
      sequence := table.sequence
      bounded := by
        intro row member
        rcases List.mem_map.mp member with ⟨old, oldMember, rfl⟩
        have := table.bounded old oldMember
        split
        · rw [numbered]
          exact this
        · exact this
      distinct := by
        refine List.pairwise_map.mpr (table.distinct.imp ?_)
        intro first second different
        have kept : forall row,
            schema.key (if selected row then change row else row) = schema.key row := by
          intro row
          split
          · exact numbered row
          · rfl
        rw [kept, kept]
        exact different
      admits := admits }
  else none

variable {table after : AutoTable schema} {selected : Row -> Bool}

/-- A number names at most one row. -/
theorem unique (table : AutoTable schema) {first second : Row} (firstMember : first ∈ table.rows)
    (secondMember : second ∈ table.rows) (same : schema.key first = schema.key second) :
    first = second := by
  by_contra different
  have symmetric : Std.Symm fun first second : Row => schema.key first ≠ schema.key second :=
    ⟨fun _ _ unequal => Ne.symm unequal⟩
  exact table.distinct.forall firstMember secondMember different same

/-- Two rows that would clash are one row. -/
theorem exclusive (table : AutoTable schema)
    (symmetry : forall first second, schema.clash first second = schema.clash second first)
    {first second : Row} (firstMember : first ∈ table.rows) (secondMember : second ∈ table.rows)
    (clash : schema.clash first second = true) : first = second := by
  by_contra different
  have symmetric : Std.Symm fun first second : Row => schema.clash first second = false :=
    ⟨fun _ _ apart => (symmetry _ _).trans apart⟩
  have apart := table.admits.1.forall firstMember secondMember different
  rw [clash] at apart
  cases apart

theorem find_mem {row : Row} (found : table.find selected = some row) : row ∈ table.rows :=
  List.mem_of_find?_eq_some found

theorem find_selected {row : Row} (found : table.find selected = some row) : selected row = true :=
  List.find?_some found

theorem find_none : table.find selected = none ↔
    forall row, row ∈ table.rows -> selected row = false := by
  simp [find, List.find?_eq_none]

theorem find_isSome (table : AutoTable schema) (selected : Row -> Bool) {row : Row}
    (member : row ∈ table.rows) (holds : selected row = true) :
    Exists fun found => table.find selected = some found := by
  cases result : table.find selected with
  | some found => exact ⟨found, rfl⟩
  | none =>
      have := find_none.mp result row member
      rw [holds] at this
      cases this

/-- Everything a successful insertion says about the new table. -/
theorem insert_some {make : Int -> Row} {numbered : forall number, schema.key (make number) = number}
    (inserted : table.insert make numbered = some after) :
    after.rows = table.rows ++ [make (table.sequence + 1)] ∧
      after.sequence = table.sequence + 1 := by
  unfold insert at inserted
  split at inserted
  · cases inserted
    exact ⟨rfl, rfl⟩
  · cases inserted

theorem updateWhere_some {change : Row -> Row}
    {numbered : forall row, schema.key (change row) = schema.key row}
    (updated : table.updateWhere selected change numbered = some after) :
    after.rows = table.changed selected change ∧ after.sequence = table.sequence := by
  unfold updateWhere at updated
  split at updated
  · cases updated
    exact ⟨rfl, rfl⟩
  · cases updated

theorem mem_insert {make : Int -> Row} {numbered : forall number, schema.key (make number) = number}
    (inserted : table.insert make numbered = some after) {row : Row} :
    row ∈ after.rows ↔ row ∈ table.rows ∨ row = make (table.sequence + 1) := by
  rw [(insert_some inserted).1]
  simp

@[simp] theorem mem_deleteWhere {row : Row} :
    row ∈ (table.deleteWhere selected).rows ↔ row ∈ table.rows ∧ selected row = false := by
  simp [deleteWhere]

theorem mem_updateWhere {change : Row -> Row}
    {numbered : forall row, schema.key (change row) = schema.key row}
    (updated : table.updateWhere selected change numbered = some after) {row : Row} :
    row ∈ after.rows ↔
      Exists fun old => old ∈ table.rows ∧ (if selected old then change old else old) = row := by
  rw [(updateWhere_some updated).1]
  simp [changed]

/-- A filter that fixes the number selects one row or none. -/
theorem count_eq_one {number : Int}
    (fixed : forall row, selected row = true -> schema.key row = number) :
    table.count selected = 1 ↔ Exists fun row => row ∈ table.rows ∧ selected row = true := by
  constructor
  · intro counted
    have positive : 0 < table.rows.countP selected := by
      change table.rows.countP selected = 1 at counted
      omega
    rcases List.countP_pos_iff.mp positive with ⟨row, member, holds⟩
    exact ⟨row, member, holds⟩
  · rintro ⟨row, member, holds⟩
    have positive : 0 < table.rows.countP selected :=
      List.countP_pos_iff.mpr ⟨row, member, holds⟩
    have atMost : table.rows.countP selected ≤ 1 := by
      have distinct := table.distinct
      generalize table.rows = rows at distinct
      clear positive member
      induction rows with
      | nil => exact Nat.zero_le 1
      | cons head tail inductionHypothesis =>
          rcases List.pairwise_cons.mp distinct with ⟨headDistinct, tailDistinct⟩
          rw [List.countP_cons]
          by_cases chosen : selected head = true
          · have none : tail.countP selected = 0 := by
              refine List.countP_eq_zero.mpr ?_
              intro other otherMember otherChosen
              exact headDistinct other otherMember ((fixed head chosen).trans (fixed other otherChosen).symm)
            exact Nat.le_of_eq (by rw [none, if_pos chosen])
          · rw [if_neg chosen]
            exact inductionHypothesis tailDistinct
    exact Nat.le_antisymm atMost positive

/-! ### How the statements change a count -/

section Counting

variable {counted : Row -> Bool}

/-- Rows that are not counted can be deleted. -/
theorem count_deleteWhere (disjoint : forall row, counted row = true -> selected row = false) :
    (table.deleteWhere selected).count counted = table.count counted := by
  unfold count deleteWhere
  rw [List.countP_filter]
  apply List.countP_congr
  intro row _
  constructor
  · intro both
    exact (Bool.and_eq_true_iff.mp both).1
  · intro counts
    rw [counts, disjoint row counts]
    rfl

variable {change : Row -> Row} {numbered : forall row, schema.key (change row) = schema.key row}

theorem count_updateWhere (updated : table.updateWhere selected change numbered = some after)
    (same : forall row, row ∈ table.rows -> selected row = true ->
      counted (change row) = counted row) :
    after.count counted = table.count counted := by
  unfold count
  rw [(updateWhere_some updated).1, changed, List.countP_map]
  apply List.countP_congr
  intro row member
  simp only [Function.comp_apply]
  split
  · rename_i chosen
    rw [same row member chosen]
  · exact Iff.rfl

/-- An update that stops one counted row from being counted. -/
theorem count_updateWhere_one (updated : table.updateWhere selected change numbered = some after)
    (single : table.count selected = 1)
    (was : forall row, selected row = true -> counted row = true)
    (gone : forall row, selected row = true -> counted (change row) = false) :
    table.count counted = after.count counted + 1 := by
  have before := List.countP_eq_countP_filter_add table.rows counted selected
  have afterwards := List.countP_eq_countP_filter_add table.rows
    (fun row => counted (if selected row then change row else row)) selected
  have chosen : (table.rows.filter selected).countP counted = 1 := by
    rw [List.countP_eq_length.mpr, ← List.countP_eq_length_filter]
    · exact single
    · intro row member
      exact was row (List.mem_filter.mp member).2
  have none : (table.rows.filter selected).countP
      (fun row => counted (if selected row then change row else row)) = 0 := by
    apply List.countP_eq_zero.mpr
    intro row member
    rw [if_pos (List.mem_filter.mp member).2, gone row (List.mem_filter.mp member).2]
    simp
  have rest : (table.rows.filter fun row => !selected row).countP
      (fun row => counted (if selected row then change row else row)) =
      (table.rows.filter fun row => !selected row).countP counted := by
    apply List.countP_congr
    intro row member
    have other := (List.mem_filter.mp member).2
    simp only [Bool.not_eq_true'] at other
    rw [other]
    simp
  have image : after.count counted = table.rows.countP
      (fun row => counted (if selected row then change row else row)) := by
    unfold count
    rw [(updateWhere_some updated).1, changed, List.countP_map]
    rfl
  have total : table.count counted = table.rows.countP counted := rfl
  omega

end Counting

/-! ### How the statements change a listing -/

section Listing

variable {listed : Row -> Bool}

theorem all_insert {make : Int -> Row} {numbered : forall number, schema.key (make number) = number}
    (inserted : table.insert make numbered = some after) :
    after.all listed = table.all listed ++ [make (table.sequence + 1)].filter listed := by
  unfold all
  rw [(insert_some inserted).1, List.filter_append]

/-- Rows that are not listed can be deleted. -/
theorem all_deleteWhere (disjoint : forall row, listed row = true -> selected row = false) :
    (table.deleteWhere selected).all listed = table.all listed := by
  unfold all deleteWhere
  rw [List.filter_filter]
  apply List.filter_congr
  intro row _
  cases shown : listed row with
  | false => rfl
  | true =>
      rw [disjoint row shown]
      rfl

variable {change : Row -> Row} {numbered : forall row, schema.key (change row) = schema.key row}

/-- An update that does not touch what a listing looks at. -/
theorem map_all_updateWhere {α : Type} {view : Row -> α}
    (updated : table.updateWhere selected change numbered = some after)
    (same : forall row, listed (change row) = listed row ∧ view (change row) = view row) :
    (after.all listed).map view = (table.all listed).map view := by
  unfold all
  rw [(updateWhere_some updated).1, changed]
  induction table.rows with
  | nil => rfl
  | cons row rest inductionHypothesis =>
      have kept : listed (if selected row then change row else row) = listed row ∧
          view (if selected row then change row else row) = view row := by
        split
        · exact same row
        · exact ⟨rfl, rfl⟩
      rw [List.map_cons, List.filter_cons, List.filter_cons, kept.1]
      split
      · rw [List.map_cons, List.map_cons, inductionHypothesis, kept.2]
      · exact inductionHypothesis

/-- An update after which nothing that it selected is listed. -/
theorem all_updateWhere_gone (updated : table.updateWhere selected change numbered = some after)
    (gone : forall row, selected row = true -> listed (change row) = false) :
    after.all listed = (table.all listed).filter fun row => !selected row := by
  unfold all
  rw [(updateWhere_some updated).1, changed]
  induction table.rows with
  | nil => rfl
  | cons row rest inductionHypothesis =>
      rw [List.map_cons, List.filter_cons, inductionHypothesis, @List.filter_cons _ row rest listed]
      cases chosen : selected row with
      | true =>
          rw [if_pos rfl, gone row chosen, if_neg Bool.false_ne_true]
          split
          · rw [List.filter_cons, chosen]
            rfl
          · rfl
      | false =>
          rw [if_neg Bool.false_ne_true]
          split
          · rw [List.filter_cons, chosen]
            rfl
          · rfl

/-- One row is taken out of a listing by its number. -/
theorem filter_all_number {front back : List Row} {row : Row}
    (parts : table.all listed = front ++ row :: back) (chosen : selected row = true)
    (fixed : forall other, selected other = true -> schema.key other = schema.key row) :
    (table.all listed).filter (fun other => !selected other) = front ++ back := by
  have distinct : (table.all listed).Pairwise fun first second =>
      schema.key first ≠ schema.key second := table.distinct.filter _
  rw [parts] at distinct ⊢
  rcases List.pairwise_append.mp distinct with ⟨-, others, across⟩
  rw [List.filter_append, List.filter_cons, chosen, List.filter_eq_self.mpr,
    List.filter_eq_self.mpr]
  · rfl
  · intro other member
    cases taken : selected other with
    | false => rfl
    | true =>
        exact absurd (fixed other taken).symm ((List.pairwise_cons.mp others).1 other member)
  · intro other member
    cases taken : selected other with
    | false => rfl
    | true => exact absurd (fixed other taken) (across other member row List.mem_cons_self)

end Listing

/-!
## Earlier and later contents of one table
-/

/-- Rows whose number had been issued come from rows that were there, and the
relation says how such a row may have changed. -/
def Evolves (become : Row -> Row -> Prop) (before after : AutoTable schema) : Prop :=
  before.sequence ≤ after.sequence ∧
    forall row, row ∈ after.rows -> schema.key row ≤ before.sequence ->
      Exists fun old => old ∈ before.rows ∧ schema.key old = schema.key row ∧ become old row

section Evolution

variable {become : Row -> Row -> Prop}

theorem Evolves.refl (reflexive : forall row, become row row) (table : AutoTable schema) :
    Evolves become table table :=
  ⟨Int.le_refl _, fun row member _ => ⟨row, member, rfl, reflexive row⟩⟩

theorem Evolves.trans (transitive : forall {first second third}, become first second ->
      become second third -> become first third)
    {first second third : AutoTable schema} (one : Evolves become first second)
    (two : Evolves become second third) : Evolves become first third := by
  refine ⟨Int.le_trans one.1 two.1, ?_⟩
  intro row member issued
  rcases two.2 row member (Int.le_trans issued one.1) with
      ⟨middle, middleMember, middleKey, changed⟩
  rcases one.2 middle middleMember (by rw [middleKey]; exact issued) with
      ⟨old, oldMember, oldKey, earlier⟩
  exact ⟨old, oldMember, oldKey.trans middleKey, transitive earlier changed⟩

/-- The same number before and after means the same row, changed as allowed. -/
theorem Evolves.row {before after : AutoTable schema} (evolves : Evolves become before after)
    {old row : Row} (oldMember : old ∈ before.rows) (member : row ∈ after.rows)
    (same : schema.key old = schema.key row) : become old row := by
  rcases evolves.2 row member (by rw [← same]; exact before.bounded old oldMember) with
      ⟨found, foundMember, foundKey, changed⟩
  rw [before.unique oldMember foundMember (same.trans foundKey.symm)]
  exact changed

theorem evolves_insert (reflexive : forall row, become row row) {make : Int -> Row}
    {numbered : forall number, schema.key (make number) = number}
    (inserted : table.insert make numbered = some after) : Evolves become table after := by
  refine ⟨by rw [(insert_some inserted).2]; omega, ?_⟩
  intro row member issued
  rcases (mem_insert inserted).mp member with old | rfl
  · exact ⟨row, old, rfl, reflexive row⟩
  · rw [numbered] at issued
    omega

theorem evolves_deleteWhere (reflexive : forall row, become row row) (table : AutoTable schema)
    (selected : Row -> Bool) : Evolves become table (table.deleteWhere selected) := by
  refine ⟨Int.le_refl _, ?_⟩
  intro row member _
  exact ⟨row, (mem_deleteWhere.mp member).1, rfl, reflexive row⟩

theorem evolves_updateWhere (reflexive : forall row, become row row) {change : Row -> Row}
    {numbered : forall row, schema.key (change row) = schema.key row}
    (updated : table.updateWhere selected change numbered = some after)
    (changes : forall row, row ∈ table.rows -> selected row = true -> become row (change row)) :
    Evolves become table after := by
  refine ⟨Int.le_of_eq (updateWhere_some updated).2.symm, ?_⟩
  intro row member _
  rcases (mem_updateWhere updated).mp member with ⟨old, oldMember, rfl⟩
  by_cases chosen : selected old = true
  · rw [if_pos chosen]
    exact ⟨old, oldMember, (numbered old).symm, changes old oldMember chosen⟩
  · rw [if_neg chosen]
    exact ⟨old, oldMember, rfl, reflexive old⟩

end Evolution
end AutoTable
end Storage
