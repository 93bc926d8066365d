import KrakenUi.Sql.Ordering
import Mathlib.Algebra.BigOperators.Group.List.Lemmas
import Mathlib.Data.List.AList

namespace Sql

/-!
# Grouped rows and how many they are

A query that groups its rows by a column and counts them returns one row for
each value.  A program that counts in a table of its own ends up with the same
groups, in an order of the table.

Of the groups in descending order, a limit shows the largest.  Groups that tie
with the last one shown may be missing.
-/

variable {label : Type} [DecidableEq label]

/-- The groups, each with the number of its rows. -/
def groups (labels : List label) : List (label × Nat) :=
  labels.dedup.map fun value => (value, labels.count value)

/-- The rows of all groups together. -/
def total (shown : List (label × Nat)) : Nat :=
  shown.foldr (fun group rest => group.2 + rest) 0

section Groups

variable {labels : List label} {value : label} {number : Nat}

theorem mem_groups : (value, number) ∈ groups labels ↔
    value ∈ labels ∧ number = labels.count value := by
  unfold groups
  rw [List.mem_map]
  constructor
  · rintro ⟨other, member, same⟩
    cases same
    exact ⟨List.mem_dedup.mp member, rfl⟩
  · rintro ⟨member, rfl⟩
    exact ⟨value, List.mem_dedup.mpr member, rfl⟩

theorem fst_groups (labels : List label) : (groups labels).map Prod.fst = labels.dedup := by
  unfold groups
  rw [List.map_map]
  exact List.map_id _

theorem nodup_groups (labels : List label) : ((groups labels).map Prod.fst).Nodup := by
  rw [fst_groups]
  exact List.nodup_dedup labels

omit [DecidableEq label] in
theorem total_perm {shown other : List (label × Nat)} (same : shown.Perm other) :
    total shown = total other := by
  unfold total
  refine same.foldr_eq' ?_ 0
  intro first _ second _ rest
  exact Nat.add_left_comm _ _ _

/-- Every row is in one group. -/
theorem total_groups (labels : List label) : total (groups labels) = labels.length := by
  have counted := List.sum_map_count_dedup_eq_length labels
  rw [List.sum_eq_foldr, List.foldr_map] at counted
  unfold total groups
  rw [List.foldr_map]
  exact counted

end Groups

/-! ## Counting in a table -/

/-- One more row. -/
def increment (counts : AList fun _ : label => Nat) (value : label) :
    AList fun _ : label => Nat :=
  counts.insert value ((counts.lookup value).getD 0 + 1)

def tally (labels : List label) : AList fun _ : label => Nat :=
  labels.foldl increment ∅

/-- The entries of a table, in the order in which they are kept. -/
def entries (counts : AList fun _ : label => Nat) : List (label × Nat) :=
  counts.entries.map fun entry => (entry.1, entry.2)

section Tallies

variable {labels : List label} {value : label} {number : Nat}
  {counts : AList fun _ : label => Nat}

theorem tally_append (labels : List label) (value : label) :
    tally (labels ++ [value]) = increment (tally labels) value := by
  unfold tally
  rw [List.foldl_append]
  rfl

theorem lookup_tally (labels : List label) (value : label) :
    (tally labels).lookup value =
      if labels.count value = 0 then none else some (labels.count value) := by
  induction labels using List.reverseRecOn with
  | nil => rfl
  | append_singleton labels last inductionHypothesis =>
      rw [tally_append, increment, List.count_append, List.count_singleton]
      by_cases same : value = last
      · subst same
        rw [AList.lookup_insert, inductionHypothesis, beq_self_eq_true, if_pos rfl,
          if_neg (Nat.succ_ne_zero _)]
        split
        · rename_i none'
          rw [none']
          rfl
        · rfl
      · have different : (last == value) = false := beq_false_of_ne (Ne.symm same)
        rw [AList.lookup_insert_ne same, inductionHypothesis, different,
          if_neg Bool.false_ne_true, Nat.add_zero]

theorem mem_entries : (value, number) ∈ entries counts ↔ counts.lookup value = some number := by
  unfold entries
  rw [List.mem_map]
  constructor
  · rintro ⟨⟨other, found⟩, member, same⟩
    cases same
    exact AList.mem_lookup_iff.mpr member
  · intro found
    exact ⟨⟨value, number⟩, AList.mem_lookup_iff.mp found, rfl⟩

omit [DecidableEq label] in
theorem fst_entries (counts : AList fun _ : label => Nat) :
    (entries counts).map Prod.fst = counts.keys := by
  unfold entries
  rw [List.map_map]
  rfl

/-- The table counts the groups. -/
theorem entries_tally (labels : List label) : (entries (tally labels)).Perm (groups labels) := by
  have unique : ((entries (tally labels)).map Prod.fst).Nodup := by
    rw [fst_entries]
    exact (tally labels).keys_nodup
  apply (List.perm_ext_iff_of_nodup unique.of_map (nodup_groups labels).of_map).mpr
  rintro ⟨value, number⟩
  rw [mem_entries, mem_groups, lookup_tally]
  constructor
  · intro found
    split at found
    · cases found
    · rename_i some'
      cases found
      exact ⟨List.count_pos_iff.mp (Nat.pos_of_ne_zero some'), rfl⟩
  · rintro ⟨member, rfl⟩
    exact if_neg (Nat.ne_of_gt (List.count_pos_iff.mpr member))

end Tallies

/-! ## The largest groups -/

/-- What a limit shows of the groups of a column. -/
structure Tops (labels : List label) (limit : Nat) (shown : List (label × Nat)) : Prop where
  few : shown.length ≤ limit
  distinct : (shown.map Prod.fst).Nodup
  exactly : forall value number, (value, number) ∈ shown ->
    value ∈ labels ∧ number = labels.count value
  descending : shown.Pairwise fun first second => second.2 ≤ first.2
  largest : forall value, value ∈ labels -> value ∉ shown.map Prod.fst ->
    shown.length = limit ∧
      forall other number, (other, number) ∈ shown -> labels.count value ≤ number

theorem tops_take {labels : List label} {answer : List (label × Nat)}
    (arranged : Arranged (column Prod.snd true) (groups labels) answer) (limit : Nat) :
    Tops labels limit (answer.take limit) where
  few := List.length_take_le _ _
  distinct := by
    have whole : (answer.map Prod.fst).Nodup :=
      (arranged.perm.map Prod.fst).nodup_iff.mpr (nodup_groups labels)
    exact whole.sublist ((List.take_sublist limit answer).map Prod.fst)
  exactly := by
    intro value number member
    exact mem_groups.mp (arranged.perm.mem_iff.mp (List.mem_of_mem_take member))
  descending := arranged.sorted.sublist (List.take_sublist limit answer)
  largest := by
    intro value member hidden
    have group : (value, labels.count value) ∈ answer :=
      arranged.perm.mem_iff.mpr (mem_groups.mpr ⟨member, rfl⟩)
    have parted := List.take_append_drop limit answer
    rw [← parted, List.mem_append] at group
    rcases group with front | back
    · exact absurd (List.mem_map_of_mem front) hidden
    · constructor
      · have some' : limit < answer.length := by
          apply Nat.lt_of_not_le
          intro short
          rw [List.drop_eq_nil_of_le short] at back
          cases back
        rw [List.length_take, Nat.min_eq_left (Nat.le_of_lt some')]
      · intro other number front
        have sorted := arranged.sorted
        rw [← parted] at sorted
        exact (List.pairwise_append.mp sorted).2.2 _ front _ back

/-- In an order without ties there is one answer. -/
theorem Arranged.unique {row : Type} {le : row -> row -> Prop}
    (antisymm : forall a b, le a b -> le b a -> a = b) {rows answer other : List row}
    (arranged : Arranged le rows answer) (again : Arranged le rows other) : answer = other := by
  have symmetric : Std.Antisymm le := ⟨antisymm⟩
  exact (arranged.perm.trans again.perm.symm).eq_of_pairwise' arranged.sorted again.sorted

end Sql
