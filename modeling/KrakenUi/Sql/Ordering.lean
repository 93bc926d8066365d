import Mathlib.Data.List.Nodup
import Mathlib.Data.List.Sort
import Mathlib.Data.List.Range

namespace Sql

/-!
# Ordered queries and their pages

A query with an `ORDER BY` clause returns its rows in some order that the
clause allows.  Rows that tie may stand either way around, and another time
the other way around.  A page is a slice of the answer to a query of its own.

Pages of one length show every row exactly once, whatever the orders of their
queries, exactly when no group of ties crosses the end of a page.
-/

variable {row : Type}

/-- An order in which two rows may tie. -/
structure Ranks (le : row -> row -> Prop) : Prop where
  total : forall a b, le a b ∨ le b a
  trans : forall {a b c}, le a b -> le b c -> le a c

/-- The terms of an `ORDER BY` clause: a later one orders the ties of those before it. -/
def orderBy : List (row -> row -> Prop) -> row -> row -> Prop
  | [], _, _ => True
  | term :: terms, a, b => term a b ∧ (term b a -> orderBy terms a b)

theorem Ranks.orderBy {terms : List (row -> row -> Prop)}
    (ranks : forall term, term ∈ terms -> Ranks term) : Ranks (Sql.orderBy terms) := by
  induction terms with
  | nil =>
      constructor
      · intro a b
        exact Or.inl True.intro
      · intro a b c first second
        exact True.intro
  | cons term terms inductionHypothesis =>
      have first := ranks term List.mem_cons_self
      have later := inductionHypothesis fun other member =>
        ranks other (List.mem_cons_of_mem term member)
      constructor
      · intro a b
        by_cases there : term a b
        · by_cases back : term b a
          · rcases later.total a b with before | behind
            · exact Or.inl ⟨there, fun _ => before⟩
            · exact Or.inr ⟨back, fun _ => behind⟩
          · exact Or.inl ⟨there, fun impossible => absurd impossible back⟩
        · rcases first.total a b with impossible | back
          · exact absurd impossible there
          · exact Or.inr ⟨back, fun impossible => absurd impossible there⟩
      · intro a b c left right
        refine ⟨first.trans left.1 right.1, ?_⟩
        intro round
        have firstTie := first.trans right.1 round
        have secondTie := first.trans round left.1
        exact later.trans (left.2 firstTie) (right.2 secondTie)

/-- Order by a column, in one direction or the other. -/
def column {key : Type} [LE key] (value : row -> key) (descending : Bool) (a b : row) : Prop :=
  if descending then value b ≤ value a else value a ≤ value b

instance {key : Type} [LE key] [DecidableLE key] (value : row -> key) (descending : Bool) :
    DecidableRel (column value descending) := fun a b =>
  inferInstanceAs (Decidable (if descending then value b ≤ value a else value a ≤ value b))

theorem Ranks.column {key : Type} [LinearOrder key] (value : row -> key) (descending : Bool) :
    Ranks (Sql.column value descending) := by
  cases descending with
  | false =>
      constructor
      · intro a b
        exact le_total (value a) (value b)
      · intro a b c first second
        exact @le_trans key _ _ _ _ first second
  | true =>
      constructor
      · intro a b
        exact le_total (value b) (value a)
      · intro a b c first second
        exact @le_trans key _ _ _ _ second first

/-- The rows of an answer: all of them, in an order that is allowed. -/
structure Arranged (le : row -> row -> Prop) (rows answer : List row) : Prop where
  perm : answer.Perm rows
  sorted : answer.Pairwise le

/-- Rows that tie may be exchanged. -/
theorem Arranged.exchange {le : row -> row -> Prop} {rows front back : List row} {x y : row}
    (arranged : Arranged le rows (front ++ x :: y :: back)) (tie : le y x) :
    Arranged le rows (front ++ y :: x :: back) := by
  constructor
  · exact (List.Perm.append_left front (List.Perm.swap x y back)).trans arranged.perm
  · have parts := List.pairwise_append.mp arranged.sorted
    have first := List.pairwise_cons.mp parts.2.1
    have second := List.pairwise_cons.mp first.2
    apply List.pairwise_append.mpr
    refine ⟨parts.1, ?_, ?_⟩
    · apply List.pairwise_cons.mpr
      constructor
      · intro b member
        rcases List.mem_cons.mp member with rfl | later
        · exact tie
        · exact second.1 b later
      · apply List.pairwise_cons.mpr
        exact ⟨fun b member => first.1 b (List.mem_cons_of_mem y member), second.2⟩
    · intro b among c member
      apply parts.2.2 b among c
      rcases List.mem_cons.mp member with rfl | rest
      · exact List.mem_cons_of_mem x List.mem_cons_self
      · rcases List.mem_cons.mp rest with rfl | later
        · exact List.mem_cons_self
        · exact List.mem_cons_of_mem x (List.mem_cons_of_mem y later)

section

variable {le : row -> row -> Prop} [DecidableRel le]

theorem exists_arranged (ranks : Ranks le) (rows : List row) :
    Exists fun answer => Arranged le rows answer := by
  refine ⟨rows.mergeSort fun a b => decide (le a b), List.mergeSort_perm _ _, ?_⟩
  have sorted := @List.pairwise_mergeSort _ (fun a b => decide (le a b))
    (fun a b c first second => decide_eq_true
      (ranks.trans (of_decide_eq_true first) (of_decide_eq_true second)))
    (fun a b => by
      rw [Bool.or_eq_true, decide_eq_true_eq, decide_eq_true_eq]
      exact ranks.total a b) rows
  exact sorted.imp fun ordered => of_decide_eq_true ordered

/-- How many rows stand before this one in every answer. -/
def ahead (le : row -> row -> Prop) [DecidableRel le] (rows : List row) (a : row) : Nat :=
  rows.countP fun b => decide (¬ le a b)

/-- How many rows may stand at or before the place of this one. -/
def upTo (le : row -> row -> Prop) [DecidableRel le] (rows : List row) (a : row) : Nat :=
  rows.countP fun b => decide (le b a)

/-- No group of ties crosses this place. -/
def Clean (le : row -> row -> Prop) [DecidableRel le] (rows : List row) (place : Nat) : Prop :=
  forall a, a ∈ rows -> ahead le rows a < place -> upTo le rows a ≤ place

/-- Where a row can stand. -/
theorem Arranged.place {rows front back : List row} {a : row} (ranks : Ranks le)
    (arranged : Arranged le rows (front ++ a :: back)) :
    ahead le rows a ≤ front.length ∧ front.length < upTo le rows a := by
  have parts := List.pairwise_append.mp arranged.sorted
  have behind := List.pairwise_cons.mp parts.2.1
  have self : le a a := (ranks.total a a).elim id id
  constructor
  · unfold ahead
    rw [← arranged.perm.countP_eq, List.countP_append]
    have none' : (a :: back).countP (fun b => decide (¬ le a b)) = 0 := by
      apply List.countP_eq_zero.mpr
      intro b member
      rcases List.mem_cons.mp member with rfl | later
      · simpa using self
      · simpa using behind.1 b later
    rw [none', Nat.add_zero]
    exact List.countP_le_length
  · unfold upTo
    rw [← arranged.perm.countP_eq, List.countP_append]
    have all : front.countP (fun b => decide (le b a)) = front.length := by
      apply List.countP_eq_length.mpr
      intro b member
      exact decide_eq_true (parts.2.2 b member a List.mem_cons_self)
    rw [all, List.countP_cons_of_pos (by simpa using self)]
    omega

/-- What stands before a clean place is the same in every answer. -/
theorem Arranged.take_filter {rows answer : List row} {place : Nat} (ranks : Ranks le)
    (arranged : Arranged le rows answer) (clean : Clean le rows place) :
    answer.take place = answer.filter fun a => decide (upTo le rows a ≤ place) := by
  have before : forall a, a ∈ answer.take place -> upTo le rows a ≤ place := by
    intro a member
    rcases List.append_of_mem member with ⟨front, back, parts⟩
    have whole : answer = front ++ a :: (back ++ answer.drop place) := by
      rw [← List.cons_append, ← List.append_assoc, ← parts, List.take_append_drop]
    have short : front.length < place := by
      have lengths := congrArg List.length parts
      have bound := List.length_take_le place answer
      simp only [List.length_append, List.length_cons] at lengths
      omega
    rw [whole] at arranged
    have found := arranged.perm.mem_iff.mp (List.mem_append_right front List.mem_cons_self)
    exact clean a found (Nat.lt_of_le_of_lt (arranged.place ranks).1 short)
  have after : forall a, a ∈ answer.drop place -> ¬ upTo le rows a ≤ place := by
    intro a member
    rcases List.append_of_mem member with ⟨front, back, parts⟩
    have some' : place < answer.length := by
      apply Nat.lt_of_not_le
      intro short
      rw [List.drop_eq_nil_of_le short] at member
      cases member
    have whole : answer = (answer.take place ++ front) ++ a :: back := by
      rw [List.append_assoc, ← parts, List.take_append_drop]
    have length : (answer.take place ++ front).length = place + front.length := by
      rw [List.length_append, List.length_take, Nat.min_eq_left (Nat.le_of_lt some')]
    rw [whole] at arranged
    have bound := (arranged.place ranks).2
    omega
  conv => rhs; rw [← List.take_append_drop place answer]
  rw [List.filter_append, List.filter_eq_self.mpr fun a member => decide_eq_true (before a member),
    List.filter_eq_nil_iff.mpr fun a member => by simpa using after a member, List.append_nil]

theorem Clean.take_perm {rows answer other : List row} {place : Nat} (ranks : Ranks le)
    (clean : Clean le rows place) (arranged : Arranged le rows answer)
    (again : Arranged le rows other) : (answer.take place).Perm (other.take place) := by
  rw [arranged.take_filter ranks clean, again.take_filter ranks clean]
  exact (arranged.perm.trans again.perm.symm).filter _

end

/-- The rows that `LIMIT` and `OFFSET` leave. -/
def slice (answer : List row) (offset limit : Nat) : List row :=
  (answer.drop offset).take limit

/-- Pages of one length, each from the answer to a query of its own. -/
def pages (answers : Nat -> List row) (length count : Nat) : List row :=
  (List.range count).flatMap fun page => slice (answers page) (page * length) length

theorem pages_succ (answers : Nat -> List row) (length count : Nat) :
    pages answers length (count + 1) =
      pages answers length count ++ slice (answers count) (count * length) length := by
  unfold pages
  rw [List.range_succ, List.flatMap_append, List.flatMap_singleton]

/-- Pages of one answer show it from the front, in its order. -/
theorem pages_same (answer : List row) (length count : Nat) :
    pages (fun _ => answer) length count = answer.take (count * length) := by
  induction count with
  | zero =>
      rw [Nat.zero_mul]
      rfl
  | succ count inductionHypothesis =>
      rw [pages_succ, inductionHypothesis, Nat.succ_mul, List.take_add]
      rfl

/-- Rows are recognised by a key that is unique. -/
theorem perm_of_keys {key : Type} {value : row -> key} {rows shown : List row}
    (unique : (rows.map value).Nodup) (inside : forall x, x ∈ shown -> x ∈ rows)
    (same : (shown.map value).Perm (rows.map value)) : shown.Perm rows := by
  apply (List.perm_ext_iff_of_nodup (same.nodup_iff.mpr unique).of_map unique.of_map).mpr
  intro x
  constructor
  · exact inside x
  · intro member
    rcases List.mem_map.mp (same.mem_iff.mpr (List.mem_map_of_mem member)) with ⟨y, among, equal⟩
    rw [List.inj_on_of_nodup_map unique member (inside y among) equal.symm]
    exact among

theorem slice_min {answer : List row} {bound : Nat} (short : answer.length ≤ bound)
    (offset limit : Nat) : slice answer (min offset bound) limit = slice answer offset limit := by
  by_cases inside : offset ≤ bound
  · rw [Nat.min_eq_left inside]
  · rw [Nat.min_eq_right (by omega), slice, slice, List.drop_eq_nil_of_le short,
      List.drop_eq_nil_of_le (by omega)]

theorem mem_pages {answers : Nat -> List row} {length count : Nat} {x : row}
    (member : x ∈ pages answers length count) : Exists fun page => x ∈ answers page := by
  rcases List.mem_flatMap.mp member with ⟨page, -, inside⟩
  exact ⟨page, List.mem_of_mem_drop (List.mem_of_mem_take inside)⟩

section

variable {le : row -> row -> Prop} [DecidableRel le]

/-- Pages between clean places show what stands before the last of them. -/
theorem pages_take {rows : List row} {answers : Nat -> List row} {length : Nat}
    (ranks : Ranks le) (arranged : forall page, Arranged le rows (answers page))
    (clean : forall page, Clean le rows (page * length)) (count : Nat) :
    (pages answers length count).Perm ((answers count).take (count * length)) := by
  induction count with
  | zero =>
      rw [Nat.zero_mul]
      exact List.Perm.refl []
  | succ count inductionHypothesis =>
      have step : (answers count).take ((count + 1) * length) =
          (answers count).take (count * length) ++ slice (answers count) (count * length) length := by
        rw [Nat.succ_mul, List.take_add]
        rfl
      rw [pages_succ]
      apply (List.Perm.append_right _ inductionHypothesis).trans
      rw [← step]
      exact (clean (count + 1)).take_perm ranks (arranged count) (arranged (count + 1))

theorem pages_perm {rows : List row} {answers : Nat -> List row} {length count : Nat}
    (ranks : Ranks le) (arranged : forall page, Arranged le rows (answers page))
    (clean : forall page, Clean le rows (page * length)) (cover : rows.length ≤ count * length) :
    (pages answers length count).Perm rows := by
  apply (pages_take ranks arranged clean count).trans
  rw [List.take_of_length_le]
  · exact (arranged count).perm
  · rw [(arranged count).perm.length_eq]
    exact cover

/-- The two rows at a place that is not clean tie. -/
theorem Arranged.tie {rows front back : List row} {a x y : row} (ranks : Ranks le)
    (arranged : Arranged le rows (front ++ x :: y :: back))
    (start : ahead le rows a < front.length + 1) (stop : front.length + 1 < upTo le rows a) :
    le y x := by
  have whole : front ++ x :: y :: back = (front ++ [x]) ++ y :: back := by simp
  have after : le y a := by
    by_contra later
    have short : upTo le rows a ≤ front.length + 1 := by
      unfold upTo
      rw [← arranged.perm.countP_eq, whole, List.countP_append]
      have none' : (y :: back).countP (fun b => decide (le b a)) = 0 := by
        have sorted := arranged.sorted
        rw [whole] at sorted
        have behind := List.pairwise_cons.mp (List.pairwise_append.mp sorted).2.1
        apply List.countP_eq_zero.mpr
        intro b member
        rcases List.mem_cons.mp member with rfl | among
        · simpa using later
        · simpa using fun ordered => later (ranks.trans (behind.1 b among) ordered)
      have bound := @List.countP_le_length _ (fun b => decide (le b a)) (front ++ [x])
      rw [List.length_append, List.length_singleton] at bound
      omega
    omega
  have before : le a x := by
    by_contra earlier
    have long : front.length + 1 ≤ ahead le rows a := by
      unfold ahead
      rw [← arranged.perm.countP_eq, whole, List.countP_append]
      have all : (front ++ [x]).countP (fun b => decide (¬ le a b)) = front.length + 1 := by
        have parts := (List.pairwise_append.mp arranged.sorted).2.2
        rw [← List.length_singleton (a := x), ← List.length_append]
        apply List.countP_eq_length.mpr
        intro b member
        rcases List.mem_append.mp member with among | last
        · exact decide_eq_true fun ordered =>
            earlier (ranks.trans ordered (parts b among x List.mem_cons_self))
        · rw [List.mem_singleton.mp last]
          exact decide_eq_true earlier
      omega
    omega
  exact ranks.trans after before

/-- Where only equal rows tie, every place is clean. -/
theorem clean_of_antisymm {rows : List row} (ranks : Ranks le) (nodup : rows.Nodup)
    (antisymm : forall a, a ∈ rows -> forall b, b ∈ rows -> le a b -> le b a -> a = b)
    (place : Nat) : Clean le rows place := by
  rcases exists_arranged ranks rows with ⟨answer, arranged⟩
  intro a member start
  rcases List.append_of_mem (arranged.perm.mem_iff.mpr member) with ⟨front, back, rfl⟩
  have parts := List.pairwise_append.mp arranged.sorted
  have behind := (List.pairwise_cons.mp parts.2.1).1
  have apart := arranged.perm.nodup_iff.mpr nodup
  have listed : forall b, b ∈ front ++ a :: back -> b ∈ rows := fun b among =>
    arranged.perm.mem_iff.mp among
  have all : front.countP (fun b => decide (¬ le a b)) = front.length := by
    apply List.countP_eq_length.mpr
    intro b among
    apply decide_eq_true
    intro back'
    have same := antisymm a member b (listed b (List.mem_append_left _ among)) back'
      (parts.2.2 b among a List.mem_cons_self)
    exact (List.nodup_append.mp apart).2.2 b among a List.mem_cons_self same.symm
  have few : (a :: back).countP (fun b => decide (le b a)) ≤ 1 := by
    have none' : back.countP (fun b => decide (le b a)) = 0 := by
      apply List.countP_eq_zero.mpr
      intro b among ordered
      have same := antisymm a member b
        (listed b (List.mem_append_right front (List.mem_cons_of_mem a among)))
        (behind b among) (of_decide_eq_true ordered)
      rw [← same] at among
      exact (List.nodup_cons.mp (List.nodup_append.mp apart).2.1).1 among
    rw [List.countP_cons, none']
    split <;> omega
  have aheadBound : front.length ≤ ahead le rows a := by
    unfold ahead
    rw [← arranged.perm.countP_eq, List.countP_append, all]
    exact Nat.le_add_right _ _
  have upToBound : upTo le rows a ≤ front.length + 1 := by
    unfold upTo
    rw [← arranged.perm.countP_eq, List.countP_append]
    have bound := @List.countP_le_length _ (fun b => decide (le b a)) front
    omega
  omega

/-- When a place is not clean, two answers show one row on both sides of it. -/
theorem exists_repeated {rows : List row} {place : Nat} (ranks : Ranks le)
    (unclean : ¬ Clean le rows place) (positive : 0 < place) :
    Exists fun first => Exists fun second => Exists fun x =>
      Arranged le rows first ∧ Arranged le rows second ∧ first[place - 1]? = some x ∧
        second[place]? = some x := by
  rcases exists_arranged ranks rows with ⟨answer, arranged⟩
  unfold Clean at unclean
  push Not at unclean
  rcases unclean with ⟨a, -, start, stop⟩
  have inside : place < answer.length := by
    rw [arranged.perm.length_eq]
    exact Nat.lt_of_lt_of_le stop List.countP_le_length
  have before : place - 1 < answer.length := by omega
  have place' : place - 1 + 1 = place := by omega
  have whole : answer = answer.take (place - 1) ++ answer[place - 1] :: answer[place] ::
      answer.drop (place + 1) := by
    conv => lhs; rw [← List.take_append_drop (place - 1) answer, List.drop_eq_getElem_cons before]
    congr 2
    simp only [place']
    exact List.drop_eq_getElem_cons inside
  have front : (answer.take (place - 1)).length = place - 1 := by
    rw [List.length_take, Nat.min_eq_left (Nat.le_of_lt before)]
  have cut := arranged
  rw [whole] at cut
  have tie := @Arranged.tie _ le _ rows _ _ a _ _ ranks cut (by rw [front]; omega)
    (by rw [front]; omega)
  refine ⟨answer, _, answer[place - 1], arranged, cut.exchange tie, ?_, ?_⟩
  · exact List.getElem?_eq_getElem before
  · rw [List.getElem?_append_right (by rw [front]; omega), front]
    have one : place - (place - 1) = 1 := by omega
    rw [one]
    rfl

theorem mem_slice {answer : List row} {offset limit place : Nat} {x : row}
    (found : answer[place]? = some x) (start : offset ≤ place) (stop : place < offset + limit) :
    x ∈ slice answer offset limit := by
  unfold slice
  apply List.mem_of_getElem? (i := place - offset)
  rw [List.getElem?_take_of_lt (by omega), List.getElem?_drop, Nat.add_sub_cancel' start]
  exact found

/-- Pages show every row exactly once, whatever the orders of their queries, exactly when no
group of ties crosses the end of a page. -/
theorem pages_perm_iff {rows : List row} (ranks : Ranks le) (nodup : rows.Nodup)
    {length count : Nat} (positive : 0 < length) (cover : rows.length ≤ count * length) :
    (forall answers : Nat -> List row, (forall page, Arranged le rows (answers page)) ->
        (pages answers length count).Perm rows) ↔
      forall page, Clean le rows (page * length) := by
  constructor
  · intro always page
    by_contra unclean
    have later : 0 < page := by
      apply Nat.pos_of_ne_zero
      rintro rfl
      apply unclean
      intro a _ impossible
      rw [Nat.zero_mul] at impossible
      exact absurd impossible (Nat.not_lt_zero _)
    have place : 0 < page * length := Nat.mul_pos later positive
    rcases exists_repeated ranks unclean place with
        ⟨first, second, x, arranged, again, before, after⟩
    have within : page < count := by
      have inside := (List.getElem?_eq_some_iff.mp after).1
      rw [again.perm.length_eq] at inside
      exact Nat.lt_of_mul_lt_mul_right (Nat.lt_of_lt_of_le inside cover)
    have shown := always (fun other => if other = page then second else first) (by
      intro other
      split
      · exact again
      · exact arranged)
    have once := (List.nodup_flatMap.mp (shown.nodup_iff.mpr nodup)).2
    have apart := List.pairwise_iff_getElem.mp once (page - 1) page
      (by rw [List.length_range]; omega) (by rw [List.length_range]; exact within) (by omega)
    rw [List.getElem_range, List.getElem_range] at apart
    have previous : page * length = (page - 1) * length + length := by
      rw [← Nat.succ_mul, Nat.succ_eq_add_one, Nat.sub_add_cancel later]
    apply apart (a := x)
    · change x ∈ slice (if page - 1 = page then second else first) _ _
      rw [if_neg (by omega)]
      exact mem_slice before (by omega) (by omega)
    · change x ∈ slice (if page = page then second else first) _ _
      rw [if_pos rfl]
      exact mem_slice after (Nat.le_refl _) (by omega)
  · intro clean answers arranged
    exact pages_perm ranks arranged clean cover

end

end Sql
