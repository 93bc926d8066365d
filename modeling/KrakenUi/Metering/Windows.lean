import Mathlib.Algebra.Order.Group.Int
import Mathlib.Data.List.Basic
import Mathlib.Tactic.Common

namespace Metering

/-!
# Windows that begin with an event

A counter with a window begins one with the first event it sees.  Events that
come within the span of the beginning belong to the window, and the first one
after that begins the next.  Events are times, newest first.

An interval as long as a window meets at most two of them, so it cannot have
many events without many of them in one window.
-/

variable {span : Int}

/-- The events of the window in force after the newest event. -/
def current (span : Int) : List Int -> List Int
  | [] => []
  | time :: earlier =>
      match (current span earlier).getLast? with
      | some start => if time - start ≤ span then time :: current span earlier else [time]
      | none => [time]

/-- When the window in force began. -/
def started (span : Int) (times : List Int) : Option Int := (current span times).getLast?

section Current

variable {time start : Int} {earlier times : List Int}

@[simp] theorem current_nil : current span [] = [] := rfl

@[simp] theorem started_nil : started span [] = none := rfl

theorem current_cons_of_open (begun : started span earlier = some start)
    (inside : time - start ≤ span) :
    current span (time :: earlier) = time :: current span earlier := by
  unfold started at begun
  rw [current, begun]
  exact if_pos inside

theorem current_cons_of_over (begun : started span earlier = some start)
    (outside : span < time - start) : current span (time :: earlier) = [time] := by
  unfold started at begun
  rw [current, begun]
  exact if_neg (by omega)

/-- A window has an event. -/
theorem current_ne_nil (some : times ≠ []) : current span times ≠ [] := by
  cases times with
  | nil => exact absurd rfl some
  | cons time earlier =>
      rw [current]
      split
      · split
        · exact List.cons_ne_nil _ _
        · exact List.cons_ne_nil _ _
      · exact List.cons_ne_nil _ _

theorem started_eq_none_iff : started span times = none ↔ times = [] := by
  unfold started
  rw [List.getLast?_eq_none_iff]
  constructor
  · intro empty
    by_contra some
    exact current_ne_nil some empty
  · rintro rfl
    rfl

/-- One more event belongs to the window, or begins a new one. -/
theorem current_cons_cases (time : Int) (earlier : List Int) :
    (Exists fun start => started span earlier = some start ∧ time - start ≤ span ∧
      current span (time :: earlier) = time :: current span earlier ∧
      started span (time :: earlier) = some start) ∨
    ((forall start, started span earlier = some start -> span < time - start) ∧
      current span (time :: earlier) = [time] ∧ started span (time :: earlier) = some time) := by
  cases begun : started span earlier with
  | none =>
      right
      have nothing := started_eq_none_iff.mp begun
      subst nothing
      refine ⟨fun start found => ?_, rfl, rfl⟩
      cases found
  | some start =>
      by_cases inside : time - start ≤ span
      · left
        have opened := current_cons_of_open begun inside
        refine ⟨start, rfl, inside, opened, ?_⟩
        have some : current span earlier ≠ [] := by
          intro empty
          unfold started at begun
          rw [empty] at begun
          cases begun
        unfold started
        rw [opened, List.getLast?_cons, ← begun, started,
          List.getLast?_eq_some_getLast some, Option.getD_some]
      · right
        have outside : span < time - start := by omega
        have opened := current_cons_of_over begun outside
        refine ⟨fun other found => ?_, opened, ?_⟩
        · cases found
          exact outside
        · unfold started
          rw [opened]
          rfl

/-- The window in force has the newest events. -/
theorem prefix_current : current span times <+: times := by
  induction times with
  | nil => exact List.prefix_rfl
  | cons time earlier inductionHypothesis =>
      rcases current_cons_cases time earlier with ⟨start, -, -, opened, -⟩ | ⟨-, opened, -⟩
      · rw [opened]
        exact List.cons_prefix_cons.mpr ⟨rfl, inductionHypothesis⟩
      · rw [opened]
        exact List.cons_prefix_cons.mpr ⟨rfl, List.nil_prefix⟩

/-- The newest event comes within the span of the beginning. -/
theorem newest_le (wide : 0 ≤ span) (begun : started span (time :: earlier) = some start) :
    time - start ≤ span := by
  rcases current_cons_cases time earlier with ⟨first, -, inside, -, same⟩ | ⟨-, -, same⟩
  · rw [begun] at same
    cases same
    exact inside
  · rw [begun] at same
    cases same
    omega

/-- Without the newest events the window had the others. -/
theorem current_drop (count : Nat) (some : count < (current span times).length) :
    current span (times.drop count) = (current span times).drop count := by
  induction count generalizing times with
  | zero => rfl
  | succ count inductionHypothesis =>
      cases times with
      | nil => exact absurd some (Nat.not_lt_zero _)
      | cons time earlier =>
          rcases current_cons_cases time earlier with ⟨start, -, -, opened, -⟩ | ⟨-, opened, -⟩
          · rw [opened, List.length_cons] at some
            rw [opened, List.drop_succ_cons, List.drop_succ_cons]
            exact inductionHypothesis (by omega)
          · rw [opened, List.length_singleton] at some
            omega

/-- The window before the one in force was over when that began. -/
theorem started_rest {rest : List Int} {first : Int}
    (split : times = current span times ++ rest) (begun : started span times = some start)
    (before : started span rest = some first) : span < start - first := by
  induction times with
  | nil => cases begun
  | cons time earlier inductionHypothesis =>
      rcases current_cons_cases time earlier with ⟨other, earlierBegun, -, opened, same⟩ |
        ⟨over', opened, same⟩
      · rw [opened, List.cons_append] at split
        rw [begun] at same
        cases same
        exact inductionHypothesis (List.cons.inj split).2 earlierBegun
      · rw [opened] at split
        rw [begun] at same
        cases same
        rcases List.cons.inj split with ⟨-, rfl⟩
        exact over' first before

/-- The beginning is one of the events. -/
theorem started_mem (begun : started span times = some start) : start ∈ current span times :=
  List.mem_of_getLast? begun

/-- A window that has grown past a size had it once. -/
theorem reached {size : Nat} (least : 1 ≤ size) (grown : size ≤ (current span times).length) :
    Exists fun newer => Exists fun time => Exists fun older =>
      times = newer ++ time :: older ∧ time ∈ current span times ∧
        (current span (time :: older)).length = size := by
  have count : (current span times).length - size < (current span times).length := by omega
  have dropped := current_drop _ count
  have length : (current span (times.drop ((current span times).length - size))).length =
      size := by
    rw [dropped, List.length_drop]
    omega
  cases rest : times.drop ((current span times).length - size) with
  | nil =>
      rw [rest, current_nil, List.length_nil] at length
      omega
  | cons time older =>
      refine ⟨times.take ((current span times).length - size), time, older, ?_, ?_, ?_⟩
      · rw [← rest, List.take_append_drop]
      · have first : (current span (time :: older)).head? = some time := by
          rcases current_cons_cases time older with ⟨start, -, -, opened, -⟩ | ⟨-, opened, -⟩
          · rw [opened]
            rfl
          · rw [opened]
            rfl
        rw [← rest, dropped] at first
        exact List.mem_of_mem_drop (List.mem_of_head? first)
      · rw [← rest]
        exact length

/-- A window reaches a size once only: when that happens again, all its events
are newer. -/
theorem reached_again {size : Nat} {newer older : List Int} (some : newer ≠ [])
    (first : (current span older).length = size)
    (second : (current span (newer ++ older)).length = size) : size ≤ newer.length := by
  by_contra fewer
  have dropped := @current_drop span (newer ++ older) newer.length (by omega)
  rw [List.drop_left] at dropped
  have lengths := congrArg List.length dropped
  rw [List.length_drop, first, second] at lengths
  have positive := List.length_pos_of_ne_nil some
  omega

end Current

/-! ## Intervals as long as a window -/

section Intervals

variable {first start time : Int} {times : List Int} {least : Nat}

/-- The times never go back. -/
def Sorted (times : List Int) : Prop := times.Pairwise fun newer older => older ≤ newer

/-- No event of the window came before its beginning. -/
theorem le_of_mem_current (sorted : Sorted times) (begun : started span times = some start)
    (member : time ∈ current span times) : start ≤ time := by
  have window : Sorted (current span times) := sorted.sublist prefix_current.sublist
  rcases List.getLast?_eq_some_iff.mp begun with ⟨front, split⟩
  rw [split] at member
  rcases List.mem_append.mp member with before | last
  · unfold Sorted at window
    rw [split] at window
    exact (List.pairwise_append.mp window).2.2 time before start (List.mem_singleton.mpr rfl)
  · exact le_of_eq (List.mem_singleton.mp last).symm

/-- If some event is late enough, the newest is. -/
theorem newest_late (sorted : Sorted times)
    (some : 0 < times.countP fun time => decide (first ≤ time)) :
    Exists fun newest => Exists fun earlier => times = newest :: earlier ∧ first ≤ newest := by
  rcases List.countP_pos_iff.mp some with ⟨late, member, bound⟩
  have after := of_decide_eq_true bound
  cases times with
  | nil => exact absurd member List.not_mem_nil
  | cons newest earlier =>
      refine ⟨newest, earlier, rfl, ?_⟩
      rcases List.mem_cons.mp member with rfl | older
      · exact after
      · exact le_trans after ((List.pairwise_cons.mp sorted).1 late older)

/-- A window that is full by the newest event was filled by one not much older. -/
theorem filled (wide : 0 ≤ span) (sorted : Sorted (time :: times)) (after : first ≤ time)
    (some : 1 ≤ least) (grown : least ≤ (current span (time :: times)).length) :
    Exists fun newer => Exists fun filling => Exists fun older =>
      time :: times = newer ++ filling :: older ∧ first - span ≤ filling ∧ filling ≤ time ∧
        (current span (filling :: older)).length = least := by
  rcases reached some grown with ⟨newer, filling, older, split, member, length⟩
  cases begun : started span (time :: times) with
  | none => exact absurd (started_eq_none_iff.mp begun) (List.cons_ne_nil _ _)
  | some start =>
      have inside := newest_le wide begun
      have bound := le_of_mem_current sorted begun member
      refine ⟨newer, filling, older, split, by omega, ?_, length⟩
      rcases List.mem_cons.mp (prefix_current.subset member) with rfl | earlier
      · exact le_refl _
      · exact (List.pairwise_cons.mp sorted).1 filling earlier

/-- The events before the window in force, among them those that are late enough
and not in it. -/
theorem behind_current (sorted : Sorted times) (first : Int) :
    Exists fun rest => times = current span times ++ rest ∧ Sorted rest ∧
      (times.countP fun time => decide (first ≤ time)) ≤ (current span times).length +
        rest.countP fun time => decide (first ≤ time) := by
  rcases @prefix_current span times with ⟨rest, split⟩
  refine ⟨rest, split.symm, ?_, ?_⟩
  · unfold Sorted at sorted
    rw [← split] at sorted
    exact (List.pairwise_append.mp sorted).2.1
  · conv_lhs => rw [← split]
    rw [List.countP_append]
    exact Nat.add_le_add_right List.countP_le_length _

/-- Twice as many events as fill a window, less one, fill a window when they
come in an interval that is no longer. -/
theorem full_window (wide : 0 ≤ span) (sorted : Sorted times) (some : 1 ≤ least)
    (ends : forall time, time ∈ times -> time ≤ first + span)
    (many : 2 * least ≤ (times.countP fun time => decide (first ≤ time)) + 1) :
    Exists fun newer => Exists fun filling => Exists fun older =>
      times = newer ++ filling :: older ∧ first - span ≤ filling ∧ filling ≤ first + span ∧
        (current span (filling :: older)).length = least := by
  rcases @newest_late first _ sorted (by omega) with ⟨newest, earlier, rfl, late⟩
  by_cases grown : least ≤ (current span (newest :: earlier)).length
  · rcases filled wide sorted late some grown with
        ⟨newer, filling, older, split, after, before, length⟩
    have bound := ends newest List.mem_cons_self
    exact ⟨newer, filling, older, split, after, by omega, length⟩
  rcases @behind_current span _ sorted first with ⟨rest, split, restSorted, counted⟩
  rcases @newest_late first _ restSorted (by omega) with ⟨second, others, rfl, secondLate⟩
  by_cases secondGrown : least ≤ (current span (second :: others)).length
  · rcases filled wide restSorted secondLate some secondGrown with
        ⟨newer, filling, older, inner, after, before, length⟩
    have bound := ends second (by
      rw [split]
      exact List.mem_append_right _ List.mem_cons_self)
    refine ⟨current span (newest :: earlier) ++ newer, filling, older, ?_, after, by omega, length⟩
    conv_lhs => rw [split, inner]
    rw [List.append_assoc]
  -- two windows are not enough, and a third would begin too early
  exfalso
  rcases @behind_current span _ restSorted first with
      ⟨oldest, secondSplit, oldestSorted, secondCounted⟩
  rcases @newest_late first _ oldestSorted (by omega) with ⟨third, most, rfl, thirdLate⟩
  cases begun : started span (newest :: earlier) with
  | none => exact absurd (started_eq_none_iff.mp begun) (List.cons_ne_nil _ _)
  | some start =>
      cases secondBegun : started span (second :: others) with
      | none => exact absurd (started_eq_none_iff.mp secondBegun) (List.cons_ne_nil _ _)
      | some secondStart =>
          have apart := started_rest split begun secondBegun
          have latest := ends start (prefix_current.subset (started_mem begun))
          have older : third ≤ secondStart := by
            unfold Sorted at restSorted
            rw [secondSplit] at restSorted
            exact (List.pairwise_append.mp restSorted).2.2 secondStart (started_mem secondBegun)
              third List.mem_cons_self
          omega

/-- The same in the middle of the events. -/
theorem full_interval (wide : 0 ≤ span) (sorted : Sorted times) (some : 1 ≤ least)
    (many : 2 * least ≤
      (times.countP fun time => decide (first ≤ time ∧ time ≤ first + span)) + 1) :
    Exists fun newer => Exists fun filling => Exists fun older =>
      times = newer ++ filling :: older ∧ first - span ≤ filling ∧ filling ≤ first + span ∧
        (current span (filling :: older)).length = least := by
  induction times with
  | nil =>
      rw [List.countP_nil] at many
      omega
  | cons newest earlier inductionHypothesis =>
      rcases List.pairwise_cons.mp sorted with ⟨older, rest⟩
      by_cases late : first + span < newest
      · have same : (newest :: earlier).countP
            (fun time => decide (first ≤ time ∧ time ≤ first + span)) =
            earlier.countP fun time => decide (first ≤ time ∧ time ≤ first + span) := by
          apply List.countP_cons_of_neg
          rw [decide_eq_true_iff]
          omega
        rw [same] at many
        rcases inductionHypothesis rest many with ⟨newer, filling, before, rfl, found⟩
        exact ⟨newest :: newer, filling, before, rfl, found⟩
      · apply full_window wide sorted some
        · intro time member
          rcases List.mem_cons.mp member with rfl | before
          · omega
          · have bound := older time before
            omega
        · have fewer : (newest :: earlier).countP
              (fun time => decide (first ≤ time ∧ time ≤ first + span)) ≤
              (newest :: earlier).countP fun time => decide (first ≤ time) := by
            apply List.countP_mono_left
            intro time _ inside
            exact decide_eq_true (of_decide_eq_true inside).1
          omega

end Intervals
end Metering
