import Mathlib.Algebra.Order.Group.Int
import Mathlib.Data.List.Basic
import Mathlib.Tactic.Ring

namespace Metering

/-!
# Theoretical arrival times

A meter lets events through at a steady rate of one per `interval`, with bursts
of `burst` at once.  It remembers one number: the theoretical arrival time, at
which the next event would come if events came evenly.  An admitted event moves
it one interval past the later of itself and the present.

The number has a closed form over the admitted events, and comparing it with
the present is a bound on how many of them there were since any of them.  A
number that has passed is as good as none, which is what allows a store to
forget it.
-/

/-- The arrival time after the admitted events, newest first. -/
def arrival (interval : Int) : List Int -> Option Int
  | [] => none
  | time :: earlier => some (max ((arrival interval earlier).getD time) time + interval)

/-- What the meter computes with: a time that has passed is the present. -/
def effective (now : Int) (arrived : Option Int) : Int := max (arrived.getD now) now

/-- With the event at `time` no more events have come since any earlier one than
the burst and one per interval. -/
def Conforms (interval burst : Int) (admitted : List Int) (time : Int) : Prop :=
  forall newer earlier older, admitted = newer ++ earlier :: older ->
    (newer.length : Int) + 1 + 1 ≤ burst + (time - earlier) / interval

/-- Every event of the list conformed when it came. -/
def Paced (interval burst : Int) : List Int -> Prop
  | [] => True
  | time :: earlier => Conforms interval burst earlier time ∧ Paced interval burst earlier

section Effective

variable {now later : Int} {first second arrived : Option Int}

@[simp] theorem effective_none : effective now none = now := max_self now

@[simp] theorem effective_some (time : Int) : effective now (some time) = max time now := rfl

theorem le_effective : now ≤ effective now arrived := le_max_right _ _

/-- An arrival time that has passed can be forgotten. -/
theorem effective_stale {time : Int} (passed : time ≤ now) : effective now (some time) = now :=
  max_eq_right passed

theorem effective_later (ordered : now ≤ later) :
    effective later arrived = max (effective now arrived) later := by
  cases arrived with
  | none => simp [ordered]
  | some time => simp [max_assoc, ordered]

/-- Arrival times that cannot be told apart now cannot be told apart later. -/
theorem effective_agree (ordered : now ≤ later)
    (agree : effective now first = effective now second) :
    effective later first = effective later second := by
  rw [effective_later ordered, effective_later ordered, agree]

end Effective

section ClosedForm

variable {interval burst : Int} {admitted : List Int}

theorem arrival_cons (time : Int) (earlier : List Int) :
    arrival interval (time :: earlier) =
      some (effective time (arrival interval earlier) + interval) := rfl

/-- The arrival time is the latest of the times at which each admitted event
and all that came after it would be used up. -/
theorem arrival_le_iff (bound : Int) :
    (forall time, arrival interval admitted = some time -> time ≤ bound) ↔
      forall newer earlier older, admitted = newer ++ earlier :: older ->
        earlier + ((newer.length : Int) + 1) * interval ≤ bound := by
  induction admitted generalizing bound with
  | nil =>
      constructor
      · intro _ newer earlier older split
        exact absurd split.symm (List.append_ne_nil_of_right_ne_nil _ (List.cons_ne_nil _ _))
      · intro _ time arrived
        cases arrived
  | cons newest rest inductionHypothesis =>
      have shifted := inductionHypothesis (bound - interval)
      constructor
      · intro below newer earlier older split
        have reached := below _ (arrival_cons newest rest)
        cases newer with
        | nil =>
            rcases List.cons.inj split with ⟨rfl, rfl⟩
            have started : newest ≤ effective newest (arrival interval rest) := le_effective
            simp only [List.length_nil, Int.natCast_zero, Int.zero_add, Int.one_mul]
            omega
        | cons head tail =>
            rcases List.cons.inj split with ⟨rfl, rest_eq⟩
            have inner := shifted.mp ?_ tail earlier older rest_eq
            · simp only [List.length_cons, Int.natCast_add, Int.natCast_one]
              have expand : (((tail.length : Int) + 1 + 1) * interval) =
                  ((tail.length : Int) + 1) * interval + interval := by ring
              omega
            · intro time arrived
              have started : time ≤ effective newest (arrival interval rest) := by
                rw [arrived]
                exact le_max_left _ _
              omega
      · intro all time arrived
        cases arrived
        have alone : newest ≤ bound - interval := by
          have own := all [] newest rest rfl
          simp only [List.length_nil, Int.natCast_zero, Int.zero_add, Int.one_mul] at own
          omega
        have others : forall time, arrival interval rest = some time ->
            time ≤ bound - interval := by
          apply shifted.mpr
          intro newer earlier older split
          have own := all (newest :: newer) earlier older (by rw [split]; rfl)
          simp only [List.length_cons, Int.natCast_add, Int.natCast_one] at own
          have expand : (((newer.length : Int) + 1 + 1) * interval) =
              ((newer.length : Int) + 1) * interval + interval := by ring
          omega
        have reached : effective newest (arrival interval rest) ≤ bound - interval := by
          cases earlier : arrival interval rest with
          | none => simpa using alone
          | some time => simpa using ⟨others time earlier, alone⟩
        change effective newest (arrival interval rest) + interval ≤ bound
        omega

/-- An event conforms exactly when the arrival time is not further ahead than
the tolerance of the meter. -/
theorem conforms_iff (positive : 0 < interval) (time : Int) :
    Conforms interval burst admitted time ↔
      forall arrived, arrival interval admitted = some arrived ->
        arrived ≤ time + (burst - 1) * interval := by
  rw [arrival_le_iff]
  unfold Conforms
  refine forall_congr' fun newer => forall_congr' fun earlier => forall_congr' fun older =>
    forall_congr' fun _ => ?_
  have quotient : ((newer.length : Int) + 1 + 1 ≤ burst + (time - earlier) / interval) ↔
      ((newer.length : Int) + 1 + 1 - burst ≤ (time - earlier) / interval) := by omega
  rw [quotient, Int.le_ediv_iff_mul_le positive]
  have expand : ((newer.length : Int) + 1 + 1 - burst) * interval =
      ((newer.length : Int) + 1) * interval - (burst - 1) * interval := by ring
  rw [expand]
  omega

end ClosedForm

/-! ## Windows of time -/

section Windows

variable {interval burst start stop : Int} {admitted : List Int}

/-- The oldest event of a window, with the others of the window before it. -/
theorem oldest_in_window (ordered : admitted.Pairwise fun newer older => older ≤ newer)
    (before : forall time, time ∈ admitted -> time ≤ stop)
    (some : 0 < admitted.countP fun time => start ≤ time && time ≤ stop) :
    Exists fun newer => Exists fun oldest => Exists fun older =>
      admitted = newer ++ oldest :: older ∧ start ≤ oldest ∧
        newer.length + 1 = admitted.countP fun time => start ≤ time && time ≤ stop := by
  induction admitted with
  | nil => exact absurd some (Nat.lt_irrefl 0)
  | cons newest rest inductionHypothesis =>
      rcases List.pairwise_cons.mp ordered with ⟨older, restOrdered⟩
      have inside : start ≤ newest := by
        by_contra outside
        rw [List.countP_eq_zero.mpr] at some
        · exact Nat.lt_irrefl 0 some
        · intro time member
          have bound : time ≤ newest := by
            rcases List.mem_cons.mp member with rfl | later
            · exact le_refl _
            · exact older time later
          simp only [Bool.and_eq_true, decide_eq_true_eq, not_and]
          omega
      have ends : newest ≤ stop := before newest List.mem_cons_self
      have counted : (newest :: rest).countP (fun time => start ≤ time && time ≤ stop) =
          rest.countP (fun time => start ≤ time && time ≤ stop) + 1 := by
        rw [List.countP_cons_of_pos]
        simp [inside, ends]
      rcases Nat.eq_zero_or_pos (rest.countP fun time => start ≤ time && time ≤ stop) with
        none | more
      · exact ⟨[], newest, rest, rfl, inside, by rw [counted, none]; rfl⟩
      · rcases inductionHypothesis restOrdered
            (fun time member => before time (List.mem_cons_of_mem _ member)) more with
            ⟨newer, oldest, last, split, first, length⟩
        refine ⟨newest :: newer, oldest, last, by rw [split]; rfl, first, ?_⟩
        rw [counted, ← length]
        rfl

/-- No window of time has more paced events than the burst and one per interval. -/
theorem Paced.window (positive : 0 < interval) (burstPositive : 1 ≤ burst)
    (paced : Paced interval burst admitted)
    (ordered : admitted.Pairwise fun newer older => older ≤ newer) (length : start ≤ stop) :
    ((admitted.countP fun time => start ≤ time && time ≤ stop : Nat) : Int) ≤
      burst + (stop - start) / interval := by
  have least : 0 ≤ (stop - start) / interval := Int.ediv_nonneg (by omega) (le_of_lt positive)
  induction admitted with
  | nil =>
      simp only [List.countP_nil, Int.natCast_zero]
      omega
  | cons newest rest inductionHypothesis =>
      rcases paced with ⟨conforms, restPaced⟩
      rcases List.pairwise_cons.mp ordered with ⟨older, restOrdered⟩
      by_cases inside : start ≤ newest ∧ newest ≤ stop
      · rw [List.countP_cons_of_pos (by simpa using inside)]
        rcases Nat.eq_zero_or_pos (rest.countP fun time => start ≤ time && time ≤ stop) with
          none | more
        · rw [none]
          simp only [Nat.zero_add, Int.natCast_one]
          omega
        · rcases oldest_in_window restOrdered (fun time member => le_trans (older time member)
              inside.2) more with ⟨newer, oldest, last, split, first, counted⟩
          have bound := conforms newer oldest last split
          have wider : (newest - oldest) / interval ≤ (stop - start) / interval :=
            Int.ediv_le_ediv positive (by omega)
          rw [← counted]
          push_cast
          omega
      · rw [List.countP_cons_of_neg (by simpa using inside)]
        exact inductionHypothesis restPaced restOrdered

end Windows
end Metering
