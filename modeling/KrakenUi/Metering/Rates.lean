import KrakenUi.Metering.ArrivalTime
import Mathlib.Algebra.Order.Archimedean.Real.Basic

namespace Metering

/-!
# Rates over real time

Events come at whole ticks of a clock, and an interval of time begins and ends
anywhere.  Paced events come in no interval faster than the burst and one per
spacing.
-/

/-- How many of the events come in the interval of this length. -/
noncomputable def within (start length : ℝ) (times : List Int) : Nat :=
  times.countP fun time : Int => decide (start ≤ (time : ℝ) ∧ (time : ℝ) ≤ start + length)

section Within

variable {start length : ℝ} {times : List Int}

/-- An interval holds the ticks between its ends. -/
theorem within_eq_countP :
    within start length times =
      times.countP fun time => ⌈start⌉ ≤ time && time ≤ ⌊start + length⌋ := by
  unfold within
  apply List.countP_congr
  intro time _
  rw [decide_eq_true_iff, Bool.and_eq_true, decide_eq_true_iff, decide_eq_true_iff,
    Int.ceil_le, Int.le_floor]

theorem within_le_length : within start length times ≤ times.length := List.countP_le_length

/-- Events that all come in the interval are all counted. -/
theorem within_eq_length (inside : forall time, time ∈ times ->
    start ≤ (time : ℝ) ∧ (time : ℝ) ≤ start + length) : within start length times = times.length :=
  List.countP_eq_length.mpr fun time member => decide_eq_true (inside time member)

variable {interval burst : Int}

theorem cast_ediv_le (positive : 0 < interval) (ticks : Int) :
    ((ticks / interval : Int) : ℝ) ≤ (ticks : ℝ) / interval := by
  rw [le_div_iff₀ (by exact_mod_cast positive)]
  exact_mod_cast Int.ediv_mul_le ticks (ne_of_gt positive)

/-- The rate of paced events, over an interval of any length. -/
theorem Paced.within_le (positive : 0 < interval) (burstPositive : 1 ≤ burst)
    (paced : Paced interval burst times)
    (ordered : times.Pairwise fun newer older => older ≤ newer) (lasts : 0 ≤ length) :
    (within start length times : ℝ) ≤ burst + length / interval := by
  have spacing : (0 : ℝ) < interval := by exact_mod_cast positive
  rw [within_eq_countP]
  by_cases some : ⌈start⌉ ≤ ⌊start + length⌋
  · have counted := paced.window positive burstPositive ordered some
    have ticks : ((⌊start + length⌋ - ⌈start⌉ : Int) : ℝ) ≤ length := by
      have stops := Int.floor_le (start + length)
      have starts := Int.le_ceil start
      push_cast
      linarith
    calc ((times.countP fun time => ⌈start⌉ ≤ time && time ≤ ⌊start + length⌋ : Nat) : ℝ)
        ≤ burst + ((⌊start + length⌋ - ⌈start⌉) / interval : Int) := by exact_mod_cast counted
      _ ≤ burst + ((⌊start + length⌋ - ⌈start⌉ : Int) : ℝ) / interval := by
          gcongr
          exact cast_ediv_le positive _
      _ ≤ burst + length / interval := by gcongr
  · have nothing : (times.countP fun time => ⌈start⌉ ≤ time && time ≤ ⌊start + length⌋) = 0 := by
      rw [List.countP_eq_zero]
      intro time _
      rw [Bool.and_eq_true, decide_eq_true_iff, decide_eq_true_iff]
      omega
    have least : (1 : ℝ) ≤ burst := by exact_mod_cast burstPositive
    rw [nothing, Nat.cast_zero]
    positivity

/-- Paced events that come in less than one spacing are no more than the burst. -/
theorem Paced.length_le (positive : 0 < interval) (burstPositive : 1 ≤ burst)
    (paced : Paced interval burst times)
    (ordered : times.Pairwise fun newer older => older ≤ newer) {first last : Int}
    (inside : forall time, time ∈ times -> first ≤ time ∧ time ≤ last) (started : first ≤ last)
    (short : last - first < interval) : (times.length : Int) ≤ burst := by
  have counted := paced.window positive burstPositive ordered started
  have everything : (times.countP fun time => first ≤ time && time ≤ last) = times.length :=
    List.countP_eq_length.mpr fun time member => by simpa using inside time member
  rw [everything, Int.ediv_eq_zero_of_lt (by omega) short, add_zero] at counted
  exact counted

end Within
end Metering
