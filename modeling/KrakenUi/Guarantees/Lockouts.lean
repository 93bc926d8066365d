import KrakenUi.Metering.Windows
import KrakenUi.Security.LoginThrottle
import Mathlib.Data.List.Induction

namespace KrakenUi

open Metering

/-!
# When the login throttle locks

The throttle keeps a count and the beginning of a window instead of the times of
the failures.  A failure that comes after the end of the window begins the next
one with a count of one, so failures around the end of a window are counted
apart, however close they are.  Only where a single earlier failure is enough,
or where failures have to come at the same instant, is that the same as a window
that slides.

The failures that count for a key are those since the last success, recorded
while the key was not locked; a lockout begins anew.
-/

inductive ThrottleCall where
  | recordFailure (key : String)
  | lockedFor (key : String)
  | recordSuccess (key : String)
  deriving DecidableEq

/-- A call on the throttle, and when it comes. -/
structure ThrottleEvent where
  now : Int
  call : ThrottleCall
  deriving DecidableEq

/-- The entries, and for each key the failures that count, newest first. -/
structure FailureLog where
  entries : Attempts
  recent : String -> List Int

namespace FailureLog

def blank : FailureLog := ⟨fun _ => none, fun _ => []⟩

def isLocked (log : FailureLog) (now : Int) (key : String) : Bool :=
  (LoginThrottle.lockedFor now key log.entries).1.isSome

def setRecent (log : FailureLog) (key : String) (times : List Int) : String -> List Int :=
  fun other => if other = key then times else log.recent other

@[simp] theorem setRecent_same (log : FailureLog) (key : String) (times : List Int) :
    log.setRecent key times key = times := if_pos rfl

theorem setRecent_other {key other : String} (different : other ≠ key) (log : FailureLog)
    (times : List Int) : log.setRecent key times other = log.recent other :=
  if_neg different

/-- The failures that count after a failure. -/
def recentAfter (throttle : LoginThrottle) (log : FailureLog) (now : Int) (key : String) :
    List Int :=
  if log.isLocked now key then log.recent key
  else if (throttle.recordFailure now key log.entries).1.isSome then []
  else now :: log.recent key

def step (throttle : LoginThrottle) (log : FailureLog) (event : ThrottleEvent) : FailureLog :=
  match event.call with
  | .recordFailure key =>
      ⟨(throttle.recordFailure event.now key log.entries).2,
        log.setRecent key (log.recentAfter throttle event.now key)⟩
  | .lockedFor key => ⟨(LoginThrottle.lockedFor event.now key log.entries).2, log.recent⟩
  | .recordSuccess key => ⟨LoginThrottle.recordSuccess key log.entries, log.setRecent key []⟩

def run (throttle : LoginThrottle) (events : List ThrottleEvent) : FailureLog :=
  events.foldl (step throttle) blank

end FailureLog

namespace LoginThrottle

/-- The failure and those before it, as many as lock the key, come within one
interval of the window's length. -/
def Slides (throttle : LoginThrottle) (now : Int) (recent : List Int) : Prop :=
  throttle.maxFailures ≤ recent.length + 1 ∧
    Exists fun first => forall time, time ∈ now :: recent.take (throttle.maxFailures - 1) ->
      first ≤ time ∧ time ≤ first + throttle.window

/-- The window that began with a failure has as many failures as lock the key. -/
def Fills (throttle : LoginThrottle) (now : Int) (recent : List Int) : Prop :=
  throttle.maxFailures ≤ (current throttle.window (now :: recent)).length

instance (throttle : LoginThrottle) (now : Int) (recent : List Int) :
    Decidable (throttle.Fills now recent) :=
  inferInstanceAs (Decidable (_ ≤ _))

/-- The entry for the failures that count, without a lockout. -/
def openWindow (throttle : LoginThrottle) (now : Int) (recent : List Int) : Option Attempt :=
  match started throttle.window recent with
  | none => none
  | some start =>
      if now - start ≤ throttle.window then
        some ⟨(current throttle.window recent).length, start, none⟩
      else none

section Windows

variable {throttle : LoginThrottle} {now later : Int} {recent : List Int}

@[simp] theorem openWindow_nil : throttle.openWindow now [] = none := rfl

theorem openWindow_locked {attempt : Attempt}
    (opened : throttle.openWindow now recent = some attempt) : attempt.lockedUntil = none := by
  unfold openWindow at opened
  split at opened
  · cases opened
  · split at opened
    · cases opened
      rfl
    · cases opened

theorem standing_openWindow (ordered : now ≤ later) :
    throttle.standing later (throttle.openWindow now recent) = throttle.openWindow later recent := by
  unfold openWindow
  split
  · rfl
  · rename_i start _
    by_cases lasts : later - start ≤ throttle.window
    · rw [if_pos (show now - start ≤ throttle.window by omega), if_pos lasts]
      exact standing_live lasts
    · rw [if_neg lasts]
      split
      · exact standing_over lasts
      · rfl

/-- A failure on a key that is not locked counts in the window in force, or
begins a new one. -/
theorem failed_openWindow (wide : 0 ≤ throttle.window) :
    Exists fun start => started throttle.window (now :: recent) = some start ∧
      throttle.failed now ((throttle.openWindow now recent).getD ⟨0, now, none⟩) =
        if throttle.Fills now recent then
          (some throttle.lockout, ⟨(current throttle.window (now :: recent)).length, start,
            some (now + throttle.lockout)⟩)
        else (none, ⟨(current throttle.window (now :: recent)).length, start, none⟩) := by
  have counted : forall attempt : Attempt, attempt.lockedUntil = none ->
      now - attempt.windowStarted ≤ throttle.window ->
      attempt.failures + 1 = (current throttle.window (now :: recent)).length ->
      throttle.failed now attempt =
        if throttle.Fills now recent then
          (some throttle.lockout, ⟨(current throttle.window (now :: recent)).length,
            attempt.windowStarted, some (now + throttle.lockout)⟩)
        else (none, ⟨(current throttle.window (now :: recent)).length,
          attempt.windowStarted, none⟩) := by
    intro attempt free lasts length
    have inside : ¬ throttle.window < now - attempt.windowStarted := by omega
    unfold failed unlocked
    rw [free]
    unfold windowed
    dsimp only
    rw [if_neg inside]
    unfold LoginThrottle.counted Fills
    dsimp only
    rw [length, free]
    rfl
  rcases current_cons_cases now recent with ⟨start, begun, inside, opened, after⟩ |
    ⟨outside, opened, after⟩
  · refine ⟨start, after, ?_⟩
    have entry : throttle.openWindow now recent =
        some ⟨(current throttle.window recent).length, start, none⟩ := by
      unfold openWindow
      rw [begun]
      exact if_pos inside
    rw [entry]
    apply counted _ rfl inside
    rw [opened]
    rfl
  · refine ⟨now, after, ?_⟩
    have entry : throttle.openWindow now recent = none := by
      unfold openWindow
      cases begun : started throttle.window recent with
      | none => rfl
      | some start =>
          have elapsed := outside start begun
          exact if_neg (by omega)
    rw [entry]
    apply counted ⟨0, now, none⟩ rfl
    · change now - now ≤ _
      omega
    · rw [opened]
      rfl

/-- A window that is full comes within its length. -/
theorem Fills.slides (positive : 1 ≤ throttle.maxFailures) (wide : 0 ≤ throttle.window)
    (sorted : Sorted (now :: recent)) (fills : throttle.Fills now recent) :
    throttle.Slides now recent := by
  have shorter := (@prefix_current throttle.window (now :: recent)).length_le
  have enough : throttle.maxFailures ≤ recent.length + 1 := le_trans fills shorter
  cases begun : started throttle.window (now :: recent) with
  | none => exact absurd (started_eq_none_iff.mp begun) (List.cons_ne_nil _ _)
  | some start =>
      have ends := newest_le wide begun
      refine ⟨enough, start, ?_⟩
      intro time member
      have front : time ∈ (now :: recent).take throttle.maxFailures := by
        obtain ⟨fewer, same⟩ : Exists fun fewer => throttle.maxFailures = fewer + 1 :=
          ⟨throttle.maxFailures - 1, by omega⟩
        rw [same] at member ⊢
        exact member
      have inside : time ∈ current throttle.window (now :: recent) := by
        have part := List.prefix_iff_eq_take.mp (@prefix_current throttle.window (now :: recent))
        rw [part]
        exact (List.take_prefix_take_left (l := now :: recent) fills).subset front
      have after := le_of_mem_current sorted begun inside
      have newest : time ≤ now := by
        rcases List.mem_cons.mp (prefix_current.subset inside) with rfl | older
        · exact le_refl _
        · exact (List.pairwise_cons.mp sorted).1 time older
      omega

end Windows
end LoginThrottle

namespace FailureLog

/-- The entry of a key is its lockout, or the window in force of the failures
that count. -/
def Stands (throttle : LoginThrottle) (last : Int) (entry : Option Attempt) (recent : List Int) :
    Prop :=
  (Exists fun attempt => throttle.standing last entry = some attempt ∧
      attempt.lockedUntil.isSome = true ∧ recent = []) ∨
    throttle.standing last entry = throttle.openWindow last recent

/-- The entries are those of the failures that count, and no window is full. -/
structure Sound (throttle : LoginThrottle) (last : Int) (log : FailureLog) : Prop where
  stands : forall key, Stands throttle last (log.entries key) (log.recent key)
  few : forall key, (current throttle.window (log.recent key)).length < throttle.maxFailures
  sorted : forall key, Sorted (log.recent key)
  past : forall key time, time ∈ log.recent key -> time ≤ last

section Steps

variable {throttle : LoginThrottle} {last now : Int} {log : FailureLog} {key : String}

theorem sound_blank (positive : 1 ≤ throttle.maxFailures) : blank.Sound throttle last where
  stands := fun _ => Or.inr rfl
  few := fun _ => positive
  sorted := fun _ => List.Pairwise.nil
  past := fun _ _ member => absurd member List.not_mem_nil

theorem Stands.aged {entry : Option Attempt} {recent : List Int} (ordered : last ≤ now)
    (stands : Stands throttle last entry recent) : Stands throttle now entry recent := by
  rcases stands with ⟨attempt, standing, locked, rfl⟩ | standing
  · have later : throttle.standing now entry = throttle.standing now (some attempt) := by
      rw [← standing, LoginThrottle.standing_standing ordered]
    by_cases live : throttle.Live now attempt
    · rw [LoginThrottle.standing_live live] at later
      exact Or.inl ⟨attempt, later, locked, rfl⟩
    · rw [LoginThrottle.standing_over live] at later
      exact Or.inr later
  · right
    rw [← LoginThrottle.standing_standing ordered, standing,
      LoginThrottle.standing_openWindow ordered]

theorem Sound.aged (sound : log.Sound throttle last) (ordered : last ≤ now) :
    log.Sound throttle now where
  stands := fun key => (sound.stands key).aged ordered
  few := sound.few
  sorted := sound.sorted
  past := fun key time member => le_trans (sound.past key time member) ordered

/-- A key is locked exactly when its entry stands for a lockout. -/
theorem isLocked_eq : log.isLocked now key =
    (LoginThrottle.remaining now (throttle.standing now (log.entries key))).isSome := by
  unfold isLocked
  rw [LoginThrottle.lockedFor_answer]

theorem Stands.unlocked (stands : Stands throttle now (log.entries key) (log.recent key)) :
    log.isLocked now key = false ↔
      throttle.standing now (log.entries key) =
        throttle.openWindow now (log.recent key) := by
  rw [@isLocked_eq throttle]
  rcases stands with ⟨attempt, standing, locked, none⟩ | standing
  · rw [standing, none, LoginThrottle.openWindow_nil]
    rcases Option.isSome_iff_exists.mp locked with ⟨deadline, until'⟩
    simp [LoginThrottle.remaining, until']
  · rw [standing]
    cases opened : throttle.openWindow now (log.recent key) with
    | none => simp [LoginThrottle.remaining]
    | some attempt =>
        have free := LoginThrottle.openWindow_locked opened
        simp [LoginThrottle.remaining, free]

/-- A failure on a key that is not locked locks it exactly when it fills the
window in force. -/
theorem Sound.recordFailure_eq (sound : log.Sound throttle now)
    (moderate : throttle.Moderate) (wide : 0 ≤ throttle.window)
    (free : log.isLocked now key = false) :
    (throttle.recordFailure now key log.entries).1 =
      if throttle.Fills now (log.recent key) then some throttle.lockout else none := by
  have standing := (sound.stands key).unlocked.mp free
  rcases @LoginThrottle.failed_openWindow throttle now (log.recent key) wide with ⟨start, -, failed⟩
  rw [LoginThrottle.recordFailure_answer moderate, standing, failed]
  split <;> rfl

theorem few_nil (positive : 1 ≤ throttle.maxFailures) :
    (current throttle.window []).length < throttle.maxFailures := positive

/-- Only the key of a call changes. -/
theorem Sound.replace (sound : log.Sound throttle now) {entries : Attempts} {times : List Int}
    (others : forall other, other ≠ key ->
      throttle.standing now (entries other) = throttle.standing now (log.entries other))
    (stands : Stands throttle now (entries key) times)
    (few : (current throttle.window times).length < throttle.maxFailures)
    (sorted : Sorted times) (past : forall time, time ∈ times -> time ≤ now) :
    Sound throttle now ⟨entries, log.setRecent key times⟩ := by
  constructor
  · intro other
    change Stands throttle now (entries other) (log.setRecent key times other)
    by_cases same : other = key
    · subst same
      rw [setRecent_same]
      exact stands
    · rw [setRecent_other same]
      have kept := sound.stands other
      unfold Stands at kept ⊢
      rw [others other same]
      exact kept
  · intro other
    change (current throttle.window (log.setRecent key times other)).length < _
    by_cases same : other = key
    · subst same
      rw [setRecent_same]
      exact few
    · rw [setRecent_other same]
      exact sound.few other
  · intro other
    change Sorted (log.setRecent key times other)
    by_cases same : other = key
    · subst same
      rw [setRecent_same]
      exact sorted
    · rw [setRecent_other same]
      exact sound.sorted other
  · intro other time member
    change time ∈ log.setRecent key times other at member
    by_cases same : other = key
    · subst same
      rw [setRecent_same] at member
      exact past time member
    · rw [setRecent_other same] at member
      exact sound.past other time member

/-- The failures that count and the new one, in order. -/
theorem Sound.sorted_cons (sound : log.Sound throttle now) (key : String) :
    Sorted (now :: log.recent key) :=
  List.pairwise_cons.mpr ⟨fun time member => sound.past key time member, sound.sorted key⟩

theorem Sound.recordFailure (sound : log.Sound throttle now)
    (positive : 1 ≤ throttle.maxFailures) (wide : 0 ≤ throttle.window)
    (moderate : throttle.Moderate) (key : String) :
    Sound throttle now ⟨(throttle.recordFailure now key log.entries).2,
      log.setRecent key (log.recentAfter throttle now key)⟩ := by
  have others : forall other, other ≠ key ->
      throttle.standing now ((throttle.recordFailure now key log.entries).2 other) =
        throttle.standing now (log.entries other) :=
    fun other different => LoginThrottle.recordFailure_other moderate different
  have stored : (throttle.recordFailure now key log.entries).2 key =
      some (throttle.failed now
        ((throttle.standing now (log.entries key)).getD ⟨0, now, none⟩)).2 :=
    LoginThrottle.recordFailure_same moderate
  unfold recentAfter
  cases locked : log.isLocked now key with
  | true =>
      rw [if_pos rfl]
      apply sound.replace others _ (sound.few key) (sound.sorted key) (sound.past key)
      rcases sound.stands key with ⟨attempt, standing, blocked, none⟩ | standing
      · rcases Option.isSome_iff_exists.mp blocked with ⟨deadline, until'⟩
        have live : throttle.Live now attempt := by
          unfold LoginThrottle.standing at standing
          exact of_decide_eq_true (Option.filter_eq_some_iff.mp standing).2
        have early : now < deadline := by
          have lives := live
          unfold LoginThrottle.Live at lives
          rw [until'] at lives
          exact lives
        have same : (throttle.failed now attempt).2 = attempt := by
          unfold LoginThrottle.failed
          rw [until']
          dsimp only
          rw [if_pos early]
        rw [stored, standing, Option.getD_some, same]
        exact Or.inl ⟨attempt, LoginThrottle.standing_live live, blocked, none⟩
      · rw [(sound.stands key).unlocked.mpr standing] at locked
        cases locked
  | false =>
      rw [if_neg Bool.false_ne_true, sound.recordFailure_eq moderate wide locked]
      rcases @LoginThrottle.failed_openWindow throttle now (log.recent key) wide with
          ⟨start, begun, failed⟩
      rw [(sound.stands key).unlocked.mp locked, failed] at stored
      by_cases fills : throttle.Fills now (log.recent key)
      · rw [if_pos fills] at stored ⊢
        rw [Option.isSome_some, if_pos rfl]
        apply sound.replace others _ (few_nil positive) List.Pairwise.nil
          fun time member => absurd member List.not_mem_nil
        rw [stored]
        by_cases live : throttle.Live now ⟨(current throttle.window
            (now :: log.recent key)).length, start, some (now + throttle.lockout)⟩
        · exact Or.inl ⟨_, LoginThrottle.standing_live live, rfl, rfl⟩
        · exact Or.inr (LoginThrottle.standing_over live)
      · rw [if_neg fills] at stored ⊢
        rw [Option.isSome_none, if_neg Bool.false_ne_true]
        have inside := newest_le wide begun
        apply sound.replace others _ (Nat.lt_of_not_le fills) (sound.sorted_cons key)
        · intro time member
          rcases List.mem_cons.mp member with rfl | older
          · exact le_refl _
          · exact sound.past key time older
        · right
          rw [stored, LoginThrottle.standing_live]
          · unfold LoginThrottle.openWindow
            rw [begun]
            exact (if_pos inside).symm
          · exact inside

/-- One more call keeps the log. -/
theorem Sound.step (sound : log.Sound throttle last) (positive : 1 ≤ throttle.maxFailures)
    (wide : 0 ≤ throttle.window) (moderate : throttle.Moderate) (event : ThrottleEvent)
    (later : last ≤ event.now) : (log.step throttle event).Sound throttle event.now := by
  have sofar := sound.aged later
  rcases event with ⟨now, call⟩
  cases call with
  | recordFailure key => exact sofar.recordFailure positive wide moderate key
  | lockedFor key =>
      constructor
      · intro other
        have kept := sofar.stands other
        unfold Stands at kept ⊢
        unfold FailureLog.step
        dsimp only
        rw [LoginThrottle.lockedFor_standing]
        exact kept
      · exact sofar.few
      · exact sofar.sorted
      · exact sofar.past
  | recordSuccess key =>
      apply sofar.replace _ _ (few_nil positive) List.Pairwise.nil
        fun time member => absurd member List.not_mem_nil
      · intro other different
        unfold LoginThrottle.recordSuccess
        rw [LoginThrottle.setAttempt_other different]
      · right
        unfold LoginThrottle.recordSuccess
        rw [LoginThrottle.setAttempt_same]
        rfl

theorem run_append (events : List ThrottleEvent) (event : ThrottleEvent) :
    run throttle (events ++ [event]) = (run throttle events).step throttle event := by
  unfold run
  rw [List.foldl_append]
  rfl

theorem sound_run (positive : 1 ≤ throttle.maxFailures) (wide : 0 ≤ throttle.window)
    (moderate : throttle.Moderate) (events : List ThrottleEvent) {now : Int}
    (ordered : events.Pairwise fun first second => first.now ≤ second.now)
    (before : forall event, event ∈ events -> event.now ≤ now) :
    (run throttle events).Sound throttle now := by
  induction events using List.reverseRecOn generalizing now with
  | nil => exact sound_blank positive
  | append_singleton events event inductionHypothesis =>
      rcases List.pairwise_append.mp ordered with ⟨older, -, newest⟩
      rw [run_append]
      have sofar := inductionHypothesis older fun earlier member =>
        newest earlier member event (List.mem_singleton.mpr rfl)
      exact (sofar.step positive wide moderate event (le_refl _)).aged
        (before event (List.mem_append_right _ (List.mem_singleton.mpr rfl)))

end Steps
end FailureLog

/-! ## Where the windows slide -/

namespace LoginThrottle

section Sliding

variable {throttle : LoginThrottle} {now : Int} {recent : List Int}

/-- One earlier failure begins the window that the next one falls into. -/
theorem Slides.fills_of_two (few : (current throttle.window recent).length < throttle.maxFailures)
    (atMost : throttle.maxFailures ≤ 2) (slides : throttle.Slides now recent) :
    throttle.Fills now recent := by
  have some : 0 < (current throttle.window (now :: recent)).length :=
    List.length_pos_of_ne_nil (current_ne_nil (List.cons_ne_nil _ _))
  unfold Fills
  by_cases single : throttle.maxFailures ≤ 1
  · omega
  rcases slides with ⟨enough, first, inside⟩
  cases recent with
  | nil =>
      rw [List.length_nil] at enough
      omega
  | cons time earlier =>
      rcases current_cons_cases time earlier with ⟨start, begun, -, opened, -⟩ | ⟨-, -, begun⟩
      · have older : 0 < (current throttle.window earlier).length := by
          apply List.length_pos_of_ne_nil
          apply current_ne_nil
          rintro rfl
          cases begun
        rw [opened, List.length_cons] at few
        omega
      · have two : throttle.maxFailures - 1 = 1 := by omega
        rw [two] at inside
        have late := inside now List.mem_cons_self
        have early := inside time (List.mem_cons_of_mem _ (List.mem_singleton.mpr rfl))
        rw [current_cons_of_open begun (by omega), List.length_cons]
        have before : 0 < (current throttle.window (time :: earlier)).length :=
          List.length_pos_of_ne_nil (current_ne_nil (List.cons_ne_nil _ _))
        omega

/-- Failures at one instant are in one window. -/
theorem length_current_replicate (count : Nat) (earlier : List Int) :
    count + 1 ≤ (current 0 (now :: (List.replicate count now ++ earlier))).length := by
  induction count with
  | zero => exact List.length_pos_of_ne_nil (current_ne_nil (List.cons_ne_nil _ _))
  | succ count inductionHypothesis =>
      rw [List.replicate_succ, List.cons_append]
      cases begun : started 0 (now :: (List.replicate count now ++ earlier)) with
      | none => exact absurd (started_eq_none_iff.mp begun) (List.cons_ne_nil _ _)
      | some start =>
          rw [current_cons_of_open begun (newest_le (le_refl _) begun), List.length_cons]
          omega

theorem Slides.fills_of_instant (positive : 1 ≤ throttle.maxFailures)
    (past : forall time, time ∈ recent -> time ≤ now) (instant : throttle.window = 0)
    (slides : throttle.Slides now recent) : throttle.Fills now recent := by
  rcases slides with ⟨enough, first, inside⟩
  have late := inside now List.mem_cons_self
  have same : recent.take (throttle.maxFailures - 1) =
      List.replicate (throttle.maxFailures - 1) now := by
    rw [List.eq_replicate_iff]
    constructor
    · rw [List.length_take]
      omega
    · intro time member
      have early := inside time (List.mem_cons_of_mem _ member)
      have bound := past time (List.mem_of_mem_take member)
      omega
  have counted := @length_current_replicate now (throttle.maxFailures - 1)
    (recent.drop (throttle.maxFailures - 1))
  rw [← same, List.take_append_drop] at counted
  unfold Fills
  rw [instant]
  omega

end Sliding
end LoginThrottle

namespace FailureLog

section Quiet

variable {throttle : LoginThrottle} {key : String}

/-- Failures of one key at these times, newest first. -/
def failuresAt (key : String) (times : List Int) : List ThrottleEvent :=
  times.reverse.map fun time => ⟨time, .recordFailure key⟩

theorem failuresAt_cons (time : Int) (earlier : List Int) :
    failuresAt key (time :: earlier) =
      failuresAt key earlier ++ [⟨time, .recordFailure key⟩] := by
  unfold failuresAt
  rw [List.reverse_cons, List.map_append]
  rfl

theorem mem_failuresAt {times : List Int} {event : ThrottleEvent}
    (member : event ∈ failuresAt key times) : event.now ∈ times := by
  rcases List.mem_map.mp member with ⟨time, listed, rfl⟩
  exact List.mem_reverse.mp listed

theorem ordered_failuresAt {times : List Int} (sorted : Sorted times) :
    (failuresAt key times).Pairwise fun first second => first.now ≤ second.now := by
  unfold failuresAt
  rw [List.pairwise_map, List.pairwise_reverse]
  exact sorted

/-- As long as no window is full, all failures count and the key is not locked. -/
theorem run_failuresAt (positive : 1 ≤ throttle.maxFailures) (wide : 0 ≤ throttle.window)
    (moderate : throttle.Moderate) {times : List Int} (sorted : Sorted times)
    (few : forall newer older, times = newer ++ older ->
      (current throttle.window older).length < throttle.maxFailures) {now : Int}
    (past : forall time, time ∈ times -> time ≤ now) :
    (run throttle (failuresAt key times)).recent key = times ∧
      (run throttle (failuresAt key times)).isLocked now key = false := by
  induction times generalizing now with
  | nil => exact ⟨rfl, rfl⟩
  | cons time earlier inductionHypothesis =>
      rcases List.pairwise_cons.mp sorted with ⟨older, rest⟩
      rcases inductionHypothesis rest (fun newer before split => few (time :: newer) before
          (by rw [split]; rfl)) older with ⟨recent, free⟩
      have sofar := @sound_run throttle positive wide moderate (failuresAt key earlier) time
        (ordered_failuresAt rest) fun event member => older event.now (mem_failuresAt member)
      have quiet : ¬ throttle.Fills time ((run throttle (failuresAt key earlier)).recent key) := by
        rw [recent]
        exact Nat.not_le_of_lt (few [] (time :: earlier) rfl)
      have counts : (run throttle (failuresAt key (time :: earlier))).recent key =
          time :: earlier := by
        rw [failuresAt_cons, run_append]
        change ((run throttle (failuresAt key earlier)).setRecent key
          ((run throttle (failuresAt key earlier)).recentAfter throttle time key)) key = _
        rw [setRecent_same, recentAfter, free, if_neg Bool.false_ne_true,
          sofar.recordFailure_eq moderate wide free, if_neg quiet, recent]
        rfl
      refine ⟨counts, ?_⟩
      have sound := @sound_run throttle positive wide moderate (failuresAt key (time :: earlier))
        now (ordered_failuresAt sorted) fun event member => past event.now (mem_failuresAt member)
      rw [(sound.stands key).unlocked]
      rcases sound.stands key with ⟨attempt, -, -, none⟩ | standing
      · rw [counts] at none
        cases none
      · exact standing

end Quiet
end FailureLog

namespace FailureLog

/-- A failure at `now`, after these events, on a key that is not locked then. -/
structure Attempted (throttle : LoginThrottle) (events : List ThrottleEvent) (now : Int)
    (key : String) : Prop where
  ordered : events.Pairwise fun first second => first.now ≤ second.now
  past : forall event, event ∈ events -> event.now ≤ now
  free : (run throttle events).isLocked now key = false

/-- The failure returns a lockout. -/
def Locks (throttle : LoginThrottle) (events : List ThrottleEvent) (now : Int) (key : String) :
    Prop :=
  (throttle.recordFailure now key (run throttle events).entries).1 = some throttle.lockout

/-- It and the failures that count before it are enough within one interval. -/
def Slides (throttle : LoginThrottle) (events : List ThrottleEvent) (now : Int) (key : String) :
    Prop :=
  throttle.Slides now ((run throttle events).recent key)

/-- They are enough within one of the windows that begin with a failure. -/
def Fills (throttle : LoginThrottle) (events : List ThrottleEvent) (now : Int) (key : String) :
    Prop :=
  throttle.Fills now ((run throttle events).recent key)

section Calls

variable {throttle : LoginThrottle} {events : List ThrottleEvent} {now : Int} {key : String}

theorem locks_iff_fills (positive : 1 ≤ throttle.maxFailures) (wide : 0 ≤ throttle.window)
    (moderate : throttle.Moderate) (attempted : Attempted throttle events now key) :
    Locks throttle events now key ↔ Fills throttle events now key := by
  have sound := sound_run positive wide moderate events attempted.ordered attempted.past
  unfold Locks Fills
  rw [sound.recordFailure_eq moderate wide attempted.free]
  constructor
  · intro locks
    by_contra quiet
    rw [if_neg quiet] at locks
    cases locks
  · intro fills
    exact if_pos fills

theorem slides_of_fills (positive : 1 ≤ throttle.maxFailures) (wide : 0 ≤ throttle.window)
    (moderate : throttle.Moderate) (attempted : Attempted throttle events now key)
    (fills : Fills throttle events now key) : Slides throttle events now key := by
  have sound := sound_run positive wide moderate events attempted.ordered attempted.past
  exact LoginThrottle.Fills.slides positive wide (sound.sorted_cons key) fills

/-- Failures around the end of a window: one at its beginning, all but two at
its end, and the last two just after it. -/
def astride (throttle : LoginThrottle) : List Int :=
  (throttle.window + 1) :: (List.replicate (throttle.maxFailures - 2) throttle.window ++ [0])

theorem started_replicate (span : Int) (count : Nat) :
    started span (List.replicate count span ++ [0]) = some 0 := by
  induction count with
  | zero => rfl
  | succ count inductionHypothesis =>
      rw [List.replicate_succ, List.cons_append]
      rcases current_cons_cases span (List.replicate count span ++ [0]) with
        ⟨start, begun, -, -, after⟩ | ⟨outside, -, -⟩
      · rw [inductionHypothesis] at begun
        cases begun
        exact after
      · have elapsed := outside 0 inductionHypothesis
        omega

theorem sorted_astride (wide : 0 ≤ throttle.window) : Sorted (astride throttle) := by
  apply List.pairwise_cons.mpr
  constructor
  · intro time member
    rcases List.mem_append.mp member with late | early
    · rw [List.eq_of_mem_replicate late]
      omega
    · rw [List.mem_singleton.mp early]
      omega
  · apply List.pairwise_append.mpr
    refine ⟨List.pairwise_replicate.mpr (Or.inr (le_refl _)), List.pairwise_singleton _ _, ?_⟩
    intro late lateMember early earlyMember
    rw [List.eq_of_mem_replicate lateMember, List.mem_singleton.mp earlyMember]
    exact wide

/-- The window in force after them has the newest failure only. -/
theorem current_astride :
    current throttle.window (astride throttle) = [throttle.window + 1] :=
  current_cons_of_over (started_replicate _ _) (by omega)

theorem few_astride (several : 3 ≤ throttle.maxFailures)
    {newer older : List Int} (split : astride throttle = newer ++ older) :
    (current throttle.window older).length < throttle.maxFailures := by
  have shorter := (@prefix_current throttle.window older).length_le
  have lengths := congrArg List.length split
  simp only [astride, List.length_cons, List.length_append, List.length_replicate,
    List.length_nil] at lengths
  cases newer with
  | nil =>
      rw [List.nil_append] at split
      rw [← split, current_astride, List.length_singleton]
      omega
  | cons newest newer =>
      rw [List.length_cons] at lengths
      omega

/-- The second failure just after the window does not lock, though it should. -/
theorem astride_quiet (several : 3 ≤ throttle.maxFailures) (wide : 0 < throttle.window)
    (moderate : throttle.Moderate) (key : String) :
    Attempted throttle (failuresAt key (astride throttle)) (throttle.window + 1) key ∧
      Slides throttle (failuresAt key (astride throttle)) (throttle.window + 1) key ∧
      ¬ Fills throttle (failuresAt key (astride throttle)) (throttle.window + 1) key := by
  have bounds : forall time, time ∈ astride throttle -> time ≤ throttle.window + 1 := by
    intro time member
    rcases List.mem_cons.mp member with rfl | older
    · exact le_refl _
    · exact (List.pairwise_cons.mp (sorted_astride (le_of_lt wide))).1 time older
  rcases @run_failuresAt throttle key (by omega) (le_of_lt wide) moderate (astride throttle)
      (sorted_astride (le_of_lt wide)) (fun newer older split => few_astride several split) _ bounds
      with ⟨recent, free⟩
  refine ⟨⟨ordered_failuresAt (sorted_astride (le_of_lt wide)),
    fun event member => bounds event.now (mem_failuresAt member), free⟩, ?_, ?_⟩
  · unfold Slides
    rw [recent]
    constructor
    · simp only [astride, List.length_cons, List.length_append, List.length_replicate,
        List.length_nil]
      omega
    · refine ⟨1, ?_⟩
      obtain ⟨fewer, same⟩ : Exists fun fewer => throttle.maxFailures = fewer + 2 :=
        ⟨throttle.maxFailures - 2, by omega⟩
      have front : (astride throttle).take (throttle.maxFailures - 1) =
          (throttle.window + 1) :: List.replicate (throttle.maxFailures - 2) throttle.window := by
        unfold astride
        rw [same, show fewer + 2 - 1 = fewer + 1 by omega, show fewer + 2 - 2 = fewer by omega,
          List.take_succ_cons, List.take_left' List.length_replicate]
      intro time member
      rw [front] at member
      rcases List.mem_cons.mp member with rfl | older
      · omega
      · rcases List.mem_cons.mp older with rfl | oldest
        · omega
        · rw [List.eq_of_mem_replicate oldest]
          omega
  · have begun : started throttle.window (astride throttle) = some (throttle.window + 1) := by
      unfold started
      rw [current_astride]
      rfl
    unfold Fills LoginThrottle.Fills
    rw [recent, current_cons_of_open begun (by omega), current_astride]
    change ¬ throttle.maxFailures ≤ 2
    omega

end Calls
end FailureLog

open FailureLog in
/-- The login throttle locks on a window that slides exactly if two failures are
enough for a lockout or the window is a single instant.  A lockout always comes with
enough failures within one window's length.  A single call locks as on a
window that slides exactly if the failures that are enough do not fall into two
of the windows that begin with a failure. -/
theorem locks_on_sliding_window_iff (throttle : LoginThrottle)
    (positive : 1 ≤ throttle.maxFailures) (wide : 0 ≤ throttle.window)
    (moderate : throttle.Moderate) :
    ((forall events now key, Attempted throttle events now key ->
        (Locks throttle events now key ↔ Slides throttle events now key)) ↔
      throttle.maxFailures ≤ 2 ∨ throttle.window = 0) ∧
    forall events now key, Attempted throttle events now key ->
      (Locks throttle events now key -> Slides throttle events now key) ∧
      ((Locks throttle events now key ↔ Slides throttle events now key) ↔
        (Slides throttle events now key -> Fills throttle events now key)) := by
  constructor
  · constructor
    · intro slides
      by_contra both
      rcases not_or.mp both with ⟨several, window⟩
      rcases @astride_quiet throttle (by omega) (by omega) moderate "" with
          ⟨attempted, sliding, quiet⟩
      apply quiet
      rw [← locks_iff_fills positive wide moderate attempted]
      exact (slides _ _ _ attempted).mpr sliding
    · intro few events now key attempted
      have sound := sound_run positive wide moderate events attempted.ordered attempted.past
      rw [locks_iff_fills positive wide moderate attempted]
      constructor
      · exact slides_of_fills positive wide moderate attempted
      · intro slides
        rcases few with two | instant
        · exact LoginThrottle.Slides.fills_of_two (sound.few key) two slides
        · exact LoginThrottle.Slides.fills_of_instant positive (sound.past key) instant slides
  · intro events now key attempted
    rw [locks_iff_fills positive wide moderate attempted]
    have sufficient := slides_of_fills positive wide moderate attempted
    refine ⟨sufficient, ?_⟩
    constructor
    · exact Iff.mpr
    · intro necessary
      exact ⟨sufficient, necessary⟩

namespace Sample

open FailureLog

/-- Three failures within a minute lock for two. -/
def threeInAMinute : LoginThrottle := ⟨3, 60000000000, 120000000000⟩

theorem locks_on_sliding_window_iff_three :
    ¬ forall events now key, Attempted threeInAMinute events now key ->
      (Locks threeInAMinute events now key ↔ Slides threeInAMinute events now key) := by
  have moderate : threeInAMinute.Moderate := by
    unfold LoginThrottle.Moderate
    decide
  rw [(locks_on_sliding_window_iff threeInAMinute (by decide) (by decide) moderate).1]
  decide

/-- Failures at zero, fifty and seventy seconds, and another at seventy-five:
the last three lie within twenty-five seconds and do not lock. -/
theorem window_does_not_slide :
    ¬ forall throttle : LoginThrottle, 1 ≤ throttle.maxFailures -> 0 ≤ throttle.window ->
      throttle.Moderate -> forall events now key, Attempted throttle events now key ->
        (Locks throttle events now key ↔ Slides throttle events now key) := by
  intro claimed
  have moderate : threeInAMinute.Moderate := by
    unfold LoginThrottle.Moderate
    decide
  have attempted : Attempted threeInAMinute
      (failuresAt "192.0.2.1" [70000000000, 50000000000, 0]) 75000000000 "192.0.2.1" :=
    ⟨by decide, by decide, by decide⟩
  have slides : Slides threeInAMinute
      (failuresAt "192.0.2.1" [70000000000, 50000000000, 0]) 75000000000 "192.0.2.1" :=
    ⟨by decide, 50000000000, by decide⟩
  have locks := (claimed threeInAMinute (by decide) (by decide) moderate _ _ _ attempted).mpr slides
  unfold Locks at locks
  exact absurd locks (by decide)

end Sample
end KrakenUi
