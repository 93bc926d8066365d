import Mathlib.Algebra.Order.Ring.Int
import Mathlib.Tactic.Common

namespace KrakenUi

/-!
# The login throttle

The failure counter with temporary lockout.  Times are nanoseconds of the
monotonic clock.  The map of entries is a function, because the order of its
keys is nowhere observable.
-/

structure Attempt where
  failures : Nat
  windowStarted : Int
  lockedUntil : Option Int
  deriving DecidableEq, Repr

/-- The entries of the throttle, by key. -/
abbrev Attempts := String -> Option Attempt

structure LoginThrottle where
  maxFailures : Nat
  window : Int
  lockout : Int
  deriving DecidableEq

namespace LoginThrottle

def nanosPerSecond : Int := 1000000000

def withDefaults : LoginThrottle where
  maxFailures := 5
  window := 5 * 60 * nanosPerSecond
  lockout := 15 * 60 * nanosPerSecond

def setAttempt (entries : Attempts) (key : String) (attempt : Option Attempt) : Attempts :=
  fun other => if other = key then attempt else entries other

/-- Entries that are neither locked nor of the last hour are dropped. -/
def worthKeeping (now : Int) (attempt : Attempt) : Bool :=
  match attempt.lockedUntil with
  | some deadline => decide (now < deadline)
  | none => decide (now - attempt.windowStarted ≤ 3600 * nanosPerSecond)

def prune (now : Int) (entries : Attempts) : Attempts :=
  fun key => (entries key).filter (worthKeeping now)

/-- `locked_for_at`, which also drops a record whose lockout has elapsed. -/
def lockedFor (now : Int) (key : String) (entries : Attempts) : Option Int × Attempts :=
  match entries key with
  | none => (none, entries)
  | some attempt =>
      match attempt.lockedUntil with
      | some deadline =>
          if now < deadline then (some (deadline - now), entries)
          else (none, setAttempt entries key none)
      | none => (none, entries)

/-- A new window begins when a lockout has elapsed. -/
def unlocked (now : Int) (attempt : Attempt) : Attempt :=
  match attempt.lockedUntil with
  | some _ => ⟨0, now, none⟩
  | none => attempt

/-- A new window begins when the old one is over. -/
def windowed (throttle : LoginThrottle) (now : Int) (attempt : Attempt) : Attempt :=
  if throttle.window < now - attempt.windowStarted then
    { attempt with failures := 0, windowStarted := now }
  else attempt

/-- Count one more failure. -/
def counted (throttle : LoginThrottle) (now : Int) (attempt : Attempt) : Option Int × Attempt :=
  let failures := attempt.failures + 1
  if throttle.maxFailures ≤ failures then
    (some throttle.lockout,
      { attempt with failures := failures, lockedUntil := some (now + throttle.lockout) })
  else (none, { attempt with failures := failures })

/-- What a failure does to the entry of its key. -/
def failed (throttle : LoginThrottle) (now : Int) (attempt : Attempt) : Option Int × Attempt :=
  match attempt.lockedUntil with
  | some deadline =>
      if now < deadline then (some (deadline - now), attempt)
      else throttle.counted now (throttle.windowed now (unlocked now attempt))
  | none => throttle.counted now (throttle.windowed now (unlocked now attempt))

/-- `record_failure_at`. -/
def recordFailure (throttle : LoginThrottle) (now : Int) (key : String) (entries : Attempts) :
    Option Int × Attempts :=
  let entries := prune now entries
  let attempt := (entries key).getD ⟨0, now, none⟩
  let outcome := throttle.failed now attempt
  (outcome.1, setAttempt entries key (some outcome.2))

def recordSuccess (key : String) (entries : Attempts) : Attempts :=
  setAttempt entries key none

/-!
## What an entry amounts to

An entry whose lockout has elapsed, or whose window is over, is as good as no
entry.  Dropping it early or late makes no difference.
-/

/-- The entry is locked, or its window is still open. -/
def Live (throttle : LoginThrottle) (now : Int) (attempt : Attempt) : Prop :=
  match attempt.lockedUntil with
  | some deadline => now < deadline
  | none => now - attempt.windowStarted ≤ throttle.window

instance (throttle : LoginThrottle) (now : Int) (attempt : Attempt) :
    Decidable (throttle.Live now attempt) :=
  match locked : attempt.lockedUntil with
  | some deadline => decidable_of_iff (now < deadline) (by unfold Live; rw [locked])
  | none => decidable_of_iff (now - attempt.windowStarted ≤ throttle.window)
      (by unfold Live; rw [locked])

/-- The entry as far as it still matters. -/
def standing (throttle : LoginThrottle) (now : Int) (entry : Option Attempt) : Option Attempt :=
  entry.filter fun attempt => decide (throttle.Live now attempt)

/-- The window is not longer than the hour that entries are kept. -/
def Moderate (throttle : LoginThrottle) : Prop := throttle.window ≤ 3600 * nanosPerSecond

theorem moderate_withDefaults : withDefaults.Moderate := by
  unfold Moderate withDefaults nanosPerSecond
  decide

section Standing

variable {throttle : LoginThrottle} {now later : Int} {key other : String} {entries : Attempts}
  {entry : Option Attempt} {attempt : Attempt}

@[simp] theorem standing_none : throttle.standing now none = none := rfl

theorem standing_live (live : throttle.Live now attempt) :
    throttle.standing now (some attempt) = some attempt := by
  unfold standing
  rw [Option.filter_some, if_pos (by simpa using live)]

theorem standing_over (lapsed : ¬ throttle.Live now attempt) :
    throttle.standing now (some attempt) = none := by
  unfold standing
  rw [Option.filter_some, if_neg (by simpa using lapsed)]

/-- What is over stays over. -/
theorem Live.earlier (later' : now ≤ later) (live : throttle.Live later attempt) :
    throttle.Live now attempt := by
  unfold Live at live ⊢
  cases locked : attempt.lockedUntil with
  | some deadline =>
      rw [locked] at live
      dsimp only at live ⊢
      omega
  | none =>
      rw [locked] at live
      dsimp only at live ⊢
      omega

theorem standing_standing (later' : now ≤ later) :
    throttle.standing later (throttle.standing now entry) = throttle.standing later entry := by
  cases entry with
  | none => rfl
  | some attempt =>
      by_cases live : throttle.Live now attempt
      · rw [standing_live live]
      · rw [standing_over live, standing_over fun lives => live (lives.earlier later')]
        rfl

/-- Entries that are alike now are alike later. -/
theorem standing_agree {left right : Option Attempt} (later' : now ≤ later)
    (same : throttle.standing now left = throttle.standing now right) :
    throttle.standing later left = throttle.standing later right := by
  rw [← standing_standing later', same, standing_standing later']

/-- An entry that stands is worth keeping. -/
theorem Live.worthKeeping (moderate : throttle.Moderate) (live : throttle.Live now attempt) :
    worthKeeping now attempt = true := by
  unfold Live at live
  unfold Moderate at moderate
  unfold LoginThrottle.worthKeeping
  cases locked : attempt.lockedUntil with
  | some deadline =>
      rw [locked] at live
      exact decide_eq_true live
  | none =>
      rw [locked] at live
      apply decide_eq_true
      dsimp only at live
      omega

/-- Pruning does not show. -/
theorem standing_prune (moderate : throttle.Moderate) :
    throttle.standing now (prune now entries key) = throttle.standing now (entries key) := by
  unfold prune
  cases entries key with
  | none => rfl
  | some attempt =>
      by_cases live : throttle.Live now attempt
      · rw [Option.filter_some, if_pos (live.worthKeeping moderate)]
      · rw [standing_over live, Option.filter_some]
        split
        · exact standing_over live
        · rfl

end Standing

/-! ## Specifications by the standing entry -/

@[simp] theorem setAttempt_same (entries : Attempts) (key : String) (attempt : Option Attempt) :
    setAttempt entries key attempt key = attempt := if_pos rfl

theorem setAttempt_other {key other : String} (different : other ≠ key) (entries : Attempts)
    (attempt : Option Attempt) : setAttempt entries key attempt other = entries other :=
  if_neg different

/-- The time a standing entry is still locked. -/
def remaining (now : Int) (entry : Option Attempt) : Option Int :=
  entry.bind fun attempt => attempt.lockedUntil.map fun deadline => deadline - now

section Specifications

variable {throttle : LoginThrottle} {now : Int} {key other : String} {entries : Attempts}

theorem lockedFor_answer :
    (lockedFor now key entries).1 = remaining now (throttle.standing now (entries key)) := by
  unfold lockedFor
  cases entries key with
  | none => rfl
  | some attempt =>
      cases locked : attempt.lockedUntil with
      | none =>
          by_cases live : throttle.Live now attempt
          · rw [standing_live live]
            simp [remaining, locked]
          · rw [standing_over live]
            simp [remaining, locked]
      | some deadline =>
          by_cases early : now < deadline
          · have live : throttle.Live now attempt := by
              unfold Live
              rw [locked]
              exact early
            rw [standing_live live]
            simp [remaining, locked, early]
          · have lapsed : ¬ throttle.Live now attempt := by
              unfold Live
              rw [locked]
              exact early
            rw [standing_over lapsed]
            simp [remaining, locked, early]

/-- Asking changes nothing that matters. -/
theorem lockedFor_standing :
    throttle.standing now ((lockedFor now key entries).2 other) =
      throttle.standing now (entries other) := by
  unfold lockedFor
  cases found : entries key with
  | none => rfl
  | some attempt =>
      cases locked : attempt.lockedUntil with
      | none => simp [locked]
      | some deadline =>
          by_cases early : now < deadline
          · simp [locked, early]
          · have lapsed : ¬ throttle.Live now attempt := by
              unfold Live
              rw [locked]
              exact early
            by_cases same : other = key
            · subst same
              simp [locked, early, found, standing_over lapsed]
            · simp [locked, early, setAttempt_other same]

/-- A failure on an entry that is over starts afresh. -/
theorem failed_over {attempt : Attempt} (kept : worthKeeping now attempt = true)
    (lapsed : ¬ throttle.Live now attempt) :
    throttle.failed now attempt = throttle.failed now ⟨0, now, none⟩ := by
  unfold Live at lapsed
  unfold worthKeeping at kept
  cases locked : attempt.lockedUntil with
  | some deadline =>
      rw [locked] at lapsed kept
      exact absurd (of_decide_eq_true kept) lapsed
  | none =>
      rw [locked] at lapsed
      have elapsed : throttle.window < now - attempt.windowStarted := by
        dsimp only at lapsed
        omega
      have fresh : throttle.windowed now ⟨0, now, none⟩ = ⟨0, now, none⟩ := by
        unfold windowed
        split <;> rfl
      have restarted : throttle.windowed now attempt = ⟨0, now, none⟩ := by
        unfold windowed
        rw [if_pos elapsed, locked]
      simp only [failed, locked, unlocked, fresh, restarted]

/-- A failure depends on the standing entry of its key. -/
theorem recordFailure_eq (moderate : throttle.Moderate) :
    throttle.failed now ((prune now entries key).getD ⟨0, now, none⟩) =
      throttle.failed now ((throttle.standing now (entries key)).getD ⟨0, now, none⟩) := by
  unfold prune
  cases entries key with
  | none => rfl
  | some attempt =>
      by_cases live : throttle.Live now attempt
      · rw [standing_live live, Option.filter_some, if_pos (live.worthKeeping moderate)]
      · rw [standing_over live, Option.filter_some]
        split
        · rename_i kept
          exact failed_over kept live
        · rfl

theorem recordFailure_answer (moderate : throttle.Moderate) :
    (throttle.recordFailure now key entries).1 =
      (throttle.failed now ((throttle.standing now (entries key)).getD ⟨0, now, none⟩)).1 :=
  congrArg Prod.fst (recordFailure_eq moderate)

theorem recordFailure_same (moderate : throttle.Moderate) :
    (throttle.recordFailure now key entries).2 key =
      some (throttle.failed now
        ((throttle.standing now (entries key)).getD ⟨0, now, none⟩)).2 := by
  unfold recordFailure
  dsimp only
  rw [setAttempt_same, recordFailure_eq moderate]

theorem recordFailure_other (moderate : throttle.Moderate) (different : other ≠ key) :
    throttle.standing now ((throttle.recordFailure now key entries).2 other) =
      throttle.standing now (entries other) := by
  unfold recordFailure
  dsimp only
  rw [setAttempt_other different, standing_prune moderate]

end Specifications

end LoginThrottle
end KrakenUi
