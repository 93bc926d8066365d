import KrakenUi.Metering.Windows

namespace KrakenUi

open Metering

/-!
# The account monitor

Failures are counted by account, whatever address they come from.  Nothing is
ever locked: the monitor only says once in a window that the threshold has been
crossed.  Times are nanoseconds of the monotonic clock, and the count is a
machine word that wraps around.
-/

structure AccountFailures where
  count : UInt32
  windowStarted : Int
  alerted : Bool
  deriving DecidableEq

/-- The entries of the monitor, by account. -/
abbrev AccountEntries := String -> Option AccountFailures

structure AccountFailureMonitor where
  window : Int
  alertThreshold : UInt32
  wide : 0 ≤ window

namespace AccountFailureMonitor

/-- Fifty failures within fifteen minutes. -/
def withDefaults : AccountFailureMonitor := ⟨15 * 60 * 1000000000, 50, by decide⟩

/-- Accounts whose window has elapsed are dropped. -/
def retain (monitor : AccountFailureMonitor) (now : Int) (entries : AccountEntries) :
    AccountEntries :=
  fun account => (entries account).filter fun failures =>
    decide (now - failures.windowStarted ≤ monitor.window)

def setFailures (entries : AccountEntries) (account : String) (failures : AccountFailures) :
    AccountEntries :=
  fun other => if other = account then some failures else entries other

/-- What a failure does to the entry of its account. -/
def noted (monitor : AccountFailureMonitor) (now : Int) (failures : AccountFailures) :
    Bool × AccountFailures :=
  let failures :=
    if monitor.window < now - failures.windowStarted then ⟨0, now, false⟩ else failures
  let failures := { failures with count := failures.count + 1 }
  if monitor.alertThreshold ≤ failures.count && !failures.alerted then
    (true, { failures with alerted := true })
  else (false, failures)

/-- `note_failure_at`. -/
def noteFailure (monitor : AccountFailureMonitor) (now : Int) (account : String)
    (entries : AccountEntries) : Bool × AccountEntries :=
  let entries := monitor.retain now entries
  let outcome := monitor.noted now ((entries account).getD ⟨0, now, false⟩)
  (outcome.1, setFailures entries account outcome.2)

/-!
## What an entry stands for

An entry stands for the window in force of the failures of its account.  Only
as long as it has not alerted does the count matter, and until then it does not
wrap around.
-/

/-- The entry counts the window that began with its first failure. -/
structure Counts (monitor : AccountFailureMonitor) (history : List Int)
    (failures : AccountFailures) : Prop where
  began : started monitor.window history = some failures.windowStarted
  alerts : failures.alerted =
    decide (monitor.alertThreshold.toNat ≤ (current monitor.window history).length)
  exactly : failures.alerted = false ->
    failures.count.toNat = (current monitor.window history).length

/-- The entry that has not elapsed stands for the window in force; without one
the window is over. -/
def Tracks (monitor : AccountFailureMonitor) (now : Int) (history : List Int)
    (entry : Option AccountFailures) : Prop :=
  match entry.filter fun failures => decide (now - failures.windowStarted ≤ monitor.window) with
  | none => forall start, started monitor.window history = some start ->
      monitor.window < now - start
  | some failures => monitor.Counts history failures

section Tracking

variable {monitor : AccountFailureMonitor} {now later : Int} {history : List Int}
  {entry : Option AccountFailures} {entries : AccountEntries} {account other : String}

theorem tracks_nil : monitor.Tracks now [] none := by
  intro start begun
  cases begun

theorem tracks_retain : monitor.Tracks now history (monitor.retain now entries account) ↔
    monitor.Tracks now history (entries account) := by
  unfold Tracks retain
  rw [Option.filter_filter]
  simp only [Bool.and_self]

/-- With time a window can only come to an end. -/
theorem Tracks.aged (ordered : now ≤ later) (tracks : monitor.Tracks now history entry) :
    monitor.Tracks later history entry := by
  cases entry with
  | none =>
      intro start begun
      have elapsed := tracks start begun
      omega
  | some failures =>
      by_cases lasts : later - failures.windowStarted ≤ monitor.window
      · have lasted : now - failures.windowStarted ≤ monitor.window := by omega
        unfold Tracks at tracks ⊢
        rw [Option.filter_some, if_pos (decide_eq_true lasted)] at tracks
        rw [Option.filter_some, if_pos (decide_eq_true lasts)]
        exact tracks
      · unfold Tracks at tracks ⊢
        rw [Option.filter_some, if_neg (by simpa using lasts)]
        intro start begun
        by_cases lasted : now - failures.windowStarted ≤ monitor.window
        · rw [Option.filter_some, if_pos (decide_eq_true lasted)] at tracks
          have same := tracks.began
          rw [begun] at same
          cases same
          omega
        · rw [Option.filter_some, if_neg (by simpa using lasted)] at tracks
          have elapsed := tracks start begun
          omega

theorem tracks_some {failures : AccountFailures}
    (lasts : now - failures.windowStarted ≤ monitor.window)
    (counts : monitor.Counts history failures) : monitor.Tracks now history (some failures) := by
  unfold Tracks
  rw [Option.filter_some, if_pos (decide_eq_true lasts)]
  exact counts

/-- Counting one more failure of the window, after `before` of them. -/
theorem noted_spec {failures : AccountFailures} {before : Nat}
    (lasts : now - failures.windowStarted ≤ monitor.window)
    (begun : started monitor.window (now :: history) = some failures.windowStarted)
    (length : (current monitor.window (now :: history)).length = before + 1)
    (alerts : failures.alerted = decide (monitor.alertThreshold.toNat ≤ before))
    (exactly : failures.alerted = false -> failures.count.toNat = before) :
    (monitor.noted now failures).1 =
        decide ((current monitor.window (now :: history)).length = monitor.alertThreshold.toNat) ∧
      (monitor.noted now failures).2.windowStarted = failures.windowStarted ∧
      monitor.Counts (now :: history) (monitor.noted now failures).2 := by
  have small : monitor.alertThreshold.toNat < 2 ^ 32 := UInt32.toNat_lt _
  unfold noted
  dsimp only
  rw [if_neg (show ¬ monitor.window < now - failures.windowStarted by omega)]
  cases alerted : failures.alerted with
  | true =>
      have past : monitor.alertThreshold.toNat ≤ before :=
        of_decide_eq_true (alerts.symm.trans alerted)
      rw [Bool.not_true, Bool.and_false, if_neg Bool.false_ne_true]
      refine ⟨?_, rfl, begun, ?_, ?_⟩
      · rw [length]
        exact (decide_eq_false (by omega)).symm
      · rw [length]
        exact (decide_eq_true (by omega)).symm
      · intro silent
        cases silent
  | false =>
      have quiet : ¬ monitor.alertThreshold.toNat ≤ before :=
        of_decide_eq_false (alerts.symm.trans alerted)
      have count : (failures.count + 1).toNat = before + 1 := by
        have one : (1 : UInt32).toNat = 1 := rfl
        rw [UInt32.toNat_add, exactly alerted, one]
        exact Nat.mod_eq_of_lt (by omega)
      rw [Bool.not_false, Bool.and_true]
      by_cases crossed : monitor.alertThreshold ≤ failures.count + 1
      · have enough := UInt32.le_iff_toNat_le.mp crossed
        rw [count] at enough
        rw [if_pos (decide_eq_true crossed)]
        refine ⟨?_, rfl, begun, ?_, ?_⟩
        · rw [length]
          exact (decide_eq_true (by omega)).symm
        · rw [length]
          exact (decide_eq_true (by omega)).symm
        · intro silent
          cases silent
      · have fewer := mt UInt32.le_iff_toNat_le.mpr crossed
        rw [count] at fewer
        rw [if_neg (by simpa using crossed)]
        refine ⟨?_, rfl, begun, ?_, ?_⟩
        · rw [length]
          exact (decide_eq_false (by omega)).symm
        · rw [length]
          exact (decide_eq_false (by omega)).symm
        · intro _
          rw [length]
          exact count

theorem noted_open {failures : AccountFailures}
    (lasts : now - failures.windowStarted ≤ monitor.window)
    (counts : monitor.Counts history failures) :
    (monitor.noted now failures).1 =
        decide ((current monitor.window (now :: history)).length = monitor.alertThreshold.toNat) ∧
      (monitor.noted now failures).2.windowStarted = failures.windowStarted ∧
      monitor.Counts (now :: history) (monitor.noted now failures).2 := by
  rcases current_cons_cases now history with ⟨start, before, -, opened, after⟩ | ⟨before, -, -⟩
  · rw [counts.began] at before
    cases before
    exact noted_spec lasts after (by rw [opened, List.length_cons]) counts.alerts counts.exactly
  · have elapsed := before _ counts.began
    omega

/-- The first failure of a window. -/
theorem noted_fresh (positive : 1 ≤ monitor.alertThreshold.toNat)
    (elapsed : forall start, started monitor.window history = some start ->
      monitor.window < now - start) :
    (monitor.noted now ⟨0, now, false⟩).1 =
        decide ((current monitor.window (now :: history)).length = monitor.alertThreshold.toNat) ∧
      (monitor.noted now ⟨0, now, false⟩).2.windowStarted = now ∧
      monitor.Counts (now :: history) (monitor.noted now ⟨0, now, false⟩).2 := by
  have wide := monitor.wide
  rcases current_cons_cases now history with ⟨start, before, inside, -, -⟩ | ⟨-, opened, after⟩
  · have outside := elapsed start before
    omega
  · apply @noted_spec monitor now history ⟨0, now, false⟩ 0
    · change now - now ≤ monitor.window
      omega
    · exact after
    · rw [opened]
      rfl
    · exact (decide_eq_false (by omega)).symm
    · intro _
      rfl

/-- A failure alerts exactly when it is the one that fills its window. -/
theorem noteFailure_spec (positive : 1 ≤ monitor.alertThreshold.toNat)
    (tracks : monitor.Tracks now history (entries account)) :
    (monitor.noteFailure now account entries).1 =
        decide ((current monitor.window (now :: history)).length = monitor.alertThreshold.toNat) ∧
      monitor.Tracks now (now :: history) ((monitor.noteFailure now account entries).2 account) := by
  have wide := monitor.wide
  have stored : (monitor.noteFailure now account entries).2 account =
      some (monitor.noted now ((monitor.retain now entries account).getD ⟨0, now, false⟩)).2 :=
    if_pos rfl
  rw [stored]
  change (monitor.noted now ((monitor.retain now entries account).getD ⟨0, now, false⟩)).1 = _ ∧ _
  unfold Tracks at tracks
  cases kept : monitor.retain now entries account with
  | none =>
      unfold retain at kept
      rw [kept] at tracks
      rcases noted_fresh positive tracks with ⟨answer, began, counts⟩
      refine ⟨answer, tracks_some ?_ counts⟩
      change now - (monitor.noted now ⟨0, now, false⟩).2.windowStarted ≤ monitor.window
      rw [began]
      omega
  | some failures =>
      unfold retain at kept
      rw [kept] at tracks
      have lasts := of_decide_eq_true (Option.filter_eq_some_iff.mp kept).2
      rcases noted_open lasts tracks with ⟨answer, began, counts⟩
      refine ⟨answer, tracks_some ?_ counts⟩
      change now - (monitor.noted now failures).2.windowStarted ≤ monitor.window
      rw [began]
      exact lasts

/-- The other accounts cannot tell. -/
theorem noteFailure_other (different : other ≠ account)
    (tracks : monitor.Tracks now history (entries other)) :
    monitor.Tracks now history ((monitor.noteFailure now account entries).2 other) := by
  have kept : (monitor.noteFailure now account entries).2 other =
      monitor.retain now entries other := if_neg different
  rw [kept]
  exact tracks_retain.mpr tracks

end Tracking
end AccountFailureMonitor
end KrakenUi
