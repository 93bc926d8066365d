import KrakenUi.Guarantees.RateLimits
import KrakenUi.Middleware.RateLimit

namespace KrakenUi

open Metering RateLimit

/-!
# Waiting as long as one is told

The stored arrival time is never further ahead than the tolerance and one
interval: the last admission moved it there, and since then only time has
passed.  A rejected client therefore waits at most one interval, and the header
never names less than that.
-/

namespace GcraTable

/-- No arrival time of the table is further ahead of `now` than a request that
has just been admitted puts it. -/
def Near (rate : GcraRate) (now : Int) (table : GcraTable) : Prop :=
  forall key, effective now (table.tatUs key) ≤ now + rate.toleranceUs + rate.intervalUs

section Near

variable {rate : GcraRate} {now later : Int} {table : GcraTable}

theorem near_empty : GcraTable.empty.Near rate now := by
  intro key
  have nonnegative := rate.nonnegative
  have positive := rate.positive
  change effective now none ≤ _
  rw [effective_none]
  omega

theorem Near.aged (near : table.Near rate now) (ordered : now ≤ later) :
    table.Near rate later := by
  intro key
  have ahead := near key
  have nonnegative := rate.nonnegative
  have positive := rate.positive
  rw [effective_later ordered]
  apply max_le
  · omega
  · omega

/-- An admitted request is at most the tolerance early, and moves the arrival
time by one interval. -/
theorem Near.transact (near : table.Near rate now) (present : 0 ≤ now) (cleanup : Bool)
    (key : String) : (SqliteBackend.transact rate cleanup now key table).2.Near rate now := by
  intro other
  by_cases same : other = key
  · subst same
    by_cases waits : now < SqliteBackend.waitsUntil rate now other table
    · rw [SqliteBackend.transact_rejected present waits]
      apply le_trans _ (near other)
      rw [SqliteBackend.effective_cleaned]
    · have due : SqliteBackend.waitsUntil rate now other table ≤ now := by omega
      have moved := (@SqliteBackend.transact_allowed rate cleanup _ _ _ present due).2
      have nonnegative := rate.nonnegative
      have positive := rate.positive
      have ahead : now ≤ effective now (table.tatUs other) := le_effective
      unfold SqliteBackend.waitsUntil at due
      rw [moved, effective_some]
      unfold saturatingAdd i64Min i64Max
      omega
  · rw [SqliteBackend.transact_other same]
    exact near other

end Near
end GcraTable

namespace Tally

section Runs

variable {rate : GcraRate} {last : Int} {tally : Tally} {call next : Check}

/-- No run puts an arrival time out of reach. -/
theorem near_run (calls : List Check) {now : Int}
    (ordered : calls.Pairwise fun first second => first.now ≤ second.now)
    (before : forall call, call ∈ calls -> call.now ≤ now) :
    (run rate calls).table.Near rate now := by
  induction calls using List.reverseRecOn generalizing now with
  | nil => exact GcraTable.near_empty
  | append_singleton calls call inductionHypothesis =>
      rcases List.pairwise_append.mp ordered with ⟨older, -, newest⟩
      rw [run_append]
      have sofar : (run rate calls).table.Near rate call.now :=
        inductionHypothesis older fun earlier member =>
          newest earlier member call (List.mem_singleton.mpr rfl)
      have stepped := sofar.transact call.representable.1 call.cleanup call.key
      exact GcraTable.Near.aged stepped
        (before call (List.mem_append_right _ (List.mem_singleton.mpr rfl)))

theorem run_append_cons (before after : List Check) (call : Check) :
    run rate (before ++ call :: after) =
      after.foldl (check rate) ((run rate before).check rate call) := by
  unfold run
  rw [List.foldl_append, List.foldl_cons]

/-- The time to wait is what is missing to the end of the waiting. -/
theorem decision_retryAfter (refused : (tally.decision rate call).allowed = false) :
    call.now + ((tally.decision rate call).retryAfter : Int) =
      SqliteBackend.waitsUntil rate call.now call.key tally.table := by
  have waits := rejected_iff.mp refused
  unfold decision
  rw [SqliteBackend.transact_rejected call.representable.1 waits]
  change call.now + ((_ - call.now).toNat : Int) = _
  omega

/-- As long as the key is not admitted, its arrival time stays where it is. -/
theorem arrived_unadmitted {key : String} (calls : List Check)
    (ordered : calls.Pairwise fun first second => first.now ≤ second.now)
    (past : forall call, call ∈ calls -> last ≤ call.now)
    (unadmitted : forall earlier middle after, calls = earlier ++ middle :: after ->
      key = middle.key ->
        ((earlier.foldl (check rate) tally).decision rate middle).allowed = false)
    {now : Int} (started : last ≤ now) (before : forall call, call ∈ calls -> call.now ≤ now) :
    effective now ((calls.foldl (check rate) tally).table.tatUs key) =
      effective now (tally.table.tatUs key) := by
  induction calls generalizing tally last with
  | nil => rfl
  | cons call calls inductionHypothesis =>
      rcases List.pairwise_cons.mp ordered with ⟨first, rest⟩
      have here := before call List.mem_cons_self
      have own : effective call.now ((tally.check rate call).table.tatUs key) =
          effective call.now (tally.table.tatUs key) :=
        arrived_otherwise call.representable.1 (unadmitted [] call calls rfl)
      rw [List.foldl_cons, ← effective_agree here own]
      apply inductionHypothesis rest first
      · intro earlier middle after split same
        exact unadmitted (call :: earlier) middle after (by rw [split]; rfl) same
      · exact here
      · intro later member
        exact before later (List.mem_cons_of_mem _ member)

/-- A rejected key waits until the same time, whatever else is checked. -/
theorem waits_unadmitted (refused : (tally.decision rate call).allowed = false)
    (between : List Check)
    (ordered : between.Pairwise fun first second => first.now ≤ second.now)
    (past : forall middle, middle ∈ between -> call.now ≤ middle.now)
    (unadmitted : forall earlier middle after, between = earlier ++ middle :: after ->
      middle.key = call.key ->
        ((earlier.foldl (check rate) (tally.check rate call)).decision rate middle).allowed = false)
    (same : next.key = call.key) (later : call.now ≤ next.now)
    (before : forall middle, middle ∈ between -> middle.now ≤ next.now) :
    ((between.foldl (check rate) (tally.check rate call)).decision rate next).allowed = false ↔
      next.now < call.now + ((tally.decision rate call).retryAfter : Int) := by
  have until' := decision_retryAfter refused
  have waits := rejected_iff.mp refused
  have own : effective call.now ((tally.check rate call).table.tatUs call.key) =
      effective call.now (tally.table.tatUs call.key) :=
    arrived_otherwise call.representable.1 fun _ => refused
  have kept := arrived_unadmitted between ordered past
    (fun earlier middle after split same => unadmitted earlier middle after split same.symm)
    later before
  have nonnegative := rate.nonnegative
  rw [rejected_iff, until', same]
  unfold SqliteBackend.waitsUntil at waits ⊢
  rw [kept, effective_agree later own, effective_later later]
  omega

end Runs
end Tally

/-- The time to wait is honest.  A rejected client waits at most one interval,
and that is at most a second.  Until then its key is rejected, and from then on
it is admitted, unless it has been admitted in between.  The header names enough
seconds. -/
theorem retry_after_is_honest {requestsPerSecond burstSize : UInt32} {rate : GcraRate}
    (accepted : GcraRate.new requestsPerSecond burstSize = .ok rate)
    (before between : List Check) (call next : Check)
    (ordered : (before ++ call :: (between ++ [next])).Pairwise fun first second =>
      first.now ≤ second.now)
    (rejected : ((Tally.run rate before).decision rate call).allowed = false)
    (unadmitted : forall earlier middle after, between = earlier ++ middle :: after ->
      middle.key = call.key ->
        ((Tally.run rate (before ++ call :: earlier)).decision rate middle).allowed = false)
    (same : next.key = call.key) :
    let decision := (Tally.run rate before).decision rate call
    let answer := (Tally.run rate (before ++ call :: between)).decision rate next
    (0 < decision.retryAfter ∧ (decision.retryAfter : Int) ≤ rate.intervalUs ∧
        rate.intervalUs ≤ 1000000) ∧
      (next.now < call.now + decision.retryAfter -> answer.allowed = false) ∧
      (call.now + decision.retryAfter ≤ next.now -> answer.allowed = true) ∧
      Exists fun refusal => Exists fun seconds : Nat =>
        Middleware.refuse decision = some refusal ∧ refusal.seconds = some seconds ∧
          (call.now + seconds * 1000000 ≤ next.now -> answer.allowed = true) := by
  rcases GcraRate.new_spec accepted with ⟨-, slow, -⟩
  rcases List.pairwise_append.mp ordered with ⟨older, whole, newest⟩
  rcases List.pairwise_cons.mp whole with ⟨first, rest⟩
  rcases List.pairwise_append.mp rest with ⟨middles, -, last⟩
  have started : forall earlier, earlier ∈ before -> earlier.now ≤ call.now :=
    fun earlier member => newest earlier member call List.mem_cons_self
  have near := @Tally.near_run rate before _ older started call.key
  have until' := Tally.decision_retryAfter rejected
  have waits := Tally.rejected_iff.mp rejected
  have answered := Tally.waits_unadmitted rejected between middles
    (fun middle member => first middle (List.mem_append_left _ member))
    (fun earlier middle after split key => by
      rw [← Tally.run_append_cons]
      exact unadmitted earlier middle after split key)
    same (first next (List.mem_append_right _ (List.mem_singleton.mpr rfl)))
    (fun middle member => last middle member next (List.mem_singleton.mpr rfl))
  rw [← Tally.run_append_cons] at answered
  intro decision answer
  have allowedLater : call.now + (decision.retryAfter : Int) ≤ next.now ->
      answer.allowed = true := by
    intro late
    by_contra refused
    have early := answered.mp (Bool.eq_false_iff.mpr refused)
    change next.now < call.now + (decision.retryAfter : Int) at early
    omega
  have short : (decision.retryAfter : Int) ≤ rate.intervalUs := by
    unfold SqliteBackend.waitsUntil at until'
    change call.now + (decision.retryAfter : Int) = _ at until'
    omega
  refine ⟨⟨?_, short, slow⟩, answered.mpr, allowedLater, ?_⟩
  · change call.now + (decision.retryAfter : Int) = _ at until'
    omega
  · refine ⟨Middleware.rateLimited decision.retryAfter,
      Middleware.retrySeconds decision.retryAfter, ?_, Middleware.seconds_rateLimited _, ?_⟩
    · unfold Middleware.refuse
      rw [if_neg]
      exact Bool.eq_false_iff.mp rejected
    · intro waited
      apply allowedLater
      have enough := @Middleware.le_retrySeconds decision.retryAfter (by omega)
      omega

namespace Sample

/-- The fourth request again, after the second that the header asks for. -/
def rested : Check := ask 2100000 false (by decide)

theorem retry_after_is_honest_hurry :
    (Tally.run fivePerSecond (hurry.take 2)).decision fivePerSecond (ask 1100000 false (by decide)) =
        ⟨false, 100000⟩ ∧
      ((Tally.run fivePerSecond hurry).decision fivePerSecond rested).allowed = true := by
  have accepted : GcraRate.new 5 2 = .ok fivePerSecond := by decide
  have rejected : (Tally.run fivePerSecond (hurry.take 2)).decision fivePerSecond
      (ask 1100000 false (by decide)) = ⟨false, 100000⟩ := by decide
  have honest := retry_after_is_honest accepted (hurry.take 2) [] (ask 1100000 false (by decide))
    rested (by decide) (congrArg RateLimitDecision.allowed rejected)
    (fun earlier middle after split => absurd split.symm (by simp)) rfl
  refine ⟨rejected, honest.2.2.1 ?_⟩
  rw [rejected]
  decide

end Sample
end KrakenUi
