import KrakenUi.Services.RateLimit
import Mathlib.Data.List.Forall2
import Mathlib.Data.List.Induction

namespace KrakenUi

open Metering RateLimit

/-!
# The limiters are an envelope

A run of checks is a list of keys and times, oldest first, each with or without
a cleanup.  The tally of a run is the table it leaves together with the times at
which each key was admitted.  As long as no arrival time reaches the end of the
`i64` range, the arrival time in the table cannot be told apart from the one
that the admitted times determine.
-/

/-- A call of `check`, at a time the system clock can have. -/
structure Check where
  key : String
  now : Int
  cleanup : Bool
  representable : 0 ≤ now ∧ now ≤ i64Max

/-- The table, and when each key was admitted, newest first. -/
structure Tally where
  table : GcraTable
  admitted : String -> List Int

namespace Tally

def blank : Tally := ⟨GcraTable.empty, fun _ => []⟩

def decision (rate : GcraRate) (tally : Tally) (call : Check) : RateLimitDecision :=
  (SqliteBackend.transact rate call.cleanup call.now call.key tally.table).1

def check (rate : GcraRate) (tally : Tally) (call : Check) : Tally where
  table := (SqliteBackend.transact rate call.cleanup call.now call.key tally.table).2
  admitted := fun key =>
    if key = call.key ∧ (tally.decision rate call).allowed then call.now :: tally.admitted key
    else tally.admitted key

/-- The run from the empty table. -/
def run (rate : GcraRate) (calls : List Check) : Tally :=
  calls.foldl (check rate) blank

/-- No admitted time of the key is so late that its arrival time saturates. -/
def Room (rate : GcraRate) (burst : Int) (tally : Tally) (key : String) : Prop :=
  forall time, time ∈ tally.admitted key -> time + burst * rate.intervalUs ≤ i64Max

/-- The table answers as the admitted times demand, from `last` on. -/
structure Sound (rate : GcraRate) (burst last : Int) (tally : Tally) : Prop where
  arrived : forall key, tally.Room rate burst key ->
    effective last (tally.table.tatUs key) =
      effective last (arrival rate.intervalUs (tally.admitted key))
  paced : forall key, tally.Room rate burst key ->
    Paced rate.intervalUs burst (tally.admitted key)
  ordered : forall key, (tally.admitted key).Pairwise fun newer older => older ≤ newer
  past : forall key time, time ∈ tally.admitted key -> time ≤ last

section Steps

variable {rate : GcraRate} {burst last : Int} {tally : Tally} {call : Check}

theorem sound_blank : blank.Sound rate burst last where
  arrived := fun _ _ => rfl
  paced := fun _ _ => True.intro
  ordered := fun _ => List.Pairwise.nil
  past := fun _ _ member => absurd member List.not_mem_nil

/-- A call is allowed exactly when its key does not have to wait. -/
theorem allowed_iff : (tally.decision rate call).allowed = true ↔
    SqliteBackend.waitsUntil rate call.now call.key tally.table ≤ call.now := by
  unfold decision
  constructor
  · intro allowed
    by_contra waiting
    rw [SqliteBackend.transact_rejected call.representable.1 (by omega)] at allowed
    cases allowed
  · intro due
    rw [(SqliteBackend.transact_allowed call.representable.1 due).1]
    rfl

theorem rejected_iff : (tally.decision rate call).allowed = false ↔
    call.now < SqliteBackend.waitsUntil rate call.now call.key tally.table := by
  rw [← Bool.not_eq_true, allowed_iff]
  omega

/-- A request is admitted exactly when it conforms. -/
theorem Sound.decision_iff (sound : tally.Sound rate burst last) (bursts : rate.HasBurst burst)
    (later : last ≤ call.now) (room : tally.Room rate burst call.key) :
    (tally.decision rate call).allowed = true ↔
      Conforms rate.intervalUs burst (tally.admitted call.key) call.now := by
  have nonnegative := rate.nonnegative
  have agree := effective_agree later (sound.arrived call.key room)
  have waits : SqliteBackend.waitsUntil rate call.now call.key tally.table =
      effective call.now (arrival rate.intervalUs (tally.admitted call.key)) -
        rate.toleranceUs := by
    unfold SqliteBackend.waitsUntil
    rw [agree]
  have due : (SqliteBackend.waitsUntil rate call.now call.key tally.table ≤ call.now) ↔
      Conforms rate.intervalUs burst (tally.admitted call.key) call.now := by
    rw [waits, conforms_iff rate.positive, ← bursts.2]
    cases arrival rate.intervalUs (tally.admitted call.key) with
    | none =>
        constructor
        · intro _ time missing
          cases missing
        · intro _
          rw [effective_none]
          omega
    | some arrived =>
        constructor
        · intro bound time found
          cases found
          have above : arrived ≤ effective call.now (some arrived) := le_max_left _ _
          omega
        · intro bound
          have below := bound arrived rfl
          have reached : effective call.now (some arrived) ≤ call.now + rate.toleranceUs := by
            rw [effective_some]
            exact max_le below (by omega)
          omega
  rw [← due]
  exact allowed_iff

theorem admitted_allowed (allowed : (tally.decision rate call).allowed = true) :
    (tally.check rate call).admitted call.key = call.now :: tally.admitted call.key :=
  if_pos ⟨rfl, allowed⟩

theorem admitted_otherwise {key : String}
    (otherwise : key = call.key -> (tally.decision rate call).allowed = false) :
    (tally.check rate call).admitted key = tally.admitted key := by
  apply if_neg
  rintro ⟨same, allowed⟩
  rw [otherwise same] at allowed
  cases allowed

theorem room_before {key : String} (room : (tally.check rate call).Room rate burst key) :
    tally.Room rate burst key := by
  intro time member
  apply room
  unfold check
  dsimp only
  split
  · exact List.mem_cons_of_mem _ member
  · exact member

/-- The arrival time of an admitted key moves as it should. -/
theorem Sound.arrived_allowed (sound : tally.Sound rate burst last) (bursts : rate.HasBurst burst)
    (later : last ≤ call.now) (room : (tally.check rate call).Room rate burst call.key)
    (allowed : (tally.decision rate call).allowed = true) :
    (tally.check rate call).table.tatUs call.key =
      arrival rate.intervalUs ((tally.check rate call).admitted call.key) := by
  have present := call.representable.1
  have positive := rate.positive
  have before := effective_agree later (sound.arrived call.key (room_before room))
  have due := allowed_iff.mp allowed
  have moved := (@SqliteBackend.transact_allowed rate call.cleanup _ _ _ present due).2
  have last := room call.now (by rw [admitted_allowed allowed]; exact List.mem_cons_self)
  have ahead : call.now ≤ effective call.now (tally.table.tatUs call.key) := le_effective
  unfold SqliteBackend.waitsUntil at due
  rw [bursts.2] at due
  have widen : (burst - 1) * rate.intervalUs = burst * rate.intervalUs - rate.intervalUs := by ring
  have exactly : saturatingAdd (effective call.now (tally.table.tatUs call.key))
      rate.intervalUs = effective call.now (tally.table.tatUs call.key) + rate.intervalUs := by
    unfold saturatingAdd i64Min
    simp only [i64Max] at last ⊢
    omega
  rw [admitted_allowed allowed, arrival_cons]
  change (SqliteBackend.transact rate call.cleanup call.now call.key tally.table).2.tatUs
    call.key = _
  rw [moved, exactly, before]

/-- A key that is not admitted keeps its arrival time, as far as one can tell. -/
theorem arrived_otherwise {key : String} (present : 0 ≤ call.now)
    (otherwise : key = call.key -> (tally.decision rate call).allowed = false) :
    effective call.now ((tally.check rate call).table.tatUs key) =
      effective call.now (tally.table.tatUs key) := by
  by_cases same : key = call.key
  · have refused := otherwise same
    subst same
    have waits := rejected_iff.mp refused
    unfold check
    rw [SqliteBackend.transact_rejected present waits]
    exact SqliteBackend.effective_cleaned call.cleanup
  · exact SqliteBackend.transact_other same

/-- One more call keeps the table sound. -/
theorem Sound.check (sound : tally.Sound rate burst last) (bursts : rate.HasBurst burst)
    (later : last ≤ call.now) : (tally.check rate call).Sound rate burst call.now := by
  have present := call.representable.1
  have aged : forall key time, time ∈ tally.admitted key -> time ≤ call.now :=
    fun key time member => le_trans (sound.past key time member) later
  constructor
  · intro key room
    by_cases admitted : key = call.key ∧ (tally.decision rate call).allowed = true
    · rcases admitted with ⟨rfl, allowed⟩
      rw [sound.arrived_allowed bursts later room allowed]
    · have otherwise : key = call.key -> (tally.decision rate call).allowed = false :=
        fun same => Bool.eq_false_iff.mpr fun allowed => admitted ⟨same, allowed⟩
      rw [arrived_otherwise present otherwise, admitted_otherwise otherwise]
      exact effective_agree later (sound.arrived key (room_before room))
  · intro key room
    by_cases admitted : key = call.key ∧ (tally.decision rate call).allowed = true
    · rcases admitted with ⟨rfl, allowed⟩
      rw [admitted_allowed allowed]
      exact ⟨(sound.decision_iff bursts later (room_before room)).mp allowed,
        sound.paced call.key (room_before room)⟩
    · rw [admitted_otherwise fun same => Bool.eq_false_iff.mpr fun allowed =>
        admitted ⟨same, allowed⟩]
      exact sound.paced key (room_before room)
  · intro key
    by_cases admitted : key = call.key ∧ (tally.decision rate call).allowed = true
    · rcases admitted with ⟨rfl, allowed⟩
      rw [admitted_allowed allowed]
      exact List.pairwise_cons.mpr ⟨aged call.key, sound.ordered call.key⟩
    · rw [admitted_otherwise fun same => Bool.eq_false_iff.mpr fun allowed =>
        admitted ⟨same, allowed⟩]
      exact sound.ordered key
  · intro key time member
    by_cases admitted : key = call.key ∧ (tally.decision rate call).allowed = true
    · rcases admitted with ⟨rfl, allowed⟩
      rw [admitted_allowed allowed] at member
      rcases List.mem_cons.mp member with rfl | old
      · exact le_refl _
      · exact aged call.key time old
    · rw [admitted_otherwise fun same => Bool.eq_false_iff.mpr fun allowed =>
        admitted ⟨same, allowed⟩] at member
      exact aged key time member

theorem Sound.later (sound : tally.Sound rate burst last) {now : Int} (later : last ≤ now) :
    tally.Sound rate burst now where
  arrived := fun key room => effective_agree later (sound.arrived key room)
  paced := sound.paced
  ordered := sound.ordered
  past := fun key time member => le_trans (sound.past key time member) later

theorem run_append (calls : List Check) (call : Check) :
    run rate (calls ++ [call]) = (run rate calls).check rate call := by
  unfold run
  rw [List.foldl_append]
  rfl

/-- A run at times that do not go back is sound after its last time. -/
theorem sound_run (bursts : rate.HasBurst burst) (calls : List Check) {now : Int}
    (ordered : calls.Pairwise fun first second => first.now ≤ second.now)
    (before : forall call, call ∈ calls -> call.now ≤ now) :
    (run rate calls).Sound rate burst now := by
  induction calls using List.reverseRecOn generalizing now with
  | nil => exact sound_blank
  | append_singleton calls call inductionHypothesis =>
      rcases List.pairwise_append.mp ordered with ⟨older, -, newest⟩
      rw [run_append]
      have sofar := inductionHypothesis older fun earlier member =>
        newest earlier member call (List.mem_singleton.mpr rfl)
      exact (sofar.check bursts (le_refl _)).later
        (before call (List.mem_append_right _ (List.mem_singleton.mpr rfl)))

end Steps
end Tally

/-- The SQLite limiter is exactly the GCRA envelope.  After any run, as long as
the admitted times of the key leave room for an arrival time, a check is allowed
if and only if it conforms, and no window of time has more admitted requests
than the burst and one per interval. -/
theorem sqlite_is_the_envelope {rate : GcraRate} {burst : Int} (bursts : rate.HasBurst burst)
    (before : List Check) (call : Check)
    (ordered : (before ++ [call]).Pairwise fun first second => first.now ≤ second.now)
    (room : (Tally.run rate before).Room rate burst call.key) :
    (((Tally.run rate before).decision rate call).allowed = true ↔
      Conforms rate.intervalUs burst ((Tally.run rate before).admitted call.key) call.now) ∧
    forall start stop, start ≤ stop ->
      ((((Tally.run rate before).admitted call.key).countP
        fun time => start ≤ time && time ≤ stop : Nat) : Int) ≤
          burst + (stop - start) / rate.intervalUs := by
  rcases List.pairwise_append.mp ordered with ⟨older, -, newest⟩
  have sound := Tally.sound_run bursts before older fun earlier member =>
    newest earlier member call (List.mem_singleton.mpr rfl)
  refine ⟨sound.decision_iff bursts (le_refl _) room, ?_⟩
  intro start stop length
  exact (sound.paced call.key room).window rate.positive bursts.1 (sound.ordered call.key) length

/-! ## Two backends -/

/-- The SQLite backend on one key: its decisions at these times, with a cleanup
where the flag says so. -/
def sqliteDecisions (rate : GcraRate) (key : String) :
    GcraTable -> List (Int × Bool) -> List RateLimitDecision
  | _, [] => []
  | table, (now, cleanup) :: rest =>
      let outcome := SqliteBackend.transact rate cleanup now key table
      outcome.1 :: sqliteDecisions rate key outcome.2 rest

/-- The Redis backend on one key. -/
def redisDecisions (backend : RedisBackend) (key : String) :
    RedisStore -> List Int -> List RateLimitDecision
  | _, [] => []
  | store, now :: rest =>
      let outcome := backend.check now key store
      outcome.1 :: redisDecisions backend key outcome.2 rest

/-- The same decision, with the waiting time rounded up to whole milliseconds. -/
def Alike (sqlite redis : RateLimitDecision) : Prop :=
  redis.allowed = sqlite.allowed ∧
    (sqlite.allowed = false -> redis.retryAfter = (sqlite.retryAfter + 999) / 1000 * 1000)

section Backends

variable {backend : RedisBackend} {key : String} {now : Int} {cleanup : Bool} {table : GcraTable}
  {store : RedisStore}

/-- Stores that cannot be told apart decide alike, and cannot be told apart
afterwards. -/
theorem alike_step (present : 0 ≤ now) (exactly : now < 2 ^ 53)
    (slow : backend.rate.intervalUs ≤ 1000000) (small : backend.rate.toleranceUs ≤ 1000000 * 2 ^ 32)
    (agree : effective now (table.tatUs key) =
      effective now (store.value (backend.keyPrefix ++ key))) :
    Alike (SqliteBackend.transact backend.rate cleanup now key table).1
        (backend.check now key store).1 ∧
      effective now ((SqliteBackend.transact backend.rate cleanup now key table).2.tatUs key) =
        effective now ((backend.check now key store).2.value (backend.keyPrefix ++ key)) := by
  by_cases waits : now < SqliteBackend.waitsUntil backend.rate now key table
  · have same := waits
    unfold SqliteBackend.waitsUntil at same
    rw [agree] at same
    rw [SqliteBackend.transact_rejected present waits, RedisBackend.check_rejected same]
    refine ⟨⟨rfl, ?_⟩, ?_⟩
    · intro _
      simp only [RateLimitDecision.rejected, SqliteBackend.waitsUntil, agree,
        RedisBackend.ceilMillis]
      omega
    · exact (SqliteBackend.effective_cleaned cleanup).trans agree
  · have due : SqliteBackend.waitsUntil backend.rate now key table ≤ now := by omega
    have same := due
    unfold SqliteBackend.waitsUntil at same
    rw [agree] at same
    rcases @SqliteBackend.transact_allowed backend.rate cleanup _ _ _ present due with
        ⟨allowed, moved⟩
    rcases RedisBackend.check_allowed same with ⟨admitted, stored⟩
    refine ⟨⟨by rw [allowed, admitted], ?_⟩, ?_⟩
    · intro refused
      rw [allowed] at refused
      cases refused
    · have ahead : now ≤ effective now (store.value (backend.keyPrefix ++ key)) := le_effective
      have positive := backend.rate.positive
      rw [moved, stored, agree]
      congr 2
      unfold saturatingAdd i64Min i64Max
      omega

theorem alike_decisions (slow : backend.rate.intervalUs ≤ 1000000)
    (small : backend.rate.toleranceUs ≤ 1000000 * 2 ^ 32) (calls : List (Int × Bool))
    (ordered : calls.Pairwise fun first second => first.1 ≤ second.1)
    (exactly : forall call, call ∈ calls -> 0 ≤ call.1 ∧ call.1 < 2 ^ 53)
    (agree : forall call, call ∈ calls -> effective call.1 (table.tatUs key) =
      effective call.1 (store.value (backend.keyPrefix ++ key))) :
    List.Forall₂ Alike (sqliteDecisions backend.rate key table calls)
      (redisDecisions backend key store (calls.map Prod.fst)) := by
  induction calls generalizing table store with
  | nil => exact List.Forall₂.nil
  | cons call rest inductionHypothesis =>
      rcases call with ⟨now, cleanup⟩
      rcases List.pairwise_cons.mp ordered with ⟨later, restOrdered⟩
      rcases exactly (now, cleanup) List.mem_cons_self with ⟨present, bounded⟩
      rcases @alike_step backend key now cleanup table store present bounded slow small
          (agree (now, cleanup) List.mem_cons_self) with ⟨alike, after⟩
      apply List.Forall₂.cons alike
      apply inductionHypothesis restOrdered
      · intro call member
        exact exactly call (List.mem_cons_of_mem _ member)
      · intro call member
        exact effective_agree (later call member) after

end Backends

/-- The Redis and the SQLite backend decide alike, at every call of a run on one
key.  Times are below 2 ^ 53, where Lua numbers are exact. -/
theorem backends_decide_alike {requestsPerSecond burstSize : UInt32} {rate : GcraRate}
    (accepted : GcraRate.new requestsPerSecond burstSize = .ok rate) (keyPrefix key : String)
    (calls : List (Int × Bool)) (ordered : calls.Pairwise fun first second => first.1 ≤ second.1)
    (exactly : forall call, call ∈ calls -> 0 ≤ call.1 ∧ call.1 < 2 ^ 53) :
    List.Forall₂ Alike (sqliteDecisions rate key GcraTable.empty calls)
      (redisDecisions ⟨keyPrefix, rate⟩ key RedisStore.empty (calls.map Prod.fst)) := by
  rcases GcraRate.new_spec accepted with ⟨-, slow, small⟩
  exact @alike_decisions ⟨keyPrefix, rate⟩ key GcraTable.empty RedisStore.empty slow small calls
    ordered exactly fun _ _ => rfl

namespace Sample

/-- Five requests a second, two at once. -/
def fivePerSecond : GcraRate := ⟨200000, 200000, by decide, by decide⟩

def ask (now : Int) (cleanup : Bool) (representable : 0 ≤ now ∧ now ≤ i64Max) : Check :=
  ⟨"192.0.2.1", now, cleanup, representable⟩

/-- Three requests within a tenth of a second. -/
def hurry : List Check :=
  [ask 1000000 false (by decide), ask 1000000 true (by decide), ask 1100000 false (by decide)]

/-- The fourth request, when a slot is free again. -/
def patient : Check := ask 1200000 true (by decide)

theorem sqlite_is_the_envelope_hurry :
    (Tally.run fivePerSecond hurry).admitted patient.key = [1000000, 1000000] ∧
      Conforms fivePerSecond.intervalUs 2 ((Tally.run fivePerSecond hurry).admitted patient.key)
        patient.now := by
  have admitted : (Tally.run fivePerSecond hurry).admitted patient.key = [1000000, 1000000] := by
    decide
  have allowed : ((Tally.run fivePerSecond hurry).decision fivePerSecond patient).allowed = true :=
    by decide
  have bursts : fivePerSecond.HasBurst 2 := ⟨by decide, by decide⟩
  have room : (Tally.run fivePerSecond hurry).Room fivePerSecond 2 patient.key := by
    intro time member
    rw [admitted] at member
    simp only [List.mem_cons, List.not_mem_nil, or_false, or_self] at member
    rw [member]
    decide
  exact ⟨admitted,
    (sqlite_is_the_envelope bursts hurry patient (by decide) room).1.mp allowed⟩

/-- One request a second, one at once. -/
def onePerSecond : GcraRate := ⟨1000000, 0, by decide, by decide⟩

/-- At the end of the `i64` range the arrival time saturates, and a second
request at the same microsecond is admitted. -/
theorem sqlite_saturates :
    ¬ forall (rate : GcraRate) (burst : Int), rate.HasBurst burst ->
      forall (before : List Check) (call : Check),
        (before ++ [call]).Pairwise (fun first second => first.now ≤ second.now) ->
        (((Tally.run rate before).decision rate call).allowed = true ↔
          Conforms rate.intervalUs burst ((Tally.run rate before).admitted call.key) call.now) := by
  intro claimed
  have conforms := (claimed onePerSecond 1 ⟨by decide, by decide⟩ [ask i64Max false (by decide)]
    (ask i64Max false (by decide)) (by decide)).mp (by decide)
  have bound := conforms [] i64Max [] (by decide)
  exact absurd bound (by decide)

/-- Four requests, the second after a cleanup. -/
def arrivals : List (Int × Bool) :=
  [(1000000, false), (1000000, true), (1000001, false), (1200000, false)]

theorem backends_decide_alike_arrivals :
    GcraRate.new 5 2 = .ok fivePerSecond ∧
      sqliteDecisions fivePerSecond "192.0.2.1" GcraTable.empty arrivals =
        [⟨true, 0⟩, ⟨true, 0⟩, ⟨false, 199999⟩, ⟨true, 0⟩] ∧
      List.Forall₂ Alike (sqliteDecisions fivePerSecond "192.0.2.1" GcraTable.empty arrivals)
        (redisDecisions ⟨"kraken-ui:ratelimit:", fivePerSecond⟩ "192.0.2.1" RedisStore.empty
          (arrivals.map Prod.fst)) := by
  have accepted : GcraRate.new 5 2 = .ok fivePerSecond := by decide
  exact ⟨accepted, by decide,
    backends_decide_alike accepted "kraken-ui:ratelimit:" "192.0.2.1" arrivals (by decide)
      (by decide)⟩

end Sample
end KrakenUi
