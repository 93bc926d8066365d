import KrakenUi.Metering.ArrivalTime

namespace KrakenUi

open Metering

/-!
# The two rate-limit backends

Both backends keep a theoretical arrival time per key.  SQLite keeps it in a row
that a cleanup may delete once its expiry has passed; Redis keeps it in a key
that vanishes by itself.  Times are microseconds of the system clock, computed with
saturating `i64` arithmetic in SQLite and with Lua numbers in Redis.

A decision carries the time to wait in microseconds.
-/

namespace RateLimit

def i64Min : Int := -2 ^ 63

def i64Max : Int := 2 ^ 63 - 1

/-- `i64::saturating_add`. -/
def saturatingAdd (left right : Int) : Int := max i64Min (min i64Max (left + right))

/-- `i64::saturating_sub`. -/
def saturatingSub (left right : Int) : Int := max i64Min (min i64Max (left - right))

end RateLimit

open RateLimit

structure RateLimitDecision where
  allowed : Bool
  retryAfter : Nat
  deriving DecidableEq, Repr

namespace RateLimitDecision

def allow : RateLimitDecision := ⟨true, 0⟩

def rejected (retryAfter : Nat) : RateLimitDecision := ⟨false, retryAfter⟩

end RateLimitDecision

/-- The spacing of requests and how far ahead of it a client may be. -/
structure GcraRate where
  intervalUs : Int
  toleranceUs : Int
  positive : 0 < intervalUs
  nonnegative : 0 ≤ toleranceUs
  deriving DecidableEq

namespace GcraRate

/-- `GcraRate::new` on the two numbers of the configuration. -/
def new (requestsPerSecond burstSize : UInt32) : Except String GcraRate :=
  if requestsPerSecond = 0 ∨ burstSize = 0 then
    .error "GCRA rate and burst must be greater than zero"
  else
    let intervalUs : Nat := (1000000 / requestsPerSecond).toNat
    let toleranceUs : Nat := intervalUs * (burstSize - 1).toNat
    if zero : intervalUs = 0 then .error "requests_per_second cannot exceed 1,000,000"
    else if i64Max < toleranceUs then .error "GCRA burst is too large"
    else .ok ⟨intervalUs, toleranceUs, by omega, by omega⟩

/-- The rate lets a burst of this size through. -/
def HasBurst (rate : GcraRate) (burst : Int) : Prop :=
  1 ≤ burst ∧ rate.toleranceUs = (burst - 1) * rate.intervalUs

end GcraRate

/-! ## SQLite -/

/-- A row of `rate_limit_gcra` without its key. -/
structure GcraRow where
  tatUs : Int
  expiresAtUs : Int
  covered : tatUs ≤ expiresAtUs
  representable : tatUs ≤ i64Max

/-- The table `rate_limit_gcra`, by its primary key. -/
structure GcraTable where
  row : String -> Option GcraRow

namespace GcraTable

def empty : GcraTable := ⟨fun _ => none⟩

/-- `DELETE FROM rate_limit_gcra WHERE expires_at_us <= now`. -/
def deleteExpired (table : GcraTable) (now : Int) : GcraTable :=
  ⟨fun key => (table.row key).filter fun row => decide (now < row.expiresAtUs)⟩

def tatUs (table : GcraTable) (key : String) : Option Int := (table.row key).map GcraRow.tatUs

/-- `INSERT ... ON CONFLICT(key) DO UPDATE`. -/
def upsert (table : GcraTable) (key : String) (row : GcraRow) : GcraTable :=
  ⟨fun other => if other = key then some row else table.row other⟩

end GcraTable

namespace GcraRate

/-- The row that an admitted request leaves. -/
def newRow (rate : GcraRate) (tat now : Int) : GcraRow where
  tatUs := saturatingAdd (max tat now) rate.intervalUs
  expiresAtUs := saturatingAdd (saturatingAdd (max tat now) rate.intervalUs) rate.toleranceUs
  covered := by
    have nonnegative := rate.nonnegative
    simp only [saturatingAdd, i64Min, i64Max]
    omega
  representable := by
    simp only [saturatingAdd, i64Min, i64Max]
    omega

end GcraRate

structure SqliteBackend where
  rate : GcraRate
  cleanupIntervalRequests : Nat
  requests : Nat

namespace SqliteBackend

/-- The transaction of `check`, with or without the cleanup. -/
def transact (rate : GcraRate) (cleanup : Bool) (now : Int) (key : String) (table : GcraTable) :
    RateLimitDecision × GcraTable :=
  let table := if cleanup then table.deleteExpired now else table
  let tat := (table.tatUs key).getD now
  let allowAt := saturatingSub tat rate.toleranceUs
  if now < allowAt then (.rejected (allowAt - now).toNat, table)
  else (.allow, table.upsert key (rate.newRow tat now))

/-- The counter of requests, which wraps around. -/
def counted (backend : SqliteBackend) : SqliteBackend :=
  { backend with requests := (backend.requests + 1) % 2 ^ 64 }

/-- Every so many requests the expired rows are deleted first. -/
def check (backend : SqliteBackend) (now : Int) (key : String) (table : GcraTable) :
    RateLimitDecision × SqliteBackend × GcraTable :=
  let backend := backend.counted
  let cleanup := decide (backend.requests % backend.cleanupIntervalRequests = 0)
  let outcome := transact backend.rate cleanup now key table
  (outcome.1, backend, outcome.2)

end SqliteBackend

/-! ## Redis -/

/-- A stored number and the microsecond at which its `PX` time has elapsed. -/
structure RedisEntry where
  value : Int
  goneAt : Int
  covered : value ≤ goneAt

structure RedisStore where
  entry : String -> Option RedisEntry

namespace RedisStore

def empty : RedisStore := ⟨fun _ => none⟩

def value (store : RedisStore) (key : String) : Option Int :=
  (store.entry key).map RedisEntry.value

/-- `GET`: a key whose time has elapsed is not there any more. -/
def get (store : RedisStore) (now : Int) (key : String) : Option Int :=
  ((store.entry key).filter fun entry => decide (now < entry.goneAt)).map RedisEntry.value

/-- `SET key value PX ttl`, with the time to live in milliseconds. -/
def setPx (store : RedisStore) (now : Int) (key : String) (value ttl : Int)
    (covered : value ≤ now + ttl * 1000) : RedisStore :=
  ⟨fun other => if other = key then some ⟨value, now + ttl * 1000, covered⟩ else store.entry other⟩

end RedisStore

structure RedisBackend where
  keyPrefix : String
  rate : GcraRate

namespace RedisBackend

/-- `math.ceil(micros / 1000)`. -/
def ceilMillis (micros : Int) : Int := -(-micros / 1000)

theorem le_ceilMillis (micros : Int) : micros ≤ ceilMillis micros * 1000 := by
  unfold ceilMillis
  omega

/-- The time to live is long enough for the number to pass. -/
theorem covered_ttl (rate : GcraRate) (newTat now : Int) :
    newTat ≤ now + max 1000 (ceilMillis (newTat - now + rate.toleranceUs)) * 1000 := by
  have enough := le_ceilMillis (newTat - now + rate.toleranceUs)
  have nonnegative := rate.nonnegative
  omega

/-- The script `REDIS_GCRA_SCRIPT` on exact numbers. -/
def script (rate : GcraRate) (now : Int) (key : String) (store : RedisStore) :
    (Int × Int) × RedisStore :=
  let tat := (store.get now key).getD now
  let allowAt := tat - rate.toleranceUs
  if now < allowAt then ((0, ceilMillis (allowAt - now)), store)
  else
    let newTat := max tat now + rate.intervalUs
    let ttl := max 1000 (ceilMillis (newTat - now + rate.toleranceUs))
    ((1, 0), store.setPx now key newTat ttl (covered_ttl rate newTat now))

def check (backend : RedisBackend) (now : Int) (key : String) (store : RedisStore) :
    RateLimitDecision × RedisStore :=
  let result := script backend.rate now (backend.keyPrefix ++ key) store
  if result.1.1 = 1 then (.allow, result.2)
  else (.rejected ((max result.1.2 1).toNat * 1000), result.2)

end RedisBackend

/-!
## Specifications

What a backend decides depends on the arrival time of the key alone, and only
as far as it lies ahead.  Neither the cleanup nor the vanishing of a key shows.
-/

namespace GcraRate

/-- An accepted rate has the burst it was made with, and is not too slow. -/
theorem new_spec {requestsPerSecond burstSize : UInt32} {rate : GcraRate}
    (accepted : new requestsPerSecond burstSize = .ok rate) :
    rate.HasBurst burstSize.toNat ∧ rate.intervalUs ≤ 1000000 ∧
      rate.toleranceUs ≤ 1000000 * 2 ^ 32 := by
  unfold new at accepted
  split at accepted
  · cases accepted
  · rename_i nonzero
    rcases not_or.mp nonzero with ⟨-, burst⟩
    dsimp only at accepted
    split at accepted
    · cases accepted
    · split at accepted
      · cases accepted
      · cases accepted
        have least : 1 ≤ burstSize.toNat := by
          rcases Nat.eq_zero_or_pos burstSize.toNat with zero | positive
          · exact absurd (UInt32.toNat_inj.mp zero) burst
          · exact positive
        have less : (burstSize - 1).toNat = burstSize.toNat - 1 :=
          UInt32.toNat_sub_of_le _ _ (UInt32.le_iff_toNat_le.mpr least)
        have slow : (1000000 / requestsPerSecond).toNat ≤ 1000000 := by
          rw [UInt32.toNat_div]
          exact Nat.div_le_self _ _
        have small : burstSize.toNat < 2 ^ 32 := burstSize.toNat_lt
        refine ⟨⟨by omega, ?_⟩, by simp only; omega, ?_⟩
        · simp only [less]
          push_cast [Nat.cast_sub least]
          ring
        · simp only [less]
          have bound : (1000000 / requestsPerSecond).toNat * (burstSize.toNat - 1) ≤
              1000000 * 2 ^ 32 := Nat.mul_le_mul slow (by omega)
          exact_mod_cast bound

/-- The interval is the second divided by the rate, without the remainder. -/
theorem new_interval {requestsPerSecond burstSize : UInt32} {rate : GcraRate}
    (accepted : new requestsPerSecond burstSize = .ok rate) :
    rate.intervalUs = (1000000 / requestsPerSecond.toNat : Nat) := by
  unfold new at accepted
  split at accepted
  · cases accepted
  · dsimp only at accepted
    split at accepted
    · cases accepted
    · split at accepted
      · cases accepted
      · cases accepted
        simp only [UInt32.toNat_div]
        rfl

/-- A rate is accepted exactly when it leaves an interval.  No burst is too large. -/
theorem accepted_iff {requestsPerSecond burstSize : UInt32} (some : requestsPerSecond ≠ 0)
    (burst : burstSize ≠ 0) :
    (Exists fun rate => new requestsPerSecond burstSize = .ok rate) ↔
      requestsPerSecond.toNat ≤ 1000000 := by
  have divided : (1000000 / requestsPerSecond).toNat = 1000000 / requestsPerSecond.toNat :=
    UInt32.toNat_div _ _
  have least : 0 < requestsPerSecond.toNat :=
    Nat.pos_of_ne_zero fun zero => some (UInt32.toNat_inj.mp zero)
  have small : 1000000 / requestsPerSecond.toNat * (burstSize - 1).toNat ≤ 1000000 * 2 ^ 32 :=
    Nat.mul_le_mul (Nat.div_le_self _ _) (le_of_lt (UInt32.toNat_lt _))
  unfold new
  rw [if_neg (not_or.mpr ⟨some, burst⟩)]
  dsimp only
  constructor
  · rintro ⟨rate, accepted⟩
    split at accepted
    · cases accepted
    · rename_i zero
      rw [divided] at zero
      by_contra fast
      exact zero (Nat.div_eq_of_lt (by omega))
  · intro slow
    have interval : ¬ (1000000 / requestsPerSecond).toNat = 0 := by
      rw [divided]
      exact Nat.ne_of_gt (Nat.div_pos slow least)
    have room : ¬ i64Max <
        (((1000000 / requestsPerSecond).toNat * (burstSize - 1).toNat : Nat) : Int) := by
      rw [divided]
      unfold i64Max
      omega
    rw [dif_neg interval, if_neg room]
    exact ⟨_, rfl⟩

end GcraRate

theorem GcraTable.tatUs_upsert (table : GcraTable) (key other : String) (row : GcraRow) :
    (table.upsert key row).tatUs other =
      if other = key then some row.tatUs else table.tatUs other := by
  unfold tatUs upsert
  dsimp only
  split <;> rfl

namespace SqliteBackend

variable {rate : GcraRate} {cleanup : Bool} {now : Int} {key other : String} {table : GcraTable}

/-- The arrival time up to which the key has to wait, less the tolerance. -/
def waitsUntil (rate : GcraRate) (now : Int) (key : String) (table : GcraTable) : Int :=
  effective now (table.tatUs key) - rate.toleranceUs

/-- Deleting a row whose expiry has passed does not show. -/
theorem effective_deleteExpired :
    effective now ((table.deleteExpired now).tatUs key) = effective now (table.tatUs key) := by
  unfold GcraTable.tatUs GcraTable.deleteExpired
  dsimp only
  cases table.row key with
  | none => rfl
  | some row =>
      have covered := row.covered
      by_cases alive : now < row.expiresAtUs
      · simp [Option.filter, alive]
      · simp only [Option.filter, alive, decide_false, Bool.false_eq_true, if_false,
          Option.map_none, effective_none, Option.map_some]
        exact (effective_stale (by omega)).symm

theorem effective_cleaned (cleanup : Bool) :
    effective now ((if cleanup then table.deleteExpired now else table).tatUs key) =
      effective now (table.tatUs key) := by
  cases cleanup
  · rfl
  · exact effective_deleteExpired

theorem representable_tatUs {tat : Int} (found : table.tatUs key = some tat) : tat ≤ i64Max := by
  rcases Option.map_eq_some_iff.mp found with ⟨row, -, rfl⟩
  exact row.representable

/-- Saturation does not change whether a request has to wait, nor how long. -/
theorem lt_allowAt (present : 0 ≤ now) :
    now < saturatingSub ((table.tatUs key).getD now) rate.toleranceUs ↔
      now < waitsUntil rate now key table := by
  have nonnegative := rate.nonnegative
  unfold waitsUntil effective saturatingSub i64Min i64Max
  cases found : table.tatUs key with
  | none =>
      simp only [Option.getD_none]
      omega
  | some tat =>
      have bound : tat ≤ i64Max := representable_tatUs found
      simp only [i64Max] at bound
      simp only [Option.getD_some]
      omega

theorem allowAt_eq (present : 0 ≤ now) (waits : now < waitsUntil rate now key table) :
    saturatingSub ((table.tatUs key).getD now) rate.toleranceUs =
      waitsUntil rate now key table := by
  have nonnegative := rate.nonnegative
  unfold waitsUntil effective at waits ⊢
  unfold saturatingSub i64Min i64Max
  cases found : table.tatUs key with
  | none =>
      rw [found] at waits
      simp only [Option.getD_none] at waits ⊢
      omega
  | some tat =>
      have bound : tat ≤ i64Max := representable_tatUs found
      rw [found] at waits
      simp only [i64Max] at bound
      simp only [Option.getD_some] at waits ⊢
      omega

/-- A transaction rejects the request as long as its key has to wait. -/
theorem transact_rejected (present : 0 ≤ now) (waits : now < waitsUntil rate now key table) :
    transact rate cleanup now key table =
      (.rejected (waitsUntil rate now key table - now).toNat,
        if cleanup then table.deleteExpired now else table) := by
  have same : waitsUntil rate now key (if cleanup then table.deleteExpired now else table) =
      waitsUntil rate now key table := by
    unfold waitsUntil
    rw [effective_cleaned]
  have waits' := waits
  rw [← same] at waits'
  unfold transact
  dsimp only
  rw [if_pos ((lt_allowAt present).mpr waits'), allowAt_eq present waits', same]

/-- Otherwise it admits the request and moves the arrival time. -/
theorem transact_allowed (present : 0 ≤ now) (due : waitsUntil rate now key table ≤ now) :
    (transact rate cleanup now key table).1 = .allow ∧
      (transact rate cleanup now key table).2.tatUs key =
        some (saturatingAdd (effective now (table.tatUs key)) rate.intervalUs) := by
  have same : waitsUntil rate now key (if cleanup then table.deleteExpired now else table) =
      waitsUntil rate now key table := by
    unfold waitsUntil
    rw [effective_cleaned]
  have refused : ¬ now < saturatingSub
      (((if cleanup then table.deleteExpired now else table).tatUs key).getD now)
      rate.toleranceUs := by
    rw [lt_allowAt present, same]
    omega
  unfold transact
  dsimp only
  rw [if_neg refused]
  refine ⟨rfl, ?_⟩
  rw [GcraTable.tatUs_upsert, if_pos rfl, ← effective_cleaned cleanup]
  rfl

/-- The other keys cannot tell that the transaction took place. -/
theorem transact_other (different : other ≠ key) :
    effective now ((transact rate cleanup now key table).2.tatUs other) =
      effective now (table.tatUs other) := by
  apply Eq.trans _ (effective_cleaned cleanup)
  unfold transact
  dsimp only
  by_cases waits : now < saturatingSub
      (((if cleanup then table.deleteExpired now else table).tatUs key).getD now) rate.toleranceUs
  · rw [if_pos waits]
  · rw [if_neg waits, GcraTable.tatUs_upsert, if_neg different]

section Agreement

variable {left right : SqliteBackend} {first second : GcraTable}

/-- Backends of one rate answer alike on tables that agree about the key. -/
theorem check_answer (present : 0 ≤ now) (rates : left.rate = right.rate)
    (same : effective now (first.tatUs key) = effective now (second.tatUs key)) :
    (left.check now key first).1 = (right.check now key second).1 := by
  have waits : waitsUntil left.rate now key first = waitsUntil right.rate now key second := by
    unfold waitsUntil
    rw [same, rates]
  change (transact left.rate _ now key first).1 = (transact right.rate _ now key second).1
  by_cases early : now < waitsUntil left.rate now key first
  · rw [transact_rejected present early, transact_rejected present (waits ▸ early), waits]
  · rw [(transact_allowed present (by omega)).1, (transact_allowed present (by omega)).1]

/-- The tables then still agree about the key. -/
theorem check_same (present : 0 ≤ now) (rates : left.rate = right.rate)
    (same : effective now (first.tatUs key) = effective now (second.tatUs key)) :
    effective now ((left.check now key first).2.2.tatUs key) =
      effective now ((right.check now key second).2.2.tatUs key) := by
  have waits : waitsUntil left.rate now key first = waitsUntil right.rate now key second := by
    unfold waitsUntil
    rw [same, rates]
  change effective now ((transact left.rate _ now key first).2.tatUs key) =
    effective now ((transact right.rate _ now key second).2.tatUs key)
  by_cases early : now < waitsUntil left.rate now key first
  · rw [transact_rejected present early, transact_rejected present (waits ▸ early)]
    exact (effective_cleaned _).trans (same.trans (effective_cleaned _).symm)
  · rw [(transact_allowed present (by omega)).2, (transact_allowed present (by omega)).2, same,
      rates]

end Agreement

end SqliteBackend

namespace RedisBackend

variable {backend : RedisBackend} {now : Int} {key : String} {store : RedisStore}

/-- A key that has vanished held a number that had passed. -/
theorem effective_get :
    effective now (store.get now key) = effective now (store.value key) := by
  unfold RedisStore.get RedisStore.value
  cases store.entry key with
  | none => rfl
  | some entry =>
      have covered := entry.covered
      by_cases alive : now < entry.goneAt
      · simp [Option.filter, alive]
      · simp only [Option.filter, alive, decide_false, Bool.false_eq_true, if_false,
          Option.map_none, effective_none, Option.map_some]
        exact (effective_stale (by omega)).symm

theorem lt_allowAt (rate : GcraRate) :
    now < (store.get now key).getD now - rate.toleranceUs ↔
      now < effective now (store.value key) - rate.toleranceUs := by
  have nonnegative := rate.nonnegative
  rw [← effective_get]
  unfold effective
  omega

/-- The backend rejects a request as long as its key has to wait, and names the
waiting time in whole milliseconds. -/
theorem check_rejected
    (waits : now < effective now (store.value (backend.keyPrefix ++ key)) -
      backend.rate.toleranceUs) :
    check backend now key store = (.rejected ((ceilMillis
      (effective now (store.value (backend.keyPrefix ++ key)) - backend.rate.toleranceUs -
        now)).toNat * 1000), store) := by
  have early := (lt_allowAt backend.rate).mpr waits
  have same : (store.get now (backend.keyPrefix ++ key)).getD now =
      effective now (store.value (backend.keyPrefix ++ key)) := by
    have nonnegative := backend.rate.nonnegative
    rw [← effective_get]
    unfold effective
    omega
  unfold check script
  dsimp only
  rw [if_pos early, same]
  have least := le_ceilMillis (effective now (store.value (backend.keyPrefix ++ key)) -
    backend.rate.toleranceUs - now)
  have nonzero : ¬ (0 : Int) = 1 := by decide
  dsimp only
  rw [if_neg nonzero, max_eq_left (by omega)]

theorem check_allowed
    (due : effective now (store.value (backend.keyPrefix ++ key)) - backend.rate.toleranceUs ≤ now) :
    (check backend now key store).1 = .allow ∧
      (check backend now key store).2.value (backend.keyPrefix ++ key) =
        some (effective now (store.value (backend.keyPrefix ++ key)) + backend.rate.intervalUs) := by
  have late : ¬ now < (store.get now (backend.keyPrefix ++ key)).getD now -
      backend.rate.toleranceUs := by
    rw [lt_allowAt]
    omega
  unfold check script
  dsimp only
  rw [if_neg late, if_pos rfl, ← effective_get]
  refine ⟨rfl, ?_⟩
  simp only [RedisStore.value, RedisStore.setPx, if_true, Option.map_some]
  rfl

end RedisBackend

end KrakenUi
