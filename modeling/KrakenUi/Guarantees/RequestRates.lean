import KrakenUi.Guarantees.RateLimits
import KrakenUi.Metering.Rates
import KrakenUi.Services.RateLimitConfig

namespace KrakenUi

open Metering RateLimit

/-!
# Requests per second

The limiter spaces requests by a whole number of microseconds.  The number is
the second divided by the rate, and what the division leaves over makes the
spacing too short: a rate that does not divide the second is exceeded as soon
as the first spaced request.

A stored arrival time stops at the end of the `i64` range.  That does not show
before the clock is within the tolerance of the end, and then nothing is
limited any more.
-/

namespace Tally

section Capped

variable {rate : GcraRate} {burst last : Int} {tally : Tally} {call : Check}

/-- The stored arrival times are the ones that the admitted times determine, cut
off at the end of the range. -/
def Capped (rate : GcraRate) (last : Int) (tally : Tally) : Prop :=
  forall key, effective last (tally.table.tatUs key) =
    min i64Max (effective last (arrival rate.intervalUs (tally.admitted key)))

theorem capped_blank (representable : last ≤ i64Max) : blank.Capped rate last := by
  intro key
  change effective last none = min i64Max (effective last none)
  rw [effective_none, min_eq_right representable]

theorem Capped.aged {now : Int} (capped : tally.Capped rate last) (later : last ≤ now)
    (representable : now ≤ i64Max) : tally.Capped rate now := by
  intro key
  rw [effective_later later, effective_later later, capped key, max_min_distrib_right,
    max_eq_left representable]

/-- One more call keeps the arrival times. -/
theorem Capped.check (capped : tally.Capped rate call.now) :
    (tally.check rate call).Capped rate call.now := by
  have present := call.representable.1
  intro key
  by_cases admitted : key = call.key ∧ (tally.decision rate call).allowed = true
  · rcases admitted with ⟨rfl, allowed⟩
    have due := allowed_iff.mp allowed
    have moved := (@SqliteBackend.transact_allowed rate call.cleanup _ _ _ present due).2
    have positive := rate.positive
    have ahead : call.now ≤ effective call.now (tally.table.tatUs call.key) := le_effective
    have ideal : call.now ≤ effective call.now
      (arrival rate.intervalUs (tally.admitted call.key)) := le_effective
    have agree := capped call.key
    have fits := call.representable.2
    rw [admitted_allowed allowed, arrival_cons, effective_some]
    change effective call.now
      ((SqliteBackend.transact rate call.cleanup call.now call.key tally.table).2.tatUs
        call.key) = _
    rw [moved, effective_some]
    unfold saturatingAdd i64Min
    simp only [i64Max] at agree fits ⊢
    omega
  · have otherwise : key = call.key -> (tally.decision rate call).allowed = false :=
      fun same => Bool.eq_false_iff.mpr fun allowed => admitted ⟨same, allowed⟩
    rw [arrived_otherwise present otherwise, admitted_otherwise otherwise]
    exact capped key

/-- What is admitted conforms, as long as the end of the range is further away
than the tolerance. -/
theorem Capped.conforms (capped : tally.Capped rate call.now) (bursts : rate.HasBurst burst)
    (room : call.now + rate.toleranceUs < i64Max)
    (allowed : (tally.decision rate call).allowed = true) :
    Conforms rate.intervalUs burst (tally.admitted call.key) call.now := by
  rw [conforms_iff rate.positive, ← bursts.2]
  intro arrived found
  have agree := capped call.key
  rw [found, effective_some] at agree
  have due := allowed_iff.mp allowed
  unfold SqliteBackend.waitsUntil at due
  rw [agree] at due
  omega

/-- No call takes an admitted time away or makes one up. -/
theorem admitted_of_check {key : String} {time : Int}
    (member : time ∈ (tally.check rate call).admitted key) :
    time = call.now ∨ time ∈ tally.admitted key := by
  unfold check at member
  dsimp only at member
  split at member
  · exact List.mem_cons.mp member
  · exact Or.inr member

theorem admitted_run (calls : List Check) {key : String} {time : Int}
    (member : time ∈ (run rate calls).admitted key) :
    Exists fun call => call ∈ calls ∧ call.now = time := by
  induction calls using List.reverseRecOn with
  | nil => exact absurd member List.not_mem_nil
  | append_singleton calls call inductionHypothesis =>
      rw [run_append] at member
      rcases admitted_of_check member with rfl | earlier
      · exact ⟨call, List.mem_append_right _ (List.mem_singleton.mpr rfl), rfl⟩
      · rcases inductionHypothesis earlier with ⟨found, before, time_eq⟩
        exact ⟨found, List.mem_append_left _ before, time_eq⟩

theorem capped_run (calls : List Check) {now : Int}
    (ordered : calls.Pairwise fun first second => first.now ≤ second.now)
    (before : forall call, call ∈ calls -> call.now ≤ now) (representable : now ≤ i64Max) :
    (run rate calls).Capped rate now := by
  induction calls using List.reverseRecOn generalizing now with
  | nil => exact capped_blank representable
  | append_singleton calls call inductionHypothesis =>
      rcases List.pairwise_append.mp ordered with ⟨older, -, newest⟩
      rw [run_append]
      have sofar : (run rate calls).Capped rate call.now := inductionHypothesis older
        (fun earlier member => newest earlier member call (List.mem_singleton.mpr rfl))
        call.representable.2
      exact Capped.aged sofar.check
        (before call (List.mem_append_right _ (List.mem_singleton.mpr rfl))) representable

theorem paced_run (bursts : rate.HasBurst burst) (calls : List Check)
    (ordered : calls.Pairwise fun first second => first.now ≤ second.now)
    (room : forall call, call ∈ calls -> call.now + rate.toleranceUs < i64Max) (key : String) :
    Paced rate.intervalUs burst ((run rate calls).admitted key) := by
  induction calls using List.reverseRecOn with
  | nil => exact True.intro
  | append_singleton calls call inductionHypothesis =>
      rcases List.pairwise_append.mp ordered with ⟨older, -, newest⟩
      have sofar := inductionHypothesis older fun earlier member =>
        room earlier (List.mem_append_left _ member)
      have capped : (run rate calls).Capped rate call.now := capped_run calls older
        (fun earlier member => newest earlier member call (List.mem_singleton.mpr rfl))
        call.representable.2
      rw [run_append]
      by_cases admitted : key = call.key ∧ ((run rate calls).decision rate call).allowed = true
      · rcases admitted with ⟨rfl, allowed⟩
        rw [admitted_allowed allowed]
        exact ⟨capped.conforms bursts
          (room call (List.mem_append_right _ (List.mem_singleton.mpr rfl))) allowed, sofar⟩
      · rw [admitted_otherwise fun same => Bool.eq_false_iff.mpr fun allowed =>
          admitted ⟨same, allowed⟩]
        exact sofar

end Capped

/-! ## Runs that make the most of the limiter -/

section Bursts

variable {rate : GcraRate} {call : Check}

/-- Calls at one time move the arrival time by one interval each, until they
have to wait. -/
theorem burst_run (calls : Nat)
    (early : forall earlier : Nat, earlier < calls ->
      min i64Max (call.now + earlier * rate.intervalUs) ≤ call.now + rate.toleranceUs) :
    (run rate (List.replicate calls call)).admitted call.key = List.replicate calls call.now ∧
      effective call.now ((run rate (List.replicate calls call)).table.tatUs call.key) =
        min i64Max (call.now + calls * rate.intervalUs) := by
  have representable := call.representable
  induction calls with
  | zero =>
      refine ⟨rfl, ?_⟩
      change effective call.now none = _
      rw [effective_none]
      simp [representable.2]
  | succ calls inductionHypothesis =>
      rcases inductionHypothesis fun earlier less => early earlier (Nat.lt_succ_of_lt less) with
          ⟨admitted, arrived⟩
      have due : SqliteBackend.waitsUntil rate call.now call.key
          (run rate (List.replicate calls call)).table ≤ call.now := by
        unfold SqliteBackend.waitsUntil
        rw [arrived]
        have bound := early calls (Nat.lt_succ_self calls)
        omega
      have moved := (@SqliteBackend.transact_allowed rate call.cleanup _ _ _ representable.1 due).2
      rw [List.replicate_succ', run_append]
      constructor
      · rw [admitted_allowed (allowed_iff.mpr due), admitted, ← List.replicate_succ]
      · change effective call.now ((SqliteBackend.transact rate call.cleanup call.now call.key
          (run rate (List.replicate calls call)).table).2.tatUs call.key) = _
        rw [moved, arrived, effective_some]
        have positive := rate.positive
        have nonnegative : 0 ≤ calls * rate.intervalUs :=
          mul_nonneg (Int.natCast_nonneg calls) (le_of_lt positive)
        have next : ((calls + 1 : Nat) : Int) * rate.intervalUs =
            calls * rate.intervalUs + rate.intervalUs := by
          push_cast
          ring
        rw [next]
        unfold saturatingAdd i64Min
        simp only [i64Max] at representable ⊢
        omega

/-- A burst and one more request after the spacing are all admitted. -/
theorem burst_then_one {burst : Nat} {next : Check} (bursts : rate.HasBurst burst)
    (same : next.key = call.key) (spaced : next.now = call.now + rate.intervalUs) :
    (run rate (List.replicate burst call ++ [next])).admitted call.key =
      next.now :: List.replicate burst call.now := by
  have positive := rate.positive
  have early : forall earlier : Nat, earlier < burst ->
      min i64Max (call.now + earlier * rate.intervalUs) ≤ call.now + rate.toleranceUs := by
    intro earlier less
    have fewer : (earlier : Int) * rate.intervalUs ≤ (burst - 1) * rate.intervalUs :=
      mul_le_mul_of_nonneg_right (by omega) (le_of_lt positive)
    rw [bursts.2]
    omega
  rcases burst_run burst early with ⟨admitted, arrived⟩
  have due : SqliteBackend.waitsUntil rate next.now next.key
      (run rate (List.replicate burst call)).table ≤ next.now := by
    have whole : (burst : Int) * rate.intervalUs =
        (burst - 1) * rate.intervalUs + rate.intervalUs := by ring
    unfold SqliteBackend.waitsUntil
    rw [same, effective_later (show call.now ≤ next.now by omega), arrived, bursts.2, whole]
    have nonnegative : 0 ≤ ((burst : Int) - 1) * rate.intervalUs :=
      mul_nonneg (by have := bursts.1; omega) (le_of_lt positive)
    omega
  rw [run_append, ← same, admitted_allowed (allowed_iff.mpr due), same, admitted]

end Bursts
end Tally

/-- In every run between these two times, and over every interval of time, the
key has at most the burst and the configured number of requests a second. -/
def KeepsRate (settings : LoadedSettings) (rate : GcraRate) (first last : Int) : Prop :=
  forall calls : List Check,
    (calls.Pairwise fun earlier later => earlier.now ≤ later.now) ->
    (forall call, call ∈ calls -> first ≤ call.now ∧ call.now ≤ last) ->
    forall (key : String) (start length : ℝ), 0 ≤ length ->
      (within start length ((Tally.run rate calls).admitted key) : ℝ) ≤
        settings.burstSize.toNat + settings.requestsPerSecond.toNat * length / 1000000

section Settings

variable {settings : LoadedSettings} {rate : GcraRate} {first last : Int}

/-- Within the tolerance of the end of the range everything is admitted. -/
theorem KeepsRate.below_end (kept : KeepsRate settings rate first last) (present : 0 ≤ first)
    (started : first ≤ last) (representable : last ≤ i64Max) :
    last + rate.toleranceUs < i64Max := by
  by_contra late
  have positive := rate.positive
  let call : Check := ⟨"", last, false, by omega, representable⟩
  have early : forall earlier : Nat, earlier < settings.burstSize.toNat + 1 ->
      min i64Max (call.now + earlier * rate.intervalUs) ≤ call.now + rate.toleranceUs := by
    intro earlier _
    change min i64Max (last + _) ≤ last + _
    omega
  have admitted := (Tally.burst_run (settings.burstSize.toNat + 1) early).1
  have bound := kept (List.replicate (settings.burstSize.toNat + 1) call)
    (List.pairwise_replicate.mpr (Or.inr (le_refl _)))
    (fun other member => by rw [List.eq_of_mem_replicate member]; exact ⟨started, le_refl _⟩)
    call.key last 0 (le_refl _)
  rw [admitted, within_eq_length, List.length_replicate] at bound
  · push_cast at bound
    linarith
  · intro time member
    rw [List.eq_of_mem_replicate member]
    exact ⟨le_refl _, by rw [add_zero]⟩

/-- The request after the burst comes too early by what the division left over. -/
theorem KeepsRate.divides (kept : KeepsRate settings rate first last)
    (accepted : settings.rate = .ok rate) (present : 0 ≤ first) (representable : last ≤ i64Max)
    (lasts : rate.intervalUs ≤ last - first) : settings.requestsPerSecond.toNat ∣ 1000000 := by
  rcases GcraRate.new_spec accepted with ⟨bursts, -, -⟩
  have interval : (rate.intervalUs : ℝ) =
      ((1000000 / settings.requestsPerSecond.toNat : Nat) : ℝ) := by
    rw [GcraRate.new_interval accepted, Int.cast_natCast]
  have positive := rate.positive
  let call : Check := ⟨"", first, false, present, by omega⟩
  let next : Check := ⟨"", first + rate.intervalUs, false, by omega, by omega⟩
  have admitted := @Tally.burst_then_one rate call _ next bursts rfl rfl
  have bound := kept (List.replicate settings.burstSize.toNat call ++ [next])
    (by
      apply List.pairwise_append.mpr
      refine ⟨List.pairwise_replicate.mpr (Or.inr (le_refl _)), List.pairwise_singleton _ _, ?_⟩
      intro earlier member later final
      rw [List.eq_of_mem_replicate member, List.mem_singleton.mp final]
      change first ≤ first + rate.intervalUs
      omega)
    (by
      intro other member
      rcases List.mem_append.mp member with burst | final
      · rw [List.eq_of_mem_replicate burst]
        change first ≤ first ∧ first ≤ last
        omega
      · rw [List.mem_singleton.mp final]
        change first ≤ first + rate.intervalUs ∧ first + rate.intervalUs ≤ last
        omega)
    call.key first rate.intervalUs (by exact_mod_cast le_of_lt positive)
  rw [admitted, within_eq_length, List.length_cons, List.length_replicate] at bound
  · have enough : (1000000 : ℝ) ≤
        ((settings.requestsPerSecond.toNat * (1000000 / settings.requestsPerSecond.toNat) : Nat) :
          ℝ) := by
      rw [interval] at bound
      rw [Nat.cast_mul]
      rw [Nat.cast_add, Nat.cast_one] at bound
      linarith
    have whole := Nat.mul_div_le 1000000 settings.requestsPerSecond.toNat
    exact Dvd.intro _ (le_antisymm whole (by exact_mod_cast enough))
  · intro time member
    rcases List.mem_cons.mp member with rfl | burst
    · constructor
      · change (first : ℝ) ≤ ((first + rate.intervalUs : Int) : ℝ)
        exact_mod_cast (by omega : first ≤ first + rate.intervalUs)
      · change ((first + rate.intervalUs : Int) : ℝ) ≤ _
        push_cast
        exact le_refl _
    · rw [List.eq_of_mem_replicate burst]
      change (first : ℝ) ≤ first ∧ (first : ℝ) ≤ first + rate.intervalUs
      exact ⟨le_refl _, by exact_mod_cast (by omega : first ≤ first + rate.intervalUs)⟩

/-- With room before the end of the range, a rate that divides the second is
kept, and any rate is kept for less than one interval. -/
theorem keepsRate_of_divides (accepted : settings.rate = .ok rate) (started : first ≤ last)
    (room : last + rate.toleranceUs < i64Max)
    (fits : settings.requestsPerSecond.toNat ∣ 1000000 ∨ last - first < rate.intervalUs) :
    KeepsRate settings rate first last := by
  rcases GcraRate.new_spec accepted with ⟨bursts, -, -⟩
  intro calls ordered inside key start length lasts
  have paced := Tally.paced_run bursts calls ordered
    (fun call member => by have := inside call member; omega) key
  have sorted := (@Tally.sound_run rate _ bursts calls last ordered
    fun call member => (inside call member).2).ordered key
  rcases fits with divides | short
  · have counted := @Paced.within_le start length _ _ _ rate.positive bursts.1 paced sorted lasts
    have spacing : length / (rate.intervalUs : ℝ) =
        settings.requestsPerSecond.toNat * length / 1000000 := by
      have whole : (settings.requestsPerSecond.toNat : ℝ) * rate.intervalUs = 1000000 := by
        rw [GcraRate.new_interval accepted, Int.cast_natCast, ← Nat.cast_mul,
          Nat.mul_div_cancel' divides, Nat.cast_ofNat]
      have nonzero : (rate.intervalUs : ℝ) ≠ 0 := by exact_mod_cast ne_of_gt rate.positive
      rw [div_eq_div_iff nonzero (by norm_num), ← whole]
      ring
    rw [spacing] at counted
    exact_mod_cast counted
  · have counted := paced.length_le rate.positive bursts.1 sorted
      (fun time member => by
        rcases Tally.admitted_run calls member with ⟨call, called, rfl⟩
        exact inside call called) started short
    have fewer : (within start length ((Tally.run rate calls).admitted key) : ℝ) ≤
        settings.burstSize.toNat := by
      exact_mod_cast le_trans (Int.ofNat_le.mpr within_le_length) counted
    have nonnegative : 0 ≤ settings.requestsPerSecond.toNat * length / 1000000 := by positivity
    linarith

end Settings

/-- The configured rate is kept between two times exactly if the clock stays
further away from the end of the range than the tolerance, and the rate divides
the second or not even one interval passes. -/
theorem rate_kept_iff (settings : LoadedSettings) {rate : GcraRate}
    (accepted : settings.rate = .ok rate) {first last : Int} (present : 0 ≤ first)
    (started : first ≤ last) (representable : last ≤ i64Max) :
    KeepsRate settings rate first last ↔
      last + rate.toleranceUs < i64Max ∧
        (settings.requestsPerSecond.toNat ∣ 1000000 ∨ last - first < rate.intervalUs) := by
  constructor
  · intro kept
    refine ⟨kept.below_end present started representable, ?_⟩
    by_cases short : last - first < rate.intervalUs
    · exact Or.inr short
    · exact Or.inl (kept.divides accepted present representable (by omega))
  · rintro ⟨room, fits⟩
    exact keepsRate_of_divides accepted started room fits

namespace Sample

/-- The default settings at another rate and burst. -/
def settingsAt (requestsPerSecond burstSize : UInt32) : RateLimitSettings where
  enabled := true
  requestsPerSecond := requestsPerSecond
  burstSize := burstSize
  maxCoroutinesPerIp := 32
  tlsHandshakeTimeoutSecs := 10
  connectionTimeoutSecs := 30
  maxTrackedIps := 10000
  backend := .sqlite
  sqlite := ⟨"db/kraken-ui-ratelimit.sqlite", 2000, 1024⟩
  redis := ⟨"127.0.0.1", true, "kraken-ui:ratelimit:", 3, 2⟩

/-- Seven requests in ten microseconds, two at once. -/
def hasty : LoadedSettings := ⟨settingsAt 700000 2, by decide⟩

/-- One request every microsecond, two at once. -/
def microsecond : GcraRate := ⟨1, 1, Int.one_pos, Int.one_nonneg⟩

theorem rate_kept_iff_hasty : hasty.rate = .ok microsecond ∧
    ¬ KeepsRate hasty microsecond 1700000000000000 1700000000000010 := by
  have accepted : hasty.rate = .ok microsecond := by decide
  refine ⟨accepted, ?_⟩
  rw [rate_kept_iff hasty accepted (by decide) (by decide) (by decide)]
  decide

/-- A request every microsecond, for ten microseconds. -/
def flood : List Check :=
  [ask 1700000000000000 false (by decide), ask 1700000000000001 false (by decide),
    ask 1700000000000002 false (by decide), ask 1700000000000003 false (by decide),
    ask 1700000000000004 false (by decide), ask 1700000000000005 false (by decide),
    ask 1700000000000006 false (by decide), ask 1700000000000007 false (by decide),
    ask 1700000000000008 false (by decide), ask 1700000000000009 false (by decide),
    ask 1700000000000010 false (by decide)]

set_option maxRecDepth 10000 in
/-- All of them are admitted, where nine would be the burst and the rate. -/
theorem rate_exceeded :
    ¬ forall (settings : LoadedSettings) (rate : GcraRate), settings.rate = .ok rate ->
      forall calls : List Check,
        (calls.Pairwise fun earlier later => earlier.now ≤ later.now) ->
        forall (key : String) (start length : ℝ), 0 ≤ length ->
          (within start length ((Tally.run rate calls).admitted key) : ℝ) ≤
            settings.burstSize.toNat + settings.requestsPerSecond.toNat * length / 1000000 := by
  intro claimed
  have bound := claimed hasty microsecond (by decide) flood (by decide) "192.0.2.1"
    ((1700000000000000 : Int) : ℝ) 10 (by norm_num)
  have admitted : (Tally.run microsecond flood).admitted "192.0.2.1" =
      (flood.map Check.now).reverse := by decide
  have inside : forall time, time ∈ (flood.map Check.now).reverse ->
      1700000000000000 ≤ time ∧ time ≤ 1700000000000000 + 10 := by decide
  have nine : (hasty.burstSize.toNat : ℝ) + hasty.requestsPerSecond.toNat * 10 / 1000000 = 9 := by
    have burst : hasty.burstSize.toNat = 2 := rfl
    have second : hasty.requestsPerSecond.toNat = 700000 := rfl
    rw [burst, second]
    norm_num
  rw [admitted, nine, within_eq_length] at bound
  · have counted : (flood.map Check.now).reverse.length = 11 := rfl
    rw [counted] at bound
    norm_num at bound
  · intro time member
    rcases inside time member with ⟨started, ended⟩
    exact ⟨by exact_mod_cast started, by exact_mod_cast ended⟩

end Sample
end KrakenUi
