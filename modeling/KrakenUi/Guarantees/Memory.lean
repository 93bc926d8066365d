import KrakenUi.Guarantees.Concurrency
import KrakenUi.Guarantees.DistributedGuessing
import KrakenUi.Guarantees.Lockouts
import Mathlib.Data.List.Infix
import Mathlib.Data.List.Perm.Subperm

namespace KrakenUi

/-!
# What the limiters remember

Whoever can make the console count something per key chooses the keys.  Each map
therefore has to forget.  The login throttle and the account monitor forget at
each failure, so that every entry goes back to a recent failure of its key.  The
map of semaphores forgets once in a while, so that it is never much larger than
the number of requests in progress has been.
-/

/-- Distinct keys are no more than the things that account for them. -/
theorem length_le_of_accounted {Key Thing : Type} {keys : List Key} {things : List Thing}
    {key : Thing -> Key} (distinct : keys.Nodup)
    (accounted : forall asked, asked ∈ keys -> Exists fun thing =>
      thing ∈ things ∧ key thing = asked) : keys.length ≤ things.length := by
  have among : keys ⊆ things.map key := by
    intro asked member
    rcases accounted asked member with ⟨thing, found, same⟩
    exact List.mem_map.mpr ⟨thing, found, same⟩
  have bound := (List.subperm_of_subset distinct among).length_le
  rwa [List.length_map] at bound

/-! ## The login throttle -/

namespace ThrottleEvent

/-- The key of a call. -/
def key (event : ThrottleEvent) : String :=
  match event.call with
  | .recordFailure key | .lockedFor key | .recordSuccess key => key

def isFailure (event : ThrottleEvent) : Bool :=
  match event.call with
  | .recordFailure _ => true
  | _ => false

/-- A failure of the last hour, or of the last lockout. -/
def isRecent (throttle : LoginThrottle) (now : Int) (event : ThrottleEvent) : Bool :=
  event.isFailure && (decide (now - event.now ≤ 3600 * LoginThrottle.nanosPerSecond) ||
    decide (now - event.now < throttle.lockout))

end ThrottleEvent

namespace FailureLog

open LoginThrottle

/-- The times in an entry are those of failures of its key. -/
structure Goes (throttle : LoginThrottle) (events : List ThrottleEvent) (key : String)
    (attempt : Attempt) : Prop where
  started : (⟨attempt.windowStarted, .recordFailure key⟩ : ThrottleEvent) ∈ events
  locked : forall deadline, attempt.lockedUntil = some deadline ->
    (⟨deadline - throttle.lockout, .recordFailure key⟩ : ThrottleEvent) ∈ events

def Traced (throttle : LoginThrottle) (events : List ThrottleEvent) (entries : Attempts) : Prop :=
  forall key attempt, entries key = some attempt -> Goes throttle events key attempt

section Steps

variable {throttle : LoginThrottle} {events later : List ThrottleEvent} {entries : Attempts}
  {key other : String} {now : Int} {attempt : Attempt}

theorem Goes.mono (goes : Goes throttle events key attempt) (more : events ⊆ later) :
    Goes throttle later key attempt where
  started := more goes.started
  locked := fun deadline locked => more (goes.locked deadline locked)

theorem goes_fresh (fails : (⟨now, .recordFailure key⟩ : ThrottleEvent) ∈ events) :
    Goes throttle events key ⟨0, now, none⟩ where
  started := fails
  locked := fun deadline locked => by cases locked

/-- Counting keeps the beginning of the window, and a lockout begins now. -/
theorem goes_counted (fails : (⟨now, .recordFailure key⟩ : ThrottleEvent) ∈ events)
    (goes : Goes throttle events key attempt) :
    Goes throttle events key (throttle.counted now attempt).2 := by
  unfold counted
  dsimp only
  split
  · refine ⟨goes.started, ?_⟩
    intro deadline locked
    cases locked
    rw [Int.add_sub_cancel]
    exact fails
  · exact ⟨goes.started, goes.locked⟩

theorem goes_windowed (fails : (⟨now, .recordFailure key⟩ : ThrottleEvent) ∈ events)
    (goes : Goes throttle events key attempt) :
    Goes throttle events key (throttle.windowed now attempt) := by
  unfold windowed
  split
  · exact ⟨fails, goes.locked⟩
  · exact goes

theorem goes_unlocked (fails : (⟨now, .recordFailure key⟩ : ThrottleEvent) ∈ events)
    (goes : Goes throttle events key attempt) :
    Goes throttle events key (unlocked now attempt) := by
  unfold unlocked
  split
  · exact goes_fresh fails
  · exact goes

theorem goes_failed (fails : (⟨now, .recordFailure key⟩ : ThrottleEvent) ∈ events)
    (goes : Goes throttle events key attempt) :
    Goes throttle events key (throttle.failed now attempt).2 := by
  have afresh := goes_counted fails (goes_windowed fails (goes_unlocked fails goes))
  unfold failed
  split
  · split
    · exact goes
    · exact afresh
  · exact afresh

/-- What is dropped leaves the rest as it was. -/
theorem Traced.fewer (traced : Traced throttle events entries) {after : Attempts}
    (fewer : forall key attempt, after key = some attempt -> entries key = some attempt) :
    Traced throttle events after :=
  fun key attempt found => traced key attempt (fewer key attempt found)

theorem setAttempt_fewer {asked : String}
    (found : setAttempt entries key none asked = some attempt) : entries asked = some attempt := by
  by_cases same : asked = key
  · subst same
    rw [setAttempt_same] at found
    cases found
  · rwa [setAttempt_other same] at found

theorem lockedFor_fewer {asked : String}
    (found : (lockedFor now key entries).2 asked = some attempt) :
    entries asked = some attempt := by
  unfold lockedFor at found
  split at found
  · exact found
  · split at found
    · split at found
      · exact found
      · exact setAttempt_fewer found
    · exact found

theorem prune_some (found : prune now entries key = some attempt) :
    entries key = some attempt ∧ worthKeeping now attempt = true := by
  unfold prune at found
  exact Option.filter_eq_some_iff.mp found

/-- After a failure the entries are those worth keeping and the one of its key. -/
theorem recordFailure_cases (found : (throttle.recordFailure now key entries).2 other =
    some attempt) :
    (other ≠ key ∧ entries other = some attempt ∧ worthKeeping now attempt = true) ∨
      (other = key ∧ attempt =
        (throttle.failed now ((prune now entries key).getD ⟨0, now, none⟩)).2) := by
  unfold recordFailure at found
  dsimp only at found
  by_cases same : other = key
  · subst same
    rw [setAttempt_same] at found
    exact Or.inr ⟨rfl, (Option.some.inj found).symm⟩
  · rw [setAttempt_other same] at found
    exact Or.inl ⟨same, prune_some found⟩

theorem Traced.recordFailure (traced : Traced throttle events entries)
    (more : events ⊆ later) (fails : (⟨now, .recordFailure key⟩ : ThrottleEvent) ∈ later) :
    Traced throttle later (throttle.recordFailure now key entries).2 := by
  intro other attempt found
  rcases recordFailure_cases found with ⟨-, old, -⟩ | ⟨rfl, rfl⟩
  · exact (traced other attempt old).mono more
  · apply goes_failed fails
    cases kept : prune now entries other with
    | none => exact goes_fresh fails
    | some before => exact (traced other before (prune_some kept).1).mono more

/-- Every call keeps the entries traced. -/
theorem Traced.step {log : FailureLog} (traced : Traced throttle events log.entries)
    (event : ThrottleEvent) :
    Traced throttle (events ++ [event]) (log.step throttle event).entries := by
  have more : events ⊆ events ++ [event] := List.subset_append_left _ _
  have sofar : Traced throttle (events ++ [event]) log.entries :=
    fun key attempt found => (traced key attempt found).mono more
  rcases event with ⟨now, call⟩
  cases call with
  | recordFailure key =>
      exact traced.recordFailure more (List.mem_append_right _ List.mem_cons_self)
  | lockedFor key => exact sofar.fewer fun _ _ found => lockedFor_fewer found
  | recordSuccess key => exact sofar.fewer fun _ _ found => setAttempt_fewer found

theorem traced_run (throttle : LoginThrottle) (events : List ThrottleEvent) :
    Traced throttle events (run throttle events).entries := by
  induction events using List.reverseRecOn with
  | nil =>
      intro key attempt found
      cases found
  | append_singleton events event inductionHypothesis =>
      rw [run_append]
      exact inductionHypothesis.step event

/-- An entry that is worth keeping goes back to a recent failure. -/
theorem Goes.recent (goes : Goes throttle events key attempt)
    (kept : worthKeeping now attempt = true) : Exists fun event => event ∈ events ∧
      event.isRecent throttle now = true ∧ event.key = key := by
  unfold worthKeeping at kept
  cases locked : attempt.lockedUntil with
  | some deadline =>
      rw [locked] at kept
      have early := of_decide_eq_true kept
      refine ⟨_, goes.locked deadline locked, ?_, rfl⟩
      have within : now - (deadline - throttle.lockout) < throttle.lockout := by omega
      unfold ThrottleEvent.isRecent
      dsimp only
      rw [decide_eq_true within, Bool.or_true]
      rfl
  | none =>
      rw [locked] at kept
      dsimp only at kept
      refine ⟨_, goes.started, ?_, rfl⟩
      unfold ThrottleEvent.isRecent
      dsimp only
      rw [kept, Bool.true_or]
      rfl

/-- The failure itself is recent. -/
theorem isRecent_now : ThrottleEvent.isRecent throttle now ⟨now, .recordFailure key⟩ = true := by
  have within : now - now ≤ 3600 * nanosPerSecond := by
    unfold nanosPerSecond
    omega
  unfold ThrottleEvent.isRecent
  dsimp only
  rw [decide_eq_true within, Bool.true_or]
  rfl

/-- Only failures make entries. -/
theorem entries_quiet {log : FailureLog} (quiet : forall event, event ∈ later ->
    event.isFailure = false) (found : (later.foldl (step throttle) log).entries other =
      some attempt) : log.entries other = some attempt := by
  induction later generalizing log with
  | nil => exact found
  | cons event later inductionHypothesis =>
      have before := inductionHypothesis
        (fun event member => quiet event (List.mem_cons_of_mem _ member)) found
      have calm := quiet event List.mem_cons_self
      rcases event with ⟨now, call⟩
      cases call with
      | recordFailure key => cases calm
      | lockedFor key => exact lockedFor_fewer before
      | recordSuccess key => exact setAttempt_fewer before

end Steps

/-- From one failure to the next, the throttle holds at most as many entries as
there were failures in the hour, or the length of a lockout, before the first. -/
theorem throttle_forgets (throttle : LoginThrottle) (before after : List ThrottleEvent)
    (now : Int) (key : String) (quiet : forall event, event ∈ after -> event.isFailure = false)
    (keys : List String) (distinct : keys.Nodup)
    (present : forall asked, asked ∈ keys ->
      (run throttle (before ++ ⟨now, .recordFailure key⟩ :: after)).entries asked ≠ none) :
    keys.length ≤ ((before ++ [(⟨now, .recordFailure key⟩ : ThrottleEvent)]).filter
      (ThrottleEvent.isRecent throttle now)).length := by
  apply @length_le_of_accounted _ _ _ _ ThrottleEvent.key distinct
  intro asked member
  rcases Option.ne_none_iff_exists'.mp (present asked member) with ⟨attempt, found⟩
  have parted : run throttle (before ++ ⟨now, .recordFailure key⟩ :: after) =
      after.foldl (step throttle) ((run throttle before).step throttle
        ⟨now, .recordFailure key⟩) := by
    unfold run
    rw [List.foldl_append]
    rfl
  rw [parted] at found
  rcases recordFailure_cases (entries_quiet quiet found) with ⟨-, old, kept⟩ | ⟨rfl, -⟩
  · rcases (traced_run throttle before asked attempt old).recent kept with
        ⟨event, among, recent, same⟩
    exact ⟨event, List.mem_filter.mpr ⟨List.mem_append_left _ among, recent⟩, same⟩
  · exact ⟨_, List.mem_filter.mpr ⟨List.mem_append_right _ List.mem_cons_self, isRecent_now⟩, rfl⟩

end FailureLog

/-! ## The account monitor -/

namespace AccountFailureMonitor

section Steps

variable {monitor : AccountFailureMonitor} {entries : AccountEntries} {account other : String}
  {now : Int} {failures : AccountFailures}

theorem retain_some (found : monitor.retain now entries account = some failures) :
    entries account = some failures ∧ now - failures.windowStarted ≤ monitor.window := by
  unfold retain at found
  rcases Option.filter_eq_some_iff.mp found with ⟨stored, lasts⟩
  exact ⟨stored, of_decide_eq_true lasts⟩

theorem windowStarted_noted :
    (monitor.noted now failures).2.windowStarted = failures.windowStarted ∨
      (monitor.noted now failures).2.windowStarted = now := by
  unfold noted
  dsimp only
  by_cases elapsed : monitor.window < now - failures.windowStarted
  · rw [if_pos elapsed]
    right
    split <;> rfl
  · rw [if_neg elapsed]
    left
    split <;> rfl

/-- After a failure the entries are those whose window lasts and the one of its account. -/
theorem noteFailure_cases
    (found : (monitor.noteFailure now account entries).2 other = some failures) :
    (other ≠ account ∧ entries other = some failures ∧
        now - failures.windowStarted ≤ monitor.window) ∨
      (other = account ∧ failures =
        (monitor.noted now ((monitor.retain now entries account).getD ⟨0, now, false⟩)).2) := by
  unfold noteFailure setFailures at found
  dsimp only at found
  by_cases same : other = account
  · rw [if_pos same] at found
    exact Or.inr ⟨same, (Option.some.inj found).symm⟩
  · rw [if_neg same] at found
    exact Or.inl ⟨same, retain_some found⟩

/-- The window of an entry began with a failure of its account. -/
theorem began_run (monitor : AccountFailureMonitor) (notes : List FailureNote)
    {account : String} {failures : AccountFailures}
    (found : monitor.run notes account = some failures) :
    (⟨account, failures.windowStarted⟩ : FailureNote) ∈ notes := by
  induction notes using List.reverseRecOn generalizing account failures with
  | nil => cases found
  | append_singleton notes note inductionHypothesis =>
      rw [run_append] at found
      rcases noteFailure_cases found with ⟨-, old, -⟩ | ⟨rfl, rfl⟩
      · exact List.mem_append_left _ (inductionHypothesis old)
      · rcases @windowStarted_noted monitor note.now
          ((monitor.retain note.now (monitor.run notes) note.account).getD ⟨0, note.now, false⟩)
          with same | same
        · rw [same]
          cases kept : monitor.retain note.now (monitor.run notes) note.account with
          | none => exact List.mem_append_right _ List.mem_cons_self
          | some before =>
              exact List.mem_append_left _ (inductionHypothesis (retain_some kept).1)
        · rw [same]
          exact List.mem_append_right _ List.mem_cons_self

end Steps

/-- After each failure, the monitor holds at most as many accounts as there were
failures within one window before it. -/
theorem monitor_forgets (monitor : AccountFailureMonitor) (before : List FailureNote)
    (note : FailureNote) (accounts : List String) (distinct : accounts.Nodup)
    (present : forall asked, asked ∈ accounts -> monitor.run (before ++ [note]) asked ≠ none) :
    accounts.length ≤ ((before ++ [note]).filter fun earlier =>
      decide (note.now - earlier.now ≤ monitor.window)).length := by
  apply @length_le_of_accounted _ _ _ _ FailureNote.account distinct
  intro asked member
  rcases Option.ne_none_iff_exists'.mp (present asked member) with ⟨failures, found⟩
  rw [run_append] at found
  rcases noteFailure_cases found with ⟨-, old, lasts⟩ | ⟨rfl, -⟩
  · refine ⟨_, List.mem_filter.mpr ⟨List.mem_append_left _ (began_run monitor before old), ?_⟩, rfl⟩
    exact decide_eq_true lasts
  · refine ⟨note, List.mem_filter.mpr ⟨List.mem_append_right _ List.mem_cons_self, ?_⟩, rfl⟩
    have wide := monitor.wide
    rw [Int.sub_self]
    exact decide_eq_true wide

end AccountFailureMonitor

/-! ## The map of semaphores -/

namespace Middleware
namespace IpConcurrencyLimiter

open Net

/-- How large the map may be.  While a sweep is on its way, the entries that it
has kept are of addresses that had requests when it began. -/
structure Modest (bound : Nat) (limiter : IpConcurrencyLimiter) : Prop where
  calls : limiter.callsSinceSweep < sweepInterval
  size : limiter.semaphores.keys.length ≤ bound + sweepInterval
  idle : limiter.call = none ->
    limiter.semaphores.keys.length ≤ bound + limiter.callsSinceSweep + 1
  swept : forall ip rest, limiter.call = some (ip, rest) -> Exists fun busy : List IpAddr =>
    busy.length ≤ bound + limiter.callsSinceSweep ∧
      (forall kept, kept ∈ limiter.semaphores.keys -> kept ∈ rest ∨ kept ∈ busy) ∧
        (rest ≠ [] -> forall reference, reference ∈ limiter.held -> reference.ip ∈ busy)

section Steps

variable {maxPerIp bound : Nat} {limiter : IpConcurrencyLimiter}

theorem modest_new (bound : Nat) : Modest bound new where
  calls := by decide
  size := Nat.zero_le _
  idle := fun _ => Nat.zero_le _
  swept := by
    intro ip rest calling
    cases calling

theorem Modest.lock (modest : Modest bound limiter) (few : limiter.held.length ≤ bound)
    (ip : IpAddr) : Modest bound (limiter.lock ip) := by
  have calls := modest.calls
  unfold IpConcurrencyLimiter.lock
  split
  · exact modest
  · rename_i free
    have size := modest.idle free
    dsimp only
    split
    · -- The sweep begins with all entries, and with the requests of this moment.
      have none : 0 < sweepInterval := by decide
      refine ⟨none, modest.size, nofun, ?_⟩
      intro asked rest calling
      cases calling
      refine ⟨limiter.held.map Reference.ip, ?_, fun kept member => Or.inl member, ?_⟩
      · rw [List.length_map]
        exact few
      · intro _ reference member
        exact List.mem_map_of_mem member
    · rename_i early
      refine ⟨Nat.not_le.mp early, modest.size, nofun, ?_⟩
      intro asked rest calling
      cases calling
      refine ⟨limiter.semaphores.keys, ?_, fun kept member => Or.inr member, ?_⟩
      · exact size
      · intro impossible
        exact absurd rfl impossible

/-- The sweep keeps an entry only for a request that was there when it began. -/
theorem Modest.retain (modest : Modest bound limiter) (consistent : Consistent maxPerIp limiter) :
    Modest bound limiter.retain := by
  unfold IpConcurrencyLimiter.retain
  split
  · rename_i ip entry rest calling
    rcases modest.swept ip (entry :: rest) calling with ⟨busy, count, seen, requests⟩
    have here := requests (List.cons_ne_nil _ _)
    cases alive : limiter.upgrade entry with
    | some semaphore =>
        refine ⟨modest.calls, modest.size, nofun, ?_⟩
        intro asked left same
        cases same
        refine ⟨busy, count, ?_, fun _ => here⟩
        intro kept member
        rcases seen kept member with among | known
        · rcases List.mem_cons.mp among with rfl | later
          · right
            rcases upgrade_eq_some.mp alive with ⟨found, counted⟩
            rcases List.countP_pos_iff.mp counted with ⟨reference, held, same⟩
            have shared := consistent.shared reference held
            rw [of_decide_eq_true same] at shared
            rw [consistent.apart _ _ _ found shared]
            exact here reference held
          · exact Or.inl later
        · exact Or.inr known
    | none =>
        have smaller : (limiter.semaphores.erase entry).keys.length ≤
            limiter.semaphores.keys.length := by
          rw [AList.keys_erase]
          exact List.length_erase_le
        refine ⟨modest.calls, le_trans smaller modest.size, nofun, ?_⟩
        intro asked left same
        cases same
        refine ⟨busy, count, ?_, fun _ => here⟩
        intro kept member
        change kept ∈ (limiter.semaphores.erase entry).keys at member
        rw [AList.keys_erase] at member
        rcases (List.Nodup.mem_erase_iff limiter.semaphores.keys_nodup).mp member with ⟨other, old⟩
        rcases seen kept old with among | known
        · rcases List.mem_cons.mp among with same | later
          · exact absurd same other
          · exact Or.inl later
        · exact Or.inr known
  · exact modest

theorem Modest.get (modest : Modest bound limiter) : Modest bound (limiter.get maxPerIp) := by
  have calls := modest.calls
  unfold IpConcurrencyLimiter.get
  split
  · rename_i ip calling
    rcases modest.swept ip [] calling with ⟨busy, count, seen, -⟩
    have size : limiter.semaphores.keys.length ≤ bound + limiter.callsSinceSweep := by
      refine le_trans (List.subperm_of_subset limiter.semaphores.keys_nodup ?_).length_le count
      intro kept member
      rcases seen kept member with impossible | known
      · cases impossible
      · exact known
    split
    · refine ⟨calls, modest.size, ?_, nofun⟩
      intro _
      exact le_trans size (Nat.le_succ _)
    · have larger : (limiter.semaphores.insert ip limiter.created).keys.length ≤
          limiter.semaphores.keys.length + 1 := by
        rw [AList.keys_insert, List.length_cons]
        exact Nat.succ_le_succ List.length_erase_le
      refine ⟨calls, ?_, ?_, nofun⟩
      · change (limiter.semaphores.insert ip limiter.created).keys.length ≤ _
        omega
      · intro _
        change (limiter.semaphores.insert ip limiter.created).keys.length ≤
          bound + limiter.callsSinceSweep + 1
        omega
  · exact modest

/-- What requests do with their references does not concern the map. -/
theorem Modest.requests (modest : Modest bound limiter) {after : IpConcurrencyLimiter}
    (semaphores : after.semaphores = limiter.semaphores)
    (calls : after.callsSinceSweep = limiter.callsSinceSweep) (call : after.call = limiter.call)
    (addresses : forall reference, reference ∈ after.held -> Exists fun before =>
      before ∈ limiter.held ∧ before.ip = reference.ip) : Modest bound after where
  calls := by
    rw [calls]
    exact modest.calls
  size := by
    rw [semaphores]
    exact modest.size
  idle := by
    rw [semaphores, calls, call]
    exact modest.idle
  swept := by
    intro ip rest calling
    rw [call] at calling
    rcases modest.swept ip rest calling with ⟨busy, count, seen, requests⟩
    rw [semaphores, calls]
    refine ⟨busy, count, seen, ?_⟩
    intro unfinished reference member
    rcases addresses reference member with ⟨before, held, same⟩
    rw [← same]
    exact requests unfinished before held

/-- A reference that comes to another stage stays one of its address. -/
theorem addresses_set {held : List Reference} {index : Nat} {ip : IpAddr} {semaphore : Nat}
    {stage next : Stage} (found : held[index]? = some ⟨ip, semaphore, stage⟩)
    {reference : Reference} (member : reference ∈ held.set index ⟨ip, semaphore, next⟩) :
    Exists fun before => before ∈ held ∧ before.ip = reference.ip := by
  rcases List.mem_or_eq_of_mem_set member with old | rfl
  · exact ⟨reference, old, rfl⟩
  · exact ⟨_, List.mem_of_getElem? found, rfl⟩

theorem Modest.tryAcquireOwned (modest : Modest bound limiter) (index : Nat) :
    Modest bound (limiter.tryAcquireOwned index) := by
  unfold IpConcurrencyLimiter.tryAcquireOwned
  split
  · rename_i ip semaphore found
    split
    · exact modest.requests rfl rfl rfl fun _ member => addresses_set found member
    · exact modest.requests rfl rfl rfl fun _ member => addresses_set found member
  · exact modest

theorem Modest.addPermits (modest : Modest bound limiter) (index : Nat) :
    Modest bound (limiter.addPermits index) := by
  unfold IpConcurrencyLimiter.addPermits
  split
  · rename_i ip semaphore found
    exact modest.requests rfl rfl rfl fun _ member => addresses_set found member
  · exact modest

theorem Modest.drop (modest : Modest bound limiter) (index : Nat) :
    Modest bound (limiter.drop index) := by
  have gone : Modest bound { limiter with held := limiter.held.eraseIdx index } :=
    modest.requests rfl rfl rfl fun reference member =>
      ⟨reference, List.mem_of_mem_eraseIdx member, rfl⟩
  unfold IpConcurrencyLimiter.drop
  split
  · exact gone
  · exact gone
  · exact modest

theorem Modest.step (modest : Modest bound limiter) (consistent : Consistent maxPerIp limiter)
    (few : limiter.held.length ≤ bound) (event : Event) :
    Modest bound (limiter.step maxPerIp event) := by
  cases event with
  | lock ip => exact modest.lock few ip
  | retain => exact modest.retain consistent
  | get => exact modest.get
  | tryAcquireOwned index => exact modest.tryAcquireOwned index
  | addPermits index => exact modest.addPermits index
  | drop index => exact modest.drop index

theorem modest_run (maxPerIp : Nat) (events : List Event)
    (few : forall before, before <+: events -> (run maxPerIp before).held.length ≤ bound) :
    Modest bound (run maxPerIp events) := by
  induction events using List.reverseRecOn with
  | nil => exact modest_new bound
  | append_singleton events event inductionHypothesis =>
      have sofar := inductionHypothesis fun before isPrefix =>
        few before (isPrefix.trans (List.prefix_append _ _))
      have last := sofar.step (consistent_run maxPerIp events)
        (few events (List.prefix_append _ _)) event
      unfold run at last ⊢
      rwa [List.foldl_append]

end Steps

/-- However many addresses come, the map is at most so much larger than the
largest number of references that requests have held at one moment. -/
theorem semaphores_bounded (maxPerIp bound : Nat) (events : List Event)
    (few : forall before, before <+: events -> (run maxPerIp before).held.length ≤ bound) :
    (run maxPerIp events).semaphores.keys.length ≤ bound + sweepInterval :=
  (modest_run maxPerIp events few).size

end IpConcurrencyLimiter
end Middleware

namespace Sample

open Middleware

/-- Three keys fail within two hours, and the first one is forgotten. -/
def scattered : List ThrottleEvent :=
  [⟨0, .recordFailure "first"⟩, ⟨3000000000000, .recordFailure "second"⟩]

theorem throttle_forgets_scattered :
    (FailureLog.run LoginThrottle.withDefaults
        (scattered ++ [⟨6000000000000, .recordFailure "third"⟩])).entries "first" = none ∧
      [("second" : String), "third"].length ≤
        ((scattered ++ [(⟨6000000000000, .recordFailure "third"⟩ : ThrottleEvent)]).filter
          (ThrottleEvent.isRecent LoginThrottle.withDefaults 6000000000000)).length := by
  refine ⟨by decide, ?_⟩
  exact FailureLog.throttle_forgets LoginThrottle.withDefaults scattered [] 6000000000000 "third"
    (fun _ member => absurd member List.not_mem_nil) ["second", "third"] (by decide) (by decide)

set_option maxRecDepth 10000 in
theorem monitor_forgets_attack :
    watchful.run (attack ++ [⟨"operator", 1200000000000⟩]) "auditor" = none ∧
      [("admin" : String), "operator"].length ≤
        ((attack ++ [(⟨"operator", 1200000000000⟩ : FailureNote)]).filter fun earlier =>
          decide (1200000000000 - earlier.now ≤ watchful.window)).length := by
  refine ⟨by decide, ?_⟩
  exact watchful.monitor_forgets attack ⟨"operator", 1200000000000⟩ ["admin", "operator"]
    (by decide) (by decide)

set_option maxRecDepth 10000 in
/-- The requests of the sample hold at most three references. -/
theorem semaphores_bounded_clients :
    (IpConcurrencyLimiter.run 1 clients).semaphores.keys = [client 2, client 1] ∧
      (IpConcurrencyLimiter.run 1 clients).semaphores.keys.length ≤ 3 + sweepInterval := by
  refine ⟨by decide, IpConcurrencyLimiter.semaphores_bounded 1 3 clients ?_⟩
  intro before isPrefix
  have all : forall held, held ∈ clients.inits ->
      (IpConcurrencyLimiter.run 1 held).held.length ≤ 3 := by decide
  exact all before ((List.mem_inits before clients).mpr isPrefix)

end Sample
end KrakenUi
