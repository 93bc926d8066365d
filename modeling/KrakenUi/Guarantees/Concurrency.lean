import KrakenUi.Middleware.IpConcurrency

namespace KrakenUi
namespace Middleware

open Net

/-!
# The ceiling is exact

As long as a request of an address refers to a semaphore, the entry of the
address leads to it: the sweep keeps the entry and a call returns it.  So all
requests of an address share one semaphore, and what is not available in it has
been given to them.
-/

section Lists

variable {α : Type} {list : List α} {index : Nat} {element : α}

/-- A list around one of its places. -/
theorem exists_around (found : list[index]? = some element) :
    Exists fun before => Exists fun after => list = before ++ element :: after ∧
      before.length = index ∧ (forall other, list.set index other = before ++ other :: after) ∧
        list.eraseIdx index = before ++ after := by
  rcases List.getElem?_eq_some_iff.mp found with ⟨inside, rfl⟩
  refine ⟨list.take index, list.drop (index + 1), ?_, ?_, ?_, ?_⟩
  · rw [List.getElem_cons_drop, List.take_append_drop]
  · rw [List.length_take]
    omega
  · intro other
    rw [List.set_eq_take_append_cons_drop, if_pos inside]
  · exact List.eraseIdx_eq_take_drop_succ list index

end Lists

namespace IpConcurrencyLimiter

/-- What holds at every moment. -/
structure Consistent (maxPerIp : Nat) (limiter : IpConcurrencyLimiter) : Prop where
  shared : forall reference, reference ∈ limiter.held ->
    limiter.semaphores.lookup reference.ip = some reference.semaphore
  apart : forall ip other semaphore, limiter.semaphores.lookup ip = some semaphore ->
    limiter.semaphores.lookup other = some semaphore -> ip = other
  made : forall ip semaphore, limiter.semaphores.lookup ip = some semaphore ->
    semaphore < limiter.created
  balanced : forall semaphore, semaphore < limiter.created ->
    limiter.available semaphore + limiter.permits semaphore = maxPerIp

variable {maxPerIp : Nat} {limiter : IpConcurrencyLimiter}

theorem consistent_new (maxPerIp : Nat) : Consistent maxPerIp new where
  shared := fun _ member => absurd member List.not_mem_nil
  apart := by
    intro ip other semaphore found
    cases found
  made := by
    intro ip semaphore found
    cases found
  balanced := fun _ impossible => absurd impossible (Nat.not_lt_zero _)

theorem upgrade_eq_some {ip : IpAddr} {semaphore : Nat} :
    limiter.upgrade ip = some semaphore ↔
      limiter.semaphores.lookup ip = some semaphore ∧ 0 < limiter.strongCount semaphore := by
  unfold upgrade
  rw [Option.filter_eq_some_iff, decide_eq_true_iff]

/-- The entry of an address leads to the semaphore of its requests. -/
theorem Consistent.upgrade (consistent : Consistent maxPerIp limiter) {reference : Reference}
    (member : reference ∈ limiter.held) :
    limiter.upgrade reference.ip = some reference.semaphore := by
  apply upgrade_eq_some.mpr
  refine ⟨consistent.shared reference member, ?_⟩
  apply List.countP_pos_iff.mpr
  exact ⟨reference, member, decide_eq_true rfl⟩

theorem Consistent.lock (consistent : Consistent maxPerIp limiter) (ip : IpAddr) :
    Consistent maxPerIp (limiter.lock ip) := by
  unfold IpConcurrencyLimiter.lock
  split
  · exact consistent
  · dsimp only
    split
    · exact ⟨consistent.shared, consistent.apart, consistent.made, consistent.balanced⟩
    · exact ⟨consistent.shared, consistent.apart, consistent.made, consistent.balanced⟩

/-- An entry without references is of no address that has requests. -/
theorem Consistent.erase (consistent : Consistent maxPerIp limiter) {entry : IpAddr}
    (dead : limiter.upgrade entry = none) :
    Consistent maxPerIp { limiter with semaphores := limiter.semaphores.erase entry } := by
  have kept : forall {ip semaphore}, (limiter.semaphores.erase entry).lookup ip = some semaphore ->
      limiter.semaphores.lookup ip = some semaphore := by
    intro ip semaphore found
    by_cases same : ip = entry
    · rw [same, AList.lookup_erase] at found
      cases found
    · rwa [AList.lookup_erase_ne same] at found
  constructor
  · intro reference member
    have other : reference.ip ≠ entry := by
      rintro rfl
      rw [consistent.upgrade member] at dead
      cases dead
    exact (AList.lookup_erase_ne other).trans (consistent.shared reference member)
  · intro ip other semaphore first second
    exact consistent.apart ip other semaphore (kept first) (kept second)
  · intro ip semaphore found
    exact consistent.made ip semaphore (kept found)
  · exact consistent.balanced

theorem Consistent.retain (consistent : Consistent maxPerIp limiter) :
    Consistent maxPerIp limiter.retain := by
  unfold IpConcurrencyLimiter.retain
  split
  · rename_i ip entry rest _
    cases alive : limiter.upgrade entry with
    | some semaphore =>
        exact ⟨consistent.shared, consistent.apart, consistent.made, consistent.balanced⟩
    | none =>
        have erased := consistent.erase alive
        exact ⟨erased.shared, erased.apart, erased.made, erased.balanced⟩
  · exact consistent

/-- A reference that is no permit leaves the permits as they are. -/
theorem permits_cons {reference : Reference} (idle : reference.stage ≠ .permit)
    {semaphore : Nat} {held : List Reference} :
    (reference :: held).countP (fun other => other.semaphore = semaphore ∧ other.stage = .permit) =
      held.countP fun other => other.semaphore = semaphore ∧ other.stage = .permit := by
  apply List.countP_cons_of_neg
  simp [idle]

/-- A semaphore that has yet to be made has no permits. -/
theorem Consistent.permits_created (consistent : Consistent maxPerIp limiter) :
    limiter.permits limiter.created = 0 := by
  apply List.countP_eq_zero.mpr
  intro reference member
  have earlier := consistent.made _ _ (consistent.shared reference member)
  simp only [decide_eq_true_eq]
  rintro ⟨same, -⟩
  omega

theorem Consistent.get (consistent : Consistent maxPerIp limiter) :
    Consistent maxPerIp (limiter.get maxPerIp) := by
  unfold IpConcurrencyLimiter.get
  split
  · rename_i ip _
    split
    · rename_i semaphore found
      refine ⟨?_, consistent.apart, consistent.made, ?_⟩
      · intro reference member
        rcases List.mem_cons.mp member with rfl | before
        · exact (upgrade_eq_some.mp found).1
        · exact consistent.shared reference before
      · intro asked below
        unfold permits
        rw [permits_cons]
        · exact consistent.balanced asked below
        · exact nofun
    · rename_i dead
      have found : forall {other semaphore},
          (limiter.semaphores.insert ip limiter.created).lookup other = some semaphore ->
          (other = ip ∧ semaphore = limiter.created) ∨
            (other ≠ ip ∧ limiter.semaphores.lookup other = some semaphore) := by
        intro other semaphore present
        by_cases same : other = ip
        · rw [same, AList.lookup_insert] at present
          exact Or.inl ⟨same, (Option.some.inj present).symm⟩
        · rw [AList.lookup_insert_ne same] at present
          exact Or.inr ⟨same, present⟩
      constructor
      · intro reference member
        rcases List.mem_cons.mp member with rfl | before
        · exact AList.lookup_insert _
        · have other : reference.ip ≠ ip := by
            rintro rfl
            rw [consistent.upgrade before] at dead
            cases dead
          exact (AList.lookup_insert_ne other).trans (consistent.shared reference before)
      · intro first second semaphore here there
        rcases found here with ⟨rfl, fresh⟩ | ⟨-, old⟩
        · rcases found there with ⟨rfl, -⟩ | ⟨-, older⟩
          · rfl
          · have earlier := consistent.made _ _ older
            omega
        · rcases found there with ⟨rfl, fresh⟩ | ⟨-, older⟩
          · have earlier := consistent.made _ _ old
            omega
          · exact consistent.apart first second semaphore old older
      · intro other semaphore present
        change semaphore < limiter.created + 1
        rcases found present with ⟨-, rfl⟩ | ⟨-, old⟩
        · exact Nat.lt_succ_self _
        · exact Nat.lt_succ_of_lt (consistent.made _ _ old)
      · intro asked below
        change asked < limiter.created + 1 at below
        unfold permits
        rw [permits_cons]
        · change Function.update limiter.available limiter.created maxPerIp asked +
            limiter.permits asked = maxPerIp
          by_cases fresh : asked = limiter.created
          · subst fresh
            rw [consistent.permits_created, Function.update_self]
            rfl
          · rw [Function.update_of_ne fresh]
            exact consistent.balanced asked (by omega)
        · exact nofun
  · exact consistent

/-- One reference of an address comes to another stage, and the semaphore has
given out as many permits more or less. -/
theorem Consistent.move (consistent : Consistent maxPerIp limiter) {index : Nat} {ip : IpAddr}
    {semaphore : Nat} {stage next : Stage} {count : Nat}
    (found : limiter.held[index]? = some ⟨ip, semaphore, stage⟩)
    (moved : count + (if next = .permit then 1 else 0) =
      limiter.available semaphore + (if stage = .permit then 1 else 0)) :
    Consistent maxPerIp { limiter with
      available := Function.update limiter.available semaphore count
      held := limiter.held.set index ⟨ip, semaphore, next⟩ } := by
  rcases exists_around found with ⟨before, after, whole, -, set, -⟩
  refine ⟨?_, consistent.apart, consistent.made, ?_⟩
  · intro reference member
    change reference ∈ limiter.held.set index _ at member
    have here := consistent.shared ⟨ip, semaphore, stage⟩ (List.mem_of_getElem? found)
    rcases List.mem_or_eq_of_mem_set member with old | rfl
    · exact consistent.shared reference old
    · exact here
  · intro asked below
    have sum := consistent.balanced asked below
    unfold permits at sum ⊢
    rw [whole] at sum
    change Function.update limiter.available semaphore count asked +
      (limiter.held.set index ⟨ip, semaphore, next⟩).countP _ = _
    rw [set]
    simp only [List.countP_append, List.countP_cons, decide_eq_true_eq] at sum ⊢
    by_cases same : semaphore = asked
    · subst same
      rw [Function.update_self]
      simp only [true_and] at sum ⊢
      omega
    · rw [Function.update_of_ne (Ne.symm same)]
      simp only [same, false_and, if_false] at sum ⊢
      omega

theorem Consistent.tryAcquireOwned (consistent : Consistent maxPerIp limiter) (index : Nat) :
    Consistent maxPerIp (limiter.tryAcquireOwned index) := by
  unfold IpConcurrencyLimiter.tryAcquireOwned
  split
  · rename_i ip semaphore found
    split
    · rename_i some'
      apply consistent.move found
      simp only [reduceCtorEq, if_true, if_false]
      omega
    · have moved := @Consistent.move _ _ consistent _ _ _ _ .closing
        (limiter.available semaphore) found rfl
      rwa [Function.update_eq_self] at moved
  · exact consistent

theorem Consistent.addPermits (consistent : Consistent maxPerIp limiter) (index : Nat) :
    Consistent maxPerIp (limiter.addPermits index) := by
  unfold IpConcurrencyLimiter.addPermits
  split
  · rename_i ip semaphore found
    exact consistent.move found rfl
  · exact consistent

/-- A reference that holds no permit can go. -/
theorem Consistent.leave (consistent : Consistent maxPerIp limiter) {index : Nat}
    {reference : Reference} (found : limiter.held[index]? = some reference)
    (idle : reference.stage ≠ .permit) :
    Consistent maxPerIp { limiter with held := limiter.held.eraseIdx index } := by
  rcases exists_around found with ⟨before, after, whole, -, -, erased⟩
  refine ⟨?_, consistent.apart, consistent.made, ?_⟩
  · intro other member
    exact consistent.shared other (List.mem_of_mem_eraseIdx member)
  · intro asked below
    have sum := consistent.balanced asked below
    unfold permits at sum ⊢
    change limiter.available asked + (limiter.held.eraseIdx index).countP _ = _
    rw [whole] at sum
    rw [erased]
    simp only [List.countP_append, List.countP_cons, idle, and_false, decide_false,
      Bool.false_eq_true, if_false] at sum ⊢
    omega

theorem Consistent.drop (consistent : Consistent maxPerIp limiter) (index : Nat) :
    Consistent maxPerIp (limiter.drop index) := by
  unfold IpConcurrencyLimiter.drop
  split
  · rename_i found
    exact consistent.leave found nofun
  · rename_i found
    exact consistent.leave found nofun
  · exact consistent

/-- What one step keeps. -/
theorem Consistent.step (consistent : Consistent maxPerIp limiter) (event : Event) :
    Consistent maxPerIp (limiter.step maxPerIp event) := by
  cases event with
  | lock ip => exact consistent.lock ip
  | retain => exact consistent.retain
  | get => exact consistent.get
  | tryAcquireOwned index => exact consistent.tryAcquireOwned index
  | addPermits index => exact consistent.addPermits index
  | drop index => exact consistent.drop index

theorem Consistent.foldl (consistent : Consistent maxPerIp limiter) (events : List Event) :
    Consistent maxPerIp (events.foldl (IpConcurrencyLimiter.step maxPerIp) limiter) := by
  induction events generalizing limiter with
  | nil => exact consistent
  | cons event events inductionHypothesis => exact inductionHypothesis (consistent.step event)

theorem consistent_run (maxPerIp : Nat) (events : List Event) :
    Consistent maxPerIp (run maxPerIp events) :=
  (consistent_new maxPerIp).foldl events

/-! ## The result -/

/-- All live permits of an address are permits of its one semaphore. -/
theorem Consistent.livePermits (consistent : Consistent maxPerIp limiter) {reference : Reference}
    (member : reference ∈ limiter.held) :
    limiter.livePermits reference.ip = limiter.permits reference.semaphore := by
  have here := consistent.shared reference member
  apply List.countP_congr
  intro other among
  have there := consistent.shared other among
  simp only [decide_eq_true_eq]
  constructor
  · rintro ⟨same, live⟩
    rw [same, here] at there
    exact ⟨(Option.some.inj there).symm, live⟩
  · rintro ⟨same, live⟩
    rw [same] at there
    exact ⟨consistent.apart _ _ _ there here, live⟩

theorem Consistent.available (consistent : Consistent maxPerIp limiter) {reference : Reference}
    (member : reference ∈ limiter.held) :
    limiter.available reference.semaphore + limiter.livePermits reference.ip = maxPerIp := by
  rw [consistent.livePermits member]
  exact consistent.balanced _ (consistent.made _ _ (consistent.shared reference member))

theorem Consistent.livePermits_le (consistent : Consistent maxPerIp limiter) (ip : IpAddr) :
    limiter.livePermits ip ≤ maxPerIp := by
  by_cases live : Exists fun reference => reference ∈ limiter.held ∧ reference.ip = ip
  · rcases live with ⟨reference, member, rfl⟩
    have sum := consistent.available member
    omega
  · have none : limiter.livePermits ip = 0 := by
      apply List.countP_eq_zero.mpr
      intro reference member
      simp only [decide_eq_true_eq]
      rintro ⟨same, -⟩
      exact live ⟨reference, member, same⟩
    omega

/-- In every run no address has more live permits than the ceiling, its requests
share one semaphore, and a permit is refused only at the ceiling. -/
theorem concurrency_ceiling_is_exact (maxPerIp : Nat) (events : List Event) :
    (forall ip, (run maxPerIp events).livePermits ip ≤ maxPerIp) ∧
    (forall first second, first ∈ (run maxPerIp events).held ->
      second ∈ (run maxPerIp events).held -> first.ip = second.ip ->
        first.semaphore = second.semaphore) ∧
    (forall index ip semaphore,
      (run maxPerIp events).held[index]? = some ⟨ip, semaphore, .handle⟩ ->
        (run maxPerIp (events ++ [.tryAcquireOwned index])).held[index]? =
          some ⟨ip, semaphore,
            if (run maxPerIp events).livePermits ip < maxPerIp then .permit else .closing⟩) := by
  have consistent := consistent_run maxPerIp events
  refine ⟨consistent.livePermits_le, ?_, ?_⟩
  · intro first second one two same
    have here := consistent.shared first one
    rw [same, consistent.shared second two] at here
    exact (Option.some.inj here).symm
  · intro index ip semaphore found
    have sum := consistent.available (List.mem_of_getElem? found)
    have inside := (List.getElem?_eq_some_iff.mp found).1
    dsimp only at sum
    have acquired : run maxPerIp (events ++ [.tryAcquireOwned index]) =
        (run maxPerIp events).tryAcquireOwned index := by
      unfold run
      rw [List.foldl_append]
      rfl
    rw [acquired, IpConcurrencyLimiter.tryAcquireOwned, found]
    dsimp only
    split
    · rw [if_pos (by omega)]
      exact List.getElem?_set_self inside
    · rw [if_neg (by omega)]
      exact List.getElem?_set_self inside

/-! ## One call without interference -/

/-- A sweep comes to its end. -/
theorem foldl_retain (entries : List IpAddr) {ip : IpAddr}
    (calling : limiter.call = some (ip, entries)) :
    (entries.foldl (fun limiter _ => limiter.retain) limiter).call = some (ip, []) ∧
      (entries.foldl (fun limiter _ => limiter.retain) limiter).held = limiter.held := by
  induction entries generalizing limiter with
  | nil => exact ⟨calling, rfl⟩
  | cons entry entries inductionHypothesis =>
      have next : limiter.retain.call = some (ip, entries) ∧ limiter.retain.held = limiter.held := by
        unfold IpConcurrencyLimiter.retain
        rw [calling]
        exact ⟨rfl, rfl⟩
      rw [List.foldl_cons, ← next.2]
      exact inductionHypothesis next.1

theorem foldl_retain_events (entries : List IpAddr) :
    entries.foldl (fun limiter _ => limiter.retain) limiter =
      (entries.map fun _ => Event.retain).foldl (IpConcurrencyLimiter.step maxPerIp) limiter := by
  rw [List.foldl_map]
  rfl

/-- A call of `semaphore` without interference is a run, at the end of which the
request has a reference. -/
theorem semaphore_spec (maxPerIp : Nat) (idle : limiter.call = none) (ip : IpAddr) :
    (Exists fun events => limiter.semaphore maxPerIp ip =
      List.foldl (IpConcurrencyLimiter.step maxPerIp) limiter events) ∧
    Exists fun semaphore =>
      (limiter.semaphore maxPerIp ip).held = ⟨ip, semaphore, .handle⟩ :: limiter.held := by
  have locked : Exists fun entries => (limiter.lock ip).call = some (ip, entries) ∧
      (limiter.lock ip).held = limiter.held := by
    unfold IpConcurrencyLimiter.lock
    rw [idle]
    dsimp only
    split
    · exact ⟨_, rfl, rfl⟩
    · exact ⟨_, rfl, rfl⟩
  rcases locked with ⟨entries, calling, unchanged⟩
  rcases foldl_retain entries calling with ⟨swept, kept⟩
  have whole : limiter.semaphore maxPerIp ip =
      (entries.foldl (fun limiter _ => limiter.retain) (limiter.lock ip)).get maxPerIp := by
    unfold IpConcurrencyLimiter.semaphore
    dsimp only
    rw [calling]
    rfl
  constructor
  · refine ⟨.lock ip :: ((entries.map fun _ => .retain) ++ [.get]), ?_⟩
    rw [whole, List.foldl_cons, List.foldl_append, foldl_retain_events]
    rfl
  · rw [whole, ← unchanged, ← kept, IpConcurrencyLimiter.get, swept]
    dsimp only
    split
    · exact ⟨_, rfl⟩
    · exact ⟨_, rfl⟩

end IpConcurrencyLimiter
end Middleware

namespace Sample

open Middleware IpConcurrencyLimiter Net

def client (last : UInt8) : IpAddr := .v4 ⟨#[192, 0, 2, last], rfl⟩

/-- Two requests of one address and one of another, with a ceiling of one permit. -/
def clients : List IpConcurrencyLimiter.Event :=
  [.lock (client 1), .get, .tryAcquireOwned 0, .lock (client 2), .get, .lock (client 1), .get]

set_option maxRecDepth 10000 in
theorem concurrency_ceiling_is_exact_clients :
    (IpConcurrencyLimiter.run 1 (clients ++ [.tryAcquireOwned 0])).held[0]? =
        some ⟨client 1, 0, .closing⟩ ∧
      (IpConcurrencyLimiter.run 1 (clients ++ [.tryAcquireOwned 1])).held[1]? =
        some ⟨client 2, 1, .permit⟩ := by
  have result := concurrency_ceiling_is_exact 1 clients
  have full : (IpConcurrencyLimiter.run 1 clients).livePermits (client 1) = 1 := by decide
  have free : (IpConcurrencyLimiter.run 1 clients).livePermits (client 2) = 0 := by decide
  have first := result.2.2 0 (client 1) 0 (by decide)
  have second := result.2.2 1 (client 2) 1 (by decide)
  rw [full] at first
  rw [free] at second
  exact ⟨first, second⟩

end Sample
end KrakenUi
