import KrakenUi.Guarantees.Isolation
import KrakenUi.Interaction.Serial
import KrakenUi.Protocol.Checks

namespace KrakenUi

open Interaction Net Idling CheckedHandler

/-!
# Guesses of a password or a code

Requests of one client about one operator are served one after another.  The
ledger holds the limiters and the calls so far.  From it one reads when a value
of a credential was checked and whether it was right.

Sign-in and code challenge ask the throttle first and record what was wrong.  A
step-up and a password change do neither, and the window of the throttle starts
anew instead of sliding.  The bound on guesses holds in the runs in which these
two defects do not show.
-/

namespace Guessing

inductive Credential where
  | password
  | code
  deriving DecidableEq

/-- One call of a handler with its reply. -/
structure Call where
  now : Reading
  seen : Observation checks

/-- Whose credential a call checks, and whether the value was right. -/
def verdict : Credential -> Observation checks -> Option (Int × Bool)
  | .password, ⟨.inner (.spawnVerify idUser _ _), .ok verification⟩ =>
      some (idUser, verification.valid)
  | .code, ⟨.verifyLoginCode idUser _, accepted⟩ => some (idUser, accepted)
  | _, _ => none

/-- The limiters, the time of the last call, and all calls, newest first. -/
structure Ledger where
  limiting : RateLimiting
  now : Reading
  calls : List Call

/-- What the environment contributes to a call. -/
structure Input where
  now : Reading
  environment : (command : CheckCommand) -> Option command.Reply

namespace Ledger

def perform (ledger : Ledger) (input : Input) :
    (command : CheckCommand) -> Option command.Reply × RateLimiting
  | .inner command =>
      let outcome := ledger.limiting.perform input.now
        (fun inner => input.environment (.inner inner)) command
      (outcome.2.2, outcome.2.1)
  | .verifyLoginCode idUser code =>
      (input.environment (.verifyLoginCode idUser code), ledger.limiting)

/-- The ledger after a call. -/
def enter (ledger : Ledger) (limiting : RateLimiting) (call : Call) : Ledger :=
  ⟨limiting, call.now, call :: ledger.calls⟩

/-- A call that meets the condition, or a call that fails. -/
def effect (allowed : Ledger -> Call -> Bool) : Effect checks Ledger :=
  fun ledger command reply after => Exists fun input : Input =>
    ledger.now ≤ input.now ∧ (ledger.perform input command).1 = reply ∧
      match reply with
      | none => after = ledger
      | some reply => allowed ledger ⟨input.now, ⟨command, reply⟩⟩ = true ∧
          after = ledger.enter (ledger.perform input command).2 ⟨input.now, ⟨command, reply⟩⟩

/-- The values of the credential that were checked: when, and whether right. -/
def evaluations (credential : Credential) (calls : List Call) : List (Int × Bool) :=
  calls.filterMap fun call => (verdict credential call.seen).map fun checked =>
    (call.now.instant, checked.2)

end Ledger

/-- When wrong values were checked since the last right one, newest first. -/
def wrongs (evaluations : List (Int × Bool)) : List Int :=
  (evaluations.takeWhile fun checked => !checked.2).map Prod.fst

def window : Int := LoginThrottle.withDefaults.window

def lockout : Int := LoginThrottle.withDefaults.lockout

/-- Five wrong values within one window. -/
structure Burst (burst : List (Int × Bool)) : Prop where
  five : burst.length = 5
  wrong : forall checked, checked ∈ burst -> checked.2 = false
  close : forall checked other, checked ∈ burst -> other ∈ burst -> checked.1 ≤ other.1 + window

/-- After five wrong values no value is checked until the lockout is over. -/
def Bounded (evaluations : List (Int × Bool)) : Prop :=
  forall later burst earlier, evaluations = later ++ burst ++ earlier -> Burst burst ->
    forall checked wrong, checked ∈ later -> wrong ∈ burst -> wrong.1 + lockout ≤ checked.1

/-- The key by which the throttle counts the credential. -/
def key (credential : Credential) (ip : IpAddr) (idUser : Int) : String :=
  match credential with
  | .password => Isolation.LoginKey.address.text ip
  | .code => (Isolation.LoginKey.code idUser).text ip

/-- The handler that asks the throttle before it checks the credential. -/
def throttled : Credential -> Route -> Bool
  | .password, .loginSubmit _ => true
  | .code, .mfaVerify _ => true
  | _, _ => false

/-- The counter of the key is locked at this time. -/
def lockedAt (ledger : Ledger) (key : String) (now : Int) : Bool :=
  match ledger.limiting.attempts key with
  | none => false
  | some attempt => attempt.lockedUntil.any fun deadline => decide (now < deadline)

/-- The counter of the key is open, and a failure now would start it anew. -/
def restarts (ledger : Ledger) (key : String) (now : Int) : Bool :=
  match ledger.limiting.attempts key with
  | none => false
  | some attempt =>
      attempt.lockedUntil.isNone && decide (window < now - attempt.windowStarted)

/-- The condition on a call.  Outside of the throttled handler a value is checked
only if it is right and the counter is not locked.  A failure starts the counter
anew only when every wrong value before the last call is older than the window. -/
def admits (credential : Credential) (ip : IpAddr) (idUser : Int) (request : Request)
    (ledger : Ledger) (call : Call) : Bool :=
  (match verdict credential call.seen with
    | none => true
    | some checked => throttled credential request.route ||
        (checked.2 && !lockedAt ledger (key credential ip idUser) call.now.instant)) &&
  (match call.seen.command with
    | .inner (.recordFailure other) =>
        !(decide (other = key credential ip idUser) &&
            restarts ledger (key credential ip idUser) call.now.instant) ||
          (wrongs (Ledger.evaluations credential ledger.calls.tail)).all fun wrong =>
            decide (wrong + window < ledger.now.instant)
    | _ => true)

/-- Every value of a credential that is checked is one of this operator. -/
def about (idUser : Int) (call : Call) : Bool :=
  (verdict .password call.seen).all (fun checked => decide (checked.1 = idUser)) &&
    (verdict .code call.seen).all fun checked => decide (checked.1 = idUser)

/-- Requests of one client about one operator, one after another, of which every
call meets the condition. -/
abbrev Runs (app : AppState) (ip : IpAddr) (idUser : Int)
    (allowed : Request -> Ledger -> Call -> Bool) : Ledger -> Ledger -> Prop :=
  Serves
    (fun request => Ledger.effect fun ledger call =>
      about idUser call && allowed request ledger call)
    (fun request program => request.visit.clientIp = ip.toString ∧ Answers app request program)

/-! ## The counter and the wrong values -/

/-- The wrong values that can still be part of a burst. -/
def recent (now : Int) (evaluations : List (Int × Bool)) : List Int :=
  (wrongs evaluations).filter fun wrong => decide (now ≤ wrong + window)

/-- The counter is not locked, not even by a lock that is over. -/
def Open (entry : Option Attempt) : Prop :=
  forall attempt, entry = some attempt -> attempt.lockedUntil = none

/-- The burst is paid for, by time that has passed or by the lock. -/
def Paid (entry : Option Attempt) (now : Int) (burst : List (Int × Bool)) : Prop :=
  (forall wrong, wrong ∈ burst -> wrong.1 + lockout ≤ now) ∨
    Exists fun attempt => Exists fun deadline => entry = some attempt ∧
      attempt.lockedUntil = some deadline ∧
      forall wrong, wrong ∈ burst -> wrong.1 + lockout ≤ deadline

/-- The counter has counted the wrong values, but for this many. -/
def Counted (entry : Option Attempt) (now : Int) (evaluations : List (Int × Bool))
    (missing : Nat) : Prop :=
  match entry with
  | none => (recent now evaluations).length ≤ missing
  | some attempt =>
      match attempt.lockedUntil with
      | some deadline => forall wrong, wrong ∈ wrongs evaluations -> wrong + lockout ≤ deadline
      | none => attempt.failures ≤ 4 ∧ (recent now evaluations).length ≤ attempt.failures + missing

/-- What holds between the calls that check or record. -/
structure Safe (entry : Option Attempt) (now : Int) (evaluations : List (Int × Bool)) : Prop where
  past : forall checked, checked ∈ evaluations -> checked.1 ≤ now
  bounded : Bounded evaluations
  counted : Counted entry now evaluations 0
  within : forall attempt, entry = some attempt -> attempt.lockedUntil = none ->
    forall wrong, wrong ∈ wrongs evaluations -> wrong ≤ attempt.windowStarted + window
  paid : forall burst, burst <:+: evaluations -> Burst burst -> Paid entry now burst

/-- What holds when the last wrong value may not be counted yet. -/
structure Owing (entry : Option Attempt) (now : Int) (evaluations : List (Int × Bool)) :
    Prop where
  past : forall checked, checked ∈ evaluations -> checked.1 ≤ now
  bounded : Bounded evaluations
  unlocked : Open entry
  counted : Counted entry now evaluations 1
  paid : forall burst, burst <:+: evaluations -> Burst burst ->
    (forall wrong, wrong ∈ burst -> wrong.1 + lockout ≤ now) ∨
      5 ≤ (recent now evaluations).length

section Counter

variable {entry : Option Attempt} {attempt : Attempt} {now later : Int}
  {evaluations burst : List (Int × Bool)} {missing : Nat}

theorem window_lt_lockout : window < lockout := by decide

theorem mem_wrongs {wrong : Int} (member : wrong ∈ wrongs evaluations) :
    Exists fun checked => checked ∈ evaluations ∧ checked.1 = wrong := by
  rcases List.mem_map.mp member with ⟨checked, among, rfl⟩
  exact ⟨checked, (List.takeWhile_sublist _).subset among, rfl⟩

theorem recent_aged (older : now ≤ later) :
    (recent later evaluations).length ≤ (recent now evaluations).length := by
  apply List.Sublist.length_le
  apply List.monotone_filter_right
  intro wrong near
  simp only [decide_eq_true_eq] at near ⊢
  omega

theorem recent_wrong : recent now ((now, false) :: evaluations) =
    now :: recent now evaluations := by
  have open' : now ≤ now + window := by
    have positive : 0 ≤ window := by decide
    omega
  simp [recent, wrongs, open']

theorem wrongs_right : wrongs ((now, true) :: evaluations) = [] := by
  simp [wrongs]

theorem recent_eq_nil (old : forall wrong, wrong ∈ wrongs evaluations -> wrong + window < now) :
    recent now evaluations = [] := by
  apply List.filter_eq_nil_iff.mpr
  intro wrong member
  have late := old wrong member
  simp only [decide_eq_true_eq]
  omega

/-- One more value is checked when all bursts are paid for by time. -/
theorem Bounded.cons {checked : Int × Bool} (bounded : Bounded evaluations)
    (paid : forall burst, burst <:+: evaluations -> Burst burst ->
      forall wrong, wrong ∈ burst -> wrong.1 + lockout ≤ checked.1) :
    Bounded (checked :: evaluations) := by
  intro newer burst older split five value wrong among inside
  cases newer with
  | nil => exact absurd among List.not_mem_nil
  | cons first newer =>
      rcases List.cons.inj split with ⟨rfl, rest⟩
      rcases List.mem_cons.mp among with rfl | before
      · exact paid burst ⟨newer, older, rest.symm⟩ five wrong inside
      · exact bounded newer burst older rest five value wrong before inside

/-- A burst that ends with the newest value is recent. -/
theorem Burst.recent (five : Burst burst) {checked : Int × Bool}
    (newest : burst <+: checked :: evaluations) :
    5 ≤ (recent checked.1 (checked :: evaluations)).length := by
  rcases newest with ⟨older, split⟩
  have head : checked ∈ burst := by
    cases burst with
    | nil => exact absurd five.five (by decide)
    | cons first rest =>
        rw [(List.cons.inj split).1]
        exact List.mem_cons_self
  have all : (burst.map Prod.fst).filter (fun wrong => decide (checked.1 ≤ wrong + window)) =
      burst.map Prod.fst := by
    apply List.filter_eq_self.mpr
    intro wrong member
    rcases List.mem_map.mp member with ⟨other, among, rfl⟩
    exact decide_eq_true (five.close checked other head among)
  have front : wrongs (burst ++ older) = burst.map Prod.fst ++ wrongs older := by
    unfold wrongs
    rw [List.takeWhile_append_of_pos, List.map_append]
    intro other among
    rw [five.wrong other among]
    rfl
  unfold Guessing.recent
  rw [← split, front, List.filter_append, all, List.length_append, List.length_map, five.five]
  exact Nat.le_add_right 5 _

theorem Paid.aged (paid : Paid entry now burst) (older : now ≤ later) :
    Paid entry later burst := by
  rcases paid with passed | locked
  · exact Or.inl fun wrong member => le_trans (passed wrong member) older
  · exact Or.inr locked

/-- A lock that is over has become time that has passed. -/
theorem Paid.lapsed (paid : Paid entry now burst) (older : now ≤ later)
    (lapsed : forall attempt deadline, entry = some attempt ->
      attempt.lockedUntil = some deadline -> deadline ≤ later) :
    forall wrong, wrong ∈ burst -> wrong.1 + lockout ≤ later := by
  intro wrong member
  rcases paid with passed | ⟨attempt, deadline, found, locked, passed⟩
  · exact le_trans (passed wrong member) older
  · exact le_trans (passed wrong member) (lapsed attempt deadline found locked)

theorem Counted.aged (counted : Counted entry now evaluations missing) (older : now ≤ later) :
    Counted entry later evaluations missing := by
  have fewer := @recent_aged now later evaluations older
  unfold Counted at counted ⊢
  cases entry with
  | none => exact le_trans fewer counted
  | some attempt =>
      cases locked : attempt.lockedUntil with
      | some deadline =>
          simp only [locked] at counted ⊢
          exact counted
      | none =>
          simp only [locked] at counted ⊢
          exact ⟨counted.1, le_trans fewer counted.2⟩

theorem Safe.initial (now : Int) : Safe none now [] where
  past := fun _ member => absurd member List.not_mem_nil
  bounded := by
    intro later burst earlier split five
    have length := five.five
    rw [(List.append_eq_nil_iff.mp (List.append_eq_nil_iff.mp split.symm).1).2] at length
    cases length
  counted := Nat.le_refl 0
  within := fun _ missing => by cases missing
  paid := by
    intro burst adjacent five
    have length := five.five
    rw [List.infix_nil.mp adjacent] at length
    cases length

theorem Safe.aged (safe : Safe entry now evaluations) (older : now ≤ later) :
    Safe entry later evaluations where
  past := fun checked member => le_trans (safe.past checked member) older
  bounded := safe.bounded
  counted := safe.counted.aged older
  within := safe.within
  paid := fun burst adjacent five => (safe.paid burst adjacent five).aged older

/-- Without its entry the counter is safe when no wrong value is recent any more. -/
theorem Safe.dropped (safe : Safe entry now evaluations) (older : now ≤ later)
    (old : forall wrong, wrong ∈ wrongs evaluations -> wrong + window < later)
    (lapsed : forall attempt deadline, entry = some attempt ->
      attempt.lockedUntil = some deadline -> deadline ≤ later) :
    Safe none later evaluations where
  past := fun checked member => le_trans (safe.past checked member) older
  bounded := safe.bounded
  counted := by
    change (recent later evaluations).length ≤ 0
    rw [recent_eq_nil old]
    exact Nat.le_refl 0
  within := fun _ missing => by cases missing
  paid := fun burst adjacent five => Or.inl ((safe.paid burst adjacent five).lapsed older lapsed)

/-- A lock that is over may be forgotten. -/
theorem Safe.unlocked {deadline : Int} (safe : Safe (some attempt) now evaluations)
    (older : now ≤ later) (locked : attempt.lockedUntil = some deadline)
    (lapsed : deadline ≤ later) : Safe none later evaluations := by
  apply safe.dropped older
  · intro wrong member
    have counted := safe.counted
    unfold Counted at counted
    simp only [locked] at counted
    have paid := counted wrong member
    have longer := window_lt_lockout
    omega
  · intro other bound found locked'
    cases found
    rw [locked] at locked'
    cases locked'
    exact lapsed

/-- Pruning is safe. -/
theorem Safe.pruned (safe : Safe entry now evaluations) (older : now ≤ later) :
    Safe (entry.filter (LoginThrottle.worthKeeping later)) later evaluations := by
  cases entry with
  | none => exact safe.aged older
  | some attempt =>
      rw [Option.filter_some]
      split
      · exact safe.aged older
      · rename_i dropped
        unfold LoginThrottle.worthKeeping at dropped
        cases locked : attempt.lockedUntil with
        | some deadline =>
            simp only [locked, decide_eq_true_eq] at dropped
            exact safe.unlocked older locked (by omega)
        | none =>
            simp only [locked, decide_eq_true_eq] at dropped
            apply safe.dropped older
            · intro wrong member
              have within := safe.within attempt rfl locked wrong member
              have hour : window + window < 3600 * LoginThrottle.nanosPerSecond := by decide
              omega
            · intro other deadline found locked'
              cases found
              rw [locked] at locked'
              cases locked'

theorem Open.filter {keep : Attempt -> Bool} (unlocked : Open entry) :
    Open (entry.filter keep) := fun attempt found =>
  unlocked attempt (Option.eq_some_of_filter_eq_some found)

/-- All bursts are paid for by time when the counter is not locked. -/
theorem Safe.served (safe : Safe entry now evaluations) (older : now ≤ later)
    (unlocked : forall attempt deadline, entry = some attempt ->
      attempt.lockedUntil = some deadline -> deadline ≤ later) :
    forall burst, burst <:+: evaluations -> Burst burst ->
      forall wrong, wrong ∈ burst -> wrong.1 + lockout ≤ later :=
  fun burst adjacent five => (safe.paid burst adjacent five).lapsed older unlocked

theorem Open.lapsed (unlocked : Open entry) : forall attempt deadline, entry = some attempt ->
    attempt.lockedUntil = some deadline -> deadline ≤ later := by
  intro attempt deadline found locked
  rw [unlocked attempt found] at locked
  cases locked

theorem past_cons {accepted : Bool} (older : now ≤ later)
    (past : forall checked, checked ∈ evaluations -> checked.1 ≤ now) :
    forall checked, checked ∈ (later, accepted) :: evaluations -> checked.1 ≤ later := by
  intro checked member
  rcases List.mem_cons.mp member with rfl | before
  · exact le_refl _
  · exact le_trans (past checked before) older

/-- A right value is checked while the counter is not locked. -/
theorem Safe.accepted (safe : Safe entry now evaluations) (older : now ≤ later)
    (unlocked : forall attempt deadline, entry = some attempt ->
      attempt.lockedUntil = some deadline -> deadline ≤ later) :
    Safe entry later ((later, true) :: evaluations) where
  past := past_cons older safe.past
  bounded := safe.bounded.cons (safe.served older unlocked)
  counted := by
    have counted := safe.counted
    unfold Counted recent at counted ⊢
    cases entry with
    | none =>
        rw [wrongs_right]
        exact Nat.le_refl 0
    | some attempt =>
        cases locked : attempt.lockedUntil with
        | some deadline =>
            simp only [locked, wrongs_right]
            exact fun wrong member => absurd member List.not_mem_nil
        | none =>
            simp only [locked, wrongs_right] at counted ⊢
            exact ⟨counted.1, Nat.zero_le _⟩
  within := by
    intro attempt found locked wrong member
    rw [wrongs_right] at member
    exact absurd member List.not_mem_nil
  paid := by
    intro burst adjacent five
    rcases List.infix_cons_iff.mp adjacent with newest | before
    · rcases newest with ⟨rest, split⟩
      cases burst with
      | nil => exact absurd five.five (by decide)
      | cons first others =>
          have right := five.wrong first List.mem_cons_self
          rw [(List.cons.inj split).1] at right
          cases right
    · exact Or.inl (safe.served older unlocked burst before five)

/-- A wrong value is checked while the counter is open. -/
theorem Safe.missed (safe : Safe entry now evaluations) (unlocked : Open entry)
    (older : now ≤ later) : Owing entry later ((later, false) :: evaluations) where
  past := past_cons older safe.past
  bounded := safe.bounded.cons (safe.served older unlocked.lapsed)
  unlocked := unlocked
  counted := by
    have counted := safe.counted.aged older
    unfold Counted at counted ⊢
    cases entry with
    | none =>
        rw [recent_wrong, List.length_cons]
        exact Nat.succ_le_succ counted
    | some attempt =>
        simp only [unlocked attempt rfl] at counted ⊢
        rw [recent_wrong, List.length_cons]
        omega
  paid := by
    intro burst adjacent five
    rcases List.infix_cons_iff.mp adjacent with newest | before
    · exact Or.inr (five.recent newest)
    · exact Or.inl (safe.served older unlocked.lapsed burst before five)

/-- A failure may be recorded that is none of a wrong value. -/
theorem Safe.owing (safe : Safe entry now evaluations) (unlocked : Open entry) :
    Owing entry now evaluations where
  past := safe.past
  bounded := safe.bounded
  unlocked := unlocked
  counted := by
    have counted := safe.counted
    unfold Counted at counted ⊢
    cases entry with
    | none => exact Nat.le_succ_of_le counted
    | some attempt =>
        simp only [unlocked attempt rfl] at counted ⊢
        omega
  paid := fun burst adjacent five =>
    Or.inl (safe.served (le_refl now) unlocked.lapsed burst adjacent five)

/-- After a right value the counter may be cleared. -/
theorem Safe.cleared (safe : Safe entry now evaluations) (unlocked : Open entry)
    (older : now ≤ later) (right : wrongs evaluations = []) : Safe none later evaluations := by
  apply safe.dropped older _ unlocked.lapsed
  intro wrong member
  rw [right] at member
  exact absurd member List.not_mem_nil

/-- The first failure of a window. -/
def first (now : Int) : Attempt := ⟨1, now, none⟩

theorem failed_fresh : LoginThrottle.withDefaults.failed now ⟨0, now, none⟩ =
    (none, first now) := by
  have fresh : LoginThrottle.withDefaults.windowed now ⟨0, now, none⟩ = ⟨0, now, none⟩ := by
    unfold LoginThrottle.windowed
    split <;> rfl
  simp only [LoginThrottle.failed, LoginThrottle.unlocked, fresh]
  rfl

theorem le_add_lockout {wrong : Int} (past : wrong ≤ now) (older : now ≤ later) :
    wrong + lockout ≤ later + lockout := by omega

/-- A window starts with the failure that pays the debt. -/
theorem Owing.restarted (owing : Owing entry now evaluations) (older : now ≤ later)
    (single : (recent now evaluations).length ≤ 1) :
    Safe (some (first later)) later evaluations where
  past := fun checked member => le_trans (owing.past checked member) older
  bounded := owing.bounded
  counted := by
    have fewer := @recent_aged now later evaluations older
    exact ⟨Nat.le_of_ble_eq_true rfl, by simp only [first]; omega⟩
  within := by
    intro attempt found _ wrong member
    cases found
    rcases mem_wrongs member with ⟨checked, among, rfl⟩
    have past := owing.past checked among
    have positive : 0 ≤ window := by decide
    simp only [first]
    omega
  paid := by
    intro burst adjacent five
    rcases owing.paid burst adjacent five with passed | many
    · exact Or.inl fun wrong member => le_trans (passed wrong member) older
    · omega

/-- A failure within the window pays the debt, or locks the counter. -/
theorem Owing.counts (owing : Owing (some attempt) now evaluations) (older : now ≤ later)
    (within : later - attempt.windowStarted ≤ window) :
    Safe (some (LoginThrottle.withDefaults.counted later attempt).2) later evaluations := by
  have unlocked := owing.unlocked attempt rfl
  have counted := owing.counted
  unfold Counted at counted
  simp only [unlocked] at counted
  have fewer := @recent_aged now later evaluations older
  have past : forall wrong, wrong ∈ wrongs evaluations -> wrong ≤ now := by
    intro wrong member
    rcases mem_wrongs member with ⟨checked, among, rfl⟩
    exact owing.past checked among
  unfold LoginThrottle.counted
  dsimp only
  have limit : LoginThrottle.withDefaults.maxFailures = 5 := rfl
  have length : LoginThrottle.withDefaults.lockout = lockout := rfl
  by_cases full : LoginThrottle.withDefaults.maxFailures ≤ attempt.failures + 1
  · rw [if_pos full, length]
    constructor
    · exact fun checked member => le_trans (owing.past checked member) older
    · exact owing.bounded
    · exact fun wrong member => le_add_lockout (past wrong member) older
    · intro other found open'
      cases found
      cases open'
    · intro burst adjacent five
      apply Or.inr
      refine ⟨_, _, rfl, rfl, ?_⟩
      intro wrong member
      exact le_add_lockout (owing.past wrong (adjacent.subset member)) older
  · rw [if_neg full]
    constructor
    · exact fun checked member => le_trans (owing.past checked member) older
    · exact owing.bounded
    · unfold Counted
      simp only [unlocked]
      omega
    · intro other found _ wrong member
      cases found
      have before := past wrong member
      dsimp only
      omega
    · intro burst adjacent five
      rcases owing.paid burst adjacent five with passed | many
      · exact Or.inl fun wrong member => le_trans (passed wrong member) older
      · omega

/-- Recording a failure pays the debt, unless it starts the counter anew while
several wrong values are recent. -/
theorem Owing.recorded (owing : Owing entry now evaluations) (older : now ≤ later)
    (slides : forall attempt, entry = some attempt -> window < later - attempt.windowStarted ->
      (recent now evaluations).length ≤ 1) :
    Safe (some (LoginThrottle.withDefaults.failed later
      ((entry.filter (LoginThrottle.worthKeeping later)).getD ⟨0, later, none⟩)).2) later
      evaluations := by
  cases entry with
  | none =>
      rw [Option.filter_none, Option.getD_none, failed_fresh]
      exact owing.restarted older owing.counted
  | some attempt =>
      have unlocked := owing.unlocked attempt rfl
      by_cases elapsed : window < later - attempt.windowStarted
      · have restarted := owing.restarted older (slides attempt rfl elapsed)
        have lapsed : ¬ LoginThrottle.withDefaults.Live later attempt := by
          unfold LoginThrottle.Live
          rw [unlocked]
          exact not_le.mpr elapsed
        rw [Option.filter_some]
        split
        · rename_i kept
          rw [Option.getD_some, LoginThrottle.failed_over kept lapsed, failed_fresh]
          exact restarted
        · rw [Option.getD_none, failed_fresh]
          exact restarted
      · have live : LoginThrottle.withDefaults.Live later attempt := by
          unfold LoginThrottle.Live
          rw [unlocked]
          exact not_lt.mp elapsed
        rw [Option.filter_some, if_pos (live.worthKeeping LoginThrottle.moderate_withDefaults),
          Option.getD_some]
        have same : LoginThrottle.withDefaults.failed later attempt =
            LoginThrottle.withDefaults.counted later attempt := by
          have open' : LoginThrottle.withDefaults.windowed later attempt = attempt :=
            if_neg elapsed
          simp only [LoginThrottle.failed, LoginThrottle.unlocked, unlocked, open']
        rw [same]
        exact owing.counts older (not_lt.mp elapsed)

end Counter

/-! ## Calls -/

/-- The entry of a key after a call that neither records nor clears the key. -/
inductive Changes (entry : Option Attempt) (now : Int) : Option Attempt -> Prop
  | same : Changes entry now entry
  | pruned : Changes entry now (entry.filter (LoginThrottle.worthKeeping now))
  | lapsed {attempt : Attempt} {deadline : Int} (found : entry = some attempt)
      (locked : attempt.lockedUntil = some deadline) (passed : deadline ≤ now) :
      Changes entry now none

theorem Safe.changed {entry after : Option Attempt} {now later : Int}
    {evaluations : List (Int × Bool)} (safe : Safe entry now evaluations) (older : now ≤ later)
    (changes : Changes entry later after) : Safe after later evaluations := by
  cases changes with
  | same => exact safe.aged older
  | pruned => exact safe.pruned older
  | lapsed found locked passed =>
      subst found
      exact safe.unlocked older locked passed

theorem Open.changed {entry after : Option Attempt} {now : Int} (unlocked : Open entry)
    (changes : Changes entry now after) : Open after := by
  cases changes with
  | same => exact unlocked
  | pruned => exact unlocked.filter
  | lapsed => exact fun attempt missing => by cases missing

/-- The key is neither counted nor cleared. -/
def Uncounted (key : String) : CheckCommand -> Prop
  | .inner (.recordFailure other) | .inner (.recordSuccess other) => other ≠ key
  | _ => True

section Calls

variable {credential : Credential} {ip : IpAddr} {idUser : Int} {ledger after : Ledger}
  {command : CheckCommand} {allowed : Ledger -> Call -> Bool}

theorem perform_loginThrottle (ledger : Ledger) (input : Input) (command : CheckCommand) :
    (ledger.perform input command).2.loginThrottle = ledger.limiting.loginThrottle := by
  cases command with
  | verifyLoginCode idUser code => rfl
  | inner command =>
      cases command with
      | retryAfter key =>
          simp only [Ledger.perform, RateLimiting.perform, RateLimiting.checkLogin]
          split <;> rfl
      | _ => rfl

theorem perform_attempts_login (limiting : RateLimiting) (now : Reading) (key : String) :
    (limiting.checkLogin now key).2.attempts = limiting.attempts := by
  unfold RateLimiting.checkLogin
  split <;> rfl

/-- What a call may do to the entry of a key that it does not count. -/
theorem perform_changes (input : Input) {key : String} (uncounted : Uncounted key command) :
    Changes (ledger.limiting.attempts key) input.now.instant
      ((ledger.perform input command).2.attempts key) := by
  cases command with
  | verifyLoginCode idUser code => exact Changes.same
  | inner command =>
      cases command with
      | recordFailure other =>
          change Changes _ _ (LoginThrottle.setAttempt
            (LoginThrottle.prune input.now.instant ledger.limiting.attempts) other _ key)
          rw [LoginThrottle.setAttempt_other fun same => uncounted same.symm]
          exact Changes.pruned
      | recordSuccess other =>
          change Changes _ _ (LoginThrottle.setAttempt ledger.limiting.attempts other none key)
          rw [LoginThrottle.setAttempt_other fun same => uncounted same.symm]
          exact Changes.same
      | retryAfter other =>
          simp only [Ledger.perform, RateLimiting.perform, perform_attempts_login]
          exact Changes.same
      | lockedFor other =>
          simp only [Ledger.perform, RateLimiting.perform, LoginThrottle.lockedFor]
          cases found : ledger.limiting.attempts other with
          | none => exact Changes.same
          | some attempt =>
              cases locked : attempt.lockedUntil with
              | none =>
                  simp only [locked]
                  exact Changes.same
              | some deadline =>
                  simp only [locked]
                  by_cases early : input.now.instant < deadline
                  · rw [if_pos early]
                    exact Changes.same
                  · rw [if_neg early]
                    dsimp only
                    by_cases same : key = other
                    · subst same
                      rw [LoginThrottle.setAttempt_same]
                      exact Changes.lapsed found locked (not_lt.mp early)
                    · rw [LoginThrottle.setAttempt_other same]
                      exact Changes.same
      | _ => exact Changes.same

/-- The ledger is safe for a credential. -/
structure SafeLedger (credential : Credential) (ip : IpAddr) (idUser : Int)
    (ledger : Ledger) : Prop where
  throttle : ledger.limiting.loginThrottle = .withDefaults
  safe : Safe (ledger.limiting.attempts (key credential ip idUser)) ledger.now.instant
    (Ledger.evaluations credential ledger.calls)

/-- The counter of the credential is not locked. -/
def OpenLedger (credential : Credential) (ip : IpAddr) (idUser : Int) (ledger : Ledger) : Prop :=
  Open (ledger.limiting.attempts (key credential ip idUser))

/-- The last value of the credential that was checked was right. -/
def RightLedger (credential : Credential) (ledger : Ledger) : Prop :=
  wrongs (Ledger.evaluations credential ledger.calls) = []

/-- A wrong value may not be counted yet. -/
structure OwingLedger (credential : Credential) (ip : IpAddr) (idUser : Int)
    (ledger : Ledger) : Prop where
  throttle : ledger.limiting.loginThrottle = .withDefaults
  owing : Owing (ledger.limiting.attempts (key credential ip idUser)) ledger.now.instant
    (Ledger.evaluations credential ledger.calls)

theorem effect_some {reply : command.Reply}
    (answered : Ledger.effect allowed ledger command (some reply) after) :
    Exists fun input : Input => ledger.now ≤ input.now ∧
      (ledger.perform input command).1 = some reply ∧
      allowed ledger ⟨input.now, ⟨command, reply⟩⟩ = true ∧
      after = ledger.enter (ledger.perform input command).2 ⟨input.now, ⟨command, reply⟩⟩ := by
  rcases answered with ⟨input, older, performed, met, entered⟩
  exact ⟨input, older, performed, met, entered⟩

theorem effect_none (failed : Ledger.effect allowed ledger command none after) :
    after = ledger := by
  rcases failed with ⟨input, -, -, same⟩
  exact same

theorem evaluations_none {call : Call} {calls : List Call}
    (unchecked : verdict credential call.seen = none) :
    Ledger.evaluations credential (call :: calls) = Ledger.evaluations credential calls := by
  unfold Ledger.evaluations
  rw [List.filterMap_cons, unchecked]
  rfl

theorem evaluations_some {call : Call} {calls : List Call} {checked : Int × Bool}
    (found : verdict credential call.seen = some checked) :
    Ledger.evaluations credential (call :: calls) =
      (call.now.instant, checked.2) :: Ledger.evaluations credential calls := by
  unfold Ledger.evaluations
  rw [List.filterMap_cons, found]
  rfl

/-- No reply makes the command a check of the credential. -/
def Unchecked (credential : Credential) (command : CheckCommand) : Prop :=
  forall reply : command.Reply, verdict credential ⟨command, reply⟩ = none

/-- A call without consequence for the credential. -/
structure Harmless (credential : Credential) (ip : IpAddr) (idUser : Int)
    (command : CheckCommand) : Prop where
  uncounted : Uncounted (key credential ip idUser) command
  unchecked : Unchecked credential command

section Safety

variable {reply : command.Reply}

/-- The call checks no value: the ledger stays as safe, open and right as it was. -/
theorem SafeLedger.quiet (safe : SafeLedger credential ip idUser ledger)
    (uncounted : Uncounted (key credential ip idUser) command)
    (answered : Ledger.effect allowed ledger command (some reply) after)
    (unchecked : verdict credential ⟨command, reply⟩ = none) :
    SafeLedger credential ip idUser after ∧
      (OpenLedger credential ip idUser ledger -> OpenLedger credential ip idUser after) ∧
      (RightLedger credential ledger -> RightLedger credential after) := by
  rcases effect_some answered with ⟨input, older, -, -, rfl⟩
  have changes := @perform_changes ledger command input _ uncounted
  have same := @evaluations_none credential ⟨input.now, _⟩ ledger.calls unchecked
  refine ⟨⟨?_, ?_⟩, ?_, ?_⟩
  · exact (perform_loginThrottle ledger input command).trans safe.throttle
  · have kept := safe.safe.changed older.2 changes
    rw [← same] at kept
    exact kept
  · exact fun unlocked => unlocked.changed changes
  · intro right
    unfold RightLedger at right ⊢
    rw [← same] at right
    exact right

/-- The entry of the counter is the same after a check. -/
theorem SafeLedger.checked {checked : Int × Bool} (safe : SafeLedger credential ip idUser ledger)
    (answered : Ledger.effect allowed ledger command (some reply) after)
    (found : verdict credential ⟨command, reply⟩ = some checked) :
    after.limiting.loginThrottle = .withDefaults ∧ ledger.now ≤ after.now ∧
      after.limiting.attempts = ledger.limiting.attempts ∧
      Ledger.evaluations credential after.calls =
        (after.now.instant, checked.2) :: Ledger.evaluations credential ledger.calls := by
  rcases effect_some answered with ⟨input, older, -, -, rfl⟩
  refine ⟨(perform_loginThrottle ledger input command).trans safe.throttle, older, ?_,
    evaluations_some found⟩
  cases command with
  | verifyLoginCode idUser code => rfl
  | inner command =>
      cases command with
      | spawnVerify idUser hash password => rfl
      | _ => cases credential <;> cases found

/-- A right value in the throttled handler. -/
theorem SafeLedger.right {checked : Int × Bool} (safe : SafeLedger credential ip idUser ledger)
    (unlocked : OpenLedger credential ip idUser ledger)
    (answered : Ledger.effect allowed ledger command (some reply) after)
    (found : verdict credential ⟨command, reply⟩ = some checked)
    (accepted : checked.2 = true) :
    SafeLedger credential ip idUser after ∧ OpenLedger credential ip idUser after ∧
      RightLedger credential after := by
  rcases safe.checked answered found with ⟨throttle, older, entries, evaluations⟩
  rw [accepted] at evaluations
  refine ⟨⟨throttle, ?_⟩, ?_, ?_⟩
  · rw [entries, evaluations]
    exact safe.safe.accepted older.2 unlocked.lapsed
  · unfold OpenLedger
    rw [entries]
    exact unlocked
  · unfold RightLedger
    rw [evaluations]
    exact wrongs_right

/-- A wrong value in the throttled handler. -/
theorem SafeLedger.wrong {checked : Int × Bool} (safe : SafeLedger credential ip idUser ledger)
    (unlocked : OpenLedger credential ip idUser ledger)
    (answered : Ledger.effect allowed ledger command (some reply) after)
    (found : verdict credential ⟨command, reply⟩ = some checked)
    (refused : checked.2 = false) : OwingLedger credential ip idUser after := by
  rcases safe.checked answered found with ⟨throttle, older, entries, evaluations⟩
  rw [refused] at evaluations
  refine ⟨throttle, ?_⟩
  rw [entries, evaluations]
  exact safe.safe.missed unlocked older.2

theorem SafeLedger.owing (safe : SafeLedger credential ip idUser ledger)
    (unlocked : OpenLedger credential ip idUser ledger) :
    OwingLedger credential ip idUser ledger :=
  ⟨safe.throttle, safe.safe.owing unlocked⟩

end Safety

/-- The throttle lets the request pass: the counter is not locked. -/
theorem SafeLedger.passes (safe : SafeLedger credential ip idUser ledger)
    (answered : Ledger.effect allowed ledger
      (.inner (.lockedFor (key credential ip idUser))) (some none) after) :
    SafeLedger credential ip idUser after ∧ OpenLedger credential ip idUser after := by
  have unchecked : verdict credential
      ⟨.inner (.lockedFor (key credential ip idUser)), (none : Option Nat)⟩ = none := by
    cases credential <;> rfl
  have uncounted : Uncounted (key credential ip idUser)
      (.inner (.lockedFor (key credential ip idUser))) := True.intro
  refine ⟨(safe.quiet uncounted answered unchecked).1, ?_⟩
  rcases effect_some answered with ⟨input, -, performed, -, rfl⟩
  unfold OpenLedger
  intro attempt found
  simp only [Ledger.enter, Ledger.perform, RateLimiting.perform, LoginThrottle.lockedFor]
    at performed found
  cases before : ledger.limiting.attempts (key credential ip idUser) with
  | none =>
      simp only [before] at found
      cases found
  | some old =>
      cases locked : old.lockedUntil with
      | none =>
          simp only [before, locked] at found
          cases found
          exact locked
      | some deadline =>
          simp only [before, locked] at performed found
          by_cases early : input.now.instant < deadline
          · rw [if_pos early] at performed
            cases performed
          · rw [if_neg early] at found
            simp only [LoginThrottle.setAttempt_same] at found
            cases found

/-- After the calls before the last one every wrong value but the last is old. -/
theorem recent_le_one {calls : List Call} {now : Int}
    (old : forall wrong, wrong ∈ wrongs (Ledger.evaluations credential calls.tail) ->
      wrong + window < now) :
    (recent now (Ledger.evaluations credential calls)).length ≤ 1 := by
  cases calls with
  | nil => exact Nat.zero_le 1
  | cons call calls =>
      rw [List.tail_cons] at old
      cases judged : verdict credential call.seen with
      | none =>
          rw [evaluations_none judged, recent_eq_nil old]
          exact Nat.zero_le 1
      | some checked =>
          rw [evaluations_some judged]
          rcases checked with ⟨number, accepted⟩
          cases accepted with
          | true => exact Nat.zero_le 1
          | false =>
              have none : ((wrongs (Ledger.evaluations credential calls)).filter fun wrong =>
                  decide (now ≤ wrong + window)) = [] := recent_eq_nil old
              unfold recent wrongs at none ⊢
              simp only [List.takeWhile_cons, Bool.not_false, if_true, List.map_cons,
                List.filter_cons]
              split
              · rw [none]
                exact Nat.le_refl 1
              · rw [none]
                exact Nat.zero_le 1

/-- The conditions on the calls of one request. -/
abbrev conditions (credential : Credential) (ip : IpAddr) (idUser : Int) (request : Request) :
    Ledger -> Call -> Bool :=
  fun ledger call => about idUser call && admits credential ip idUser request ledger call

variable {request : Request}

/-- A recorded failure pays the debt. -/
theorem OwingLedger.recorded (owing : OwingLedger credential ip idUser ledger)
    (answered : Ledger.effect (conditions credential ip idUser request) ledger
      (.inner (.recordFailure (key credential ip idUser))) (some ()) after) :
    SafeLedger credential ip idUser after := by
  rcases effect_some answered with ⟨input, older, -, met, rfl⟩
  have unchecked : verdict credential
      ⟨.inner (.recordFailure (key credential ip idUser)), ()⟩ = none := by
    cases credential <;> rfl
  refine ⟨(perform_loginThrottle ledger input _).trans owing.throttle, ?_⟩
  have same := @evaluations_none credential ⟨input.now, _⟩ ledger.calls unchecked
  change Safe _ _ (Ledger.evaluations credential
    (⟨input.now, ⟨.inner (.recordFailure (key credential ip idUser)), ()⟩⟩ :: ledger.calls))
  rw [same]
  have entry : (ledger.perform input
      (.inner (.recordFailure (key credential ip idUser)))).2.attempts
        (key credential ip idUser) =
      some (LoginThrottle.withDefaults.failed input.now.instant
        (((ledger.limiting.attempts (key credential ip idUser)).filter
          (LoginThrottle.worthKeeping input.now.instant)).getD
            ⟨0, input.now.instant, none⟩)).2 := by
    rw [← owing.throttle]
    exact LoginThrottle.setAttempt_same _ _ _
  change Safe ((ledger.perform input
    (.inner (.recordFailure (key credential ip idUser)))).2.attempts _) _ _
  rw [entry]
  apply owing.owing.recorded older.2
  intro attempt found elapsed
  have open' := owing.owing.unlocked attempt found
  have anew : restarts ledger (key credential ip idUser) input.now.instant = true := by
    unfold restarts
    rw [found]
    simp [open', elapsed]
  simp only [conditions, admits, unchecked, anew, Bool.and_eq_true, decide_true, Bool.true_and,
    Bool.not_true, Bool.false_or, List.all_eq_true, decide_eq_true_eq] at met
  exact recent_le_one met.2

/-- A success may clear the counter after a right value. -/
theorem SafeLedger.clears (safe : SafeLedger credential ip idUser ledger)
    (unlocked : OpenLedger credential ip idUser ledger) (right : RightLedger credential ledger)
    (answered : Ledger.effect allowed ledger
      (.inner (.recordSuccess (key credential ip idUser))) (some ()) after) :
    SafeLedger credential ip idUser after := by
  rcases effect_some answered with ⟨input, older, -, -, rfl⟩
  have unchecked : verdict credential
      ⟨.inner (.recordSuccess (key credential ip idUser)), ()⟩ = none := by
    cases credential <;> rfl
  refine ⟨(perform_loginThrottle ledger input _).trans safe.throttle, ?_⟩
  have same := @evaluations_none credential ⟨input.now, _⟩ ledger.calls unchecked
  change Safe (LoginThrottle.setAttempt _ _ none _) _ (Ledger.evaluations credential
    (⟨input.now, ⟨.inner (.recordSuccess (key credential ip idUser)), ()⟩⟩ :: ledger.calls))
  rw [same, LoginThrottle.setAttempt_same]
  exact safe.safe.cleared unlocked older.2 right

/-- Outside of the throttled handler, a call that neither counts nor clears the
counter is safe under the conditions. -/
theorem SafeLedger.outside (safe : SafeLedger credential ip idUser ledger)
    (uncounted : Uncounted (key credential ip idUser) command)
    (unthrottled : throttled credential request.route = false) {reply : command.Reply}
    (answered : Ledger.effect (conditions credential ip idUser request) ledger command
      (some reply) after) : SafeLedger credential ip idUser after := by
  rcases effect_some answered with ⟨input, older, performed, met, rfl⟩
  cases judged : verdict credential ⟨command, reply⟩ with
  | none => exact (safe.quiet uncounted answered judged).1
  | some checked =>
      rcases safe.checked answered judged with ⟨throttle, -, entries, evaluations⟩
      simp only [conditions, admits, judged, unthrottled, Bool.false_or, Bool.and_eq_true,
        Bool.not_eq_true'] at met
      rcases met with ⟨-, ⟨accepted, free⟩, -⟩
      refine ⟨throttle, ?_⟩
      rw [entries, evaluations, accepted]
      apply safe.safe.accepted older.2
      intro attempt deadline entry locked
      unfold lockedAt at free
      rw [entry] at free
      simpa [locked] using free

end Calls

/-! ## Programs -/

/-- What a program ensures when its calls meet the conditions; when a call fails
the ledger is safe. -/
abbrev Ends (credential : Credential) (ip : IpAddr) (idUser : Int) (request : Request)
    {α : Type} (program : CheckedHandler α) (ledger : Ledger) (post : α -> Ledger -> Prop) : Prop :=
  Ensures (Ledger.effect (conditions credential ip idUser request))
    (SafeLedger credential ip idUser) program ledger post

section Programs

variable {credential : Credential} {ip : IpAddr} {idUser : Int} {request : Request}
  {ledger : Ledger} {userKey : String} {α : Type}

/-- Nothing but the limiters is touched by a program outside of the throttled handler. -/
theorem ends_outside {program : CheckedHandler α}
    (only : program.Only (Uncounted (key credential ip idUser)))
    (unthrottled : throttled credential request.route = false)
    (safe : SafeLedger credential ip idUser ledger) :
    Ends credential ip idUser request program ledger (fun _ => SafeLedger credential ip idUser) := by
  apply Ensures.only _ (fun _ holds => holds) only safe
  intro before command reply after holds uncounted acted
  cases reply with
  | none =>
      rw [effect_none acted]
      exact holds
  | some reply => exact holds.outside uncounted unthrottled acted

/-- The rule for a harmless command. -/
theorem ends_step {command : CheckCommand} {rest : command.Reply -> CheckedHandler α}
    {post : α -> Ledger -> Prop} (harmless : Harmless credential ip idUser command)
    (safe : SafeLedger credential ip idUser ledger)
    (next : forall reply after, SafeLedger credential ip idUser after ->
      (OpenLedger credential ip idUser ledger -> OpenLedger credential ip idUser after) ->
      (RightLedger credential ledger -> RightLedger credential after) ->
      Ends credential ip idUser request (rest reply) after post) :
    Ends credential ip idUser request (Program.call (S := checks) command rest) ledger post := by
  apply Ensures.call
  · intro after failed
    rw [effect_none failed]
    exact safe
  · intro reply after answered
    rcases safe.quiet harmless.uncounted answered (harmless.unchecked reply) with
        ⟨kept, unlocked, right⟩
    exact next reply after kept unlocked right

/-- A harmless program leaves the ledger as safe, open and right as it was. -/
theorem ends_harmless {program : CheckedHandler α}
    (only : program.Only (Harmless credential ip idUser))
    (safe : SafeLedger credential ip idUser ledger) :
    Ends credential ip idUser request program ledger (fun _ after =>
      SafeLedger credential ip idUser after ∧
        (OpenLedger credential ip idUser ledger -> OpenLedger credential ip idUser after) ∧
        (RightLedger credential ledger -> RightLedger credential after)) := by
  refine Ensures.only ?_ (fun _ holds => holds.1) only ⟨safe, id, id⟩
  intro before command reply after holds harmless acted
  cases reply with
  | none =>
      rw [effect_none acted]
      exact holds
  | some reply =>
      rcases holds.1.quiet harmless.uncounted acted (harmless.unchecked reply) with
          ⟨kept, unlocked, right⟩
      exact ⟨kept, fun before => unlocked (holds.2.1 before), fun before =>
        right (holds.2.2 before)⟩

theorem harmless_idle {command : Command} (idle : Idle command) :
    Harmless credential ip idUser (.inner command) := by
  constructor
  · cases command <;> first | exact True.intro | exact idle.elim
  · intro reply
    cases command <;> cases credential <;> first | rfl | exact idle.elim

theorem only_plain {allowed : Command -> Prop} {permitted : CheckCommand -> Prop}
    {program : Handler α} (only : program.Only allowed)
    (means : forall command, allowed command -> permitted (.inner command)) :
    (plain program).Only permitted :=
  only.translate fun command allowed =>
    (Program.only_perform (S := checks) _ _).mpr (means command allowed)

theorem harmless_plain {program : Handler α} (only : program.Only Idle) :
    (plain program).Only (Harmless credential ip idUser) :=
  only_plain only fun _ idle => harmless_idle idle

/-- An idle program at the end of a handler. -/
theorem ends_idle {program : Handler α} (only : program.Only Idle)
    (safe : SafeLedger credential ip idUser ledger) :
    Ends credential ip idUser request (plain program) ledger
      (fun _ => SafeLedger credential ip idUser) :=
  (ends_harmless (harmless_plain only) safe).mono fun _ _ kept => kept.1

theorem plain_bind {β : Type} (first : Handler β) (next : β -> Handler α) :
    plain (first >>= next) = (plain first >>= fun value => plain (next value)) :=
  Program.translate_bind first next

/-- Questions to the throttle and to the login limiter are harmless. -/
theorem harmless_question {command : Command}
    (question : (Exists fun key => command = .lockedFor key) ∨
      Exists fun key => command = .retryAfter key) :
    Harmless credential ip idUser (.inner command) := by
  rcases question with ⟨key, rfl⟩ | ⟨key, rfl⟩
  · exact ⟨True.intro, fun _ => by cases credential <;> rfl⟩
  · exact ⟨True.intro, fun _ => by cases credential <;> rfl⟩

/-- So are failures and successes of other keys. -/
theorem harmless_other {command : Command} {other : String}
    (different : other ≠ key credential ip idUser)
    (records : command = .recordFailure other ∨ command = .recordSuccess other) :
    Harmless credential ip idUser (.inner command) := by
  rcases records with rfl | rfl
  · exact ⟨different, fun _ => by cases credential <;> rfl⟩
  · exact ⟨different, fun _ => by cases credential <;> rfl⟩

/-- The rule for the question whether the counter is locked. -/
theorem ends_lockedFor {rest : Option Nat -> CheckedHandler α} {post : α -> Ledger -> Prop}
    (safe : SafeLedger credential ip idUser ledger)
    (refused : forall remaining after, SafeLedger credential ip idUser after ->
      Ends credential ip idUser request (rest (some remaining)) after post)
    (passed : forall after, SafeLedger credential ip idUser after ->
      OpenLedger credential ip idUser after ->
      Ends credential ip idUser request (rest none) after post) :
    Ends credential ip idUser request
      (Program.call (S := checks) (.inner (.lockedFor (key credential ip idUser))) rest) ledger
      post := by
  apply Ensures.call
  · intro after failed
    rw [effect_none failed]
    exact safe
  · intro reply after answered
    change Option Nat at reply
    cases reply with
    | none =>
        rcases safe.passes answered with ⟨kept, unlocked⟩
        exact passed after kept unlocked
    | some remaining =>
        have harmless : Harmless credential ip idUser
            (.inner (.lockedFor (key credential ip idUser))) :=
          harmless_question (Or.inl ⟨_, rfl⟩)
        exact refused remaining after
          (safe.quiet harmless.uncounted answered (harmless.unchecked _)).1

/-! ### The sign-in -/

theorem account_text (username : String) :
    "ip:" ++ ip.toString ++ "|user:" ++ username = (Isolation.LoginKey.account username).text ip :=
  rfl

theorem address_key : "ip:" ++ ip.toString = key .password ip idUser := rfl

theorem account_ne (username : String) :
    (Isolation.LoginKey.account username).text ip ≠ key .password ip idUser := by
  intro same
  change (Isolation.LoginKey.account username).text ip = Isolation.LoginKey.address.text ip at same
  have keys := (Isolation.LoginKey.text_injective same).2
  cases keys

theorem ends_registerLoginFailure (other : userKey ≠ key .password ip idUser)
    (username : String)
    (owing : OwingLedger .password ip idUser ledger) :
    Ends .password ip idUser request
      (plain (Auth.registerLoginFailure (key .password ip idUser) userKey username)) ledger
      (fun _ => SafeLedger .password ip idUser) := by
  apply Ensures.call
  · rintro after ⟨input, -, performed, -⟩
    cases performed
  · intro reply recorded answered
    have safe := owing.recorded answered
    apply ends_step (harmless_other other (Or.inl rfl)) safe
    intro reply counted kept unlocked right
    apply ends_idle _ kept
    split
    · exact only_value _ _
    · exact only_step True.intro fun _ => only_value _ _

theorem ends_refused (other : userKey ≠ key .password ip idUser) (username : String)
    (owing : OwingLedger .password ip idUser ledger) :
    Ends .password ip idUser request
      (plain (do
        Auth.registerLoginFailure (key .password ip idUser) userKey username
        pure Auth.invalidLogin)) ledger
      (fun _ => SafeLedger .password ip idUser) := by
  rw [plain_bind]
  apply (ends_registerLoginFailure other username owing).bind
  intro _ after safe
  exact Ensures.pure safe

theorem ends_finishLogin {app : AppState} (other : userKey ≠ key .password ip idUser)
    (operator : Operator)
    (safe : SafeLedger .password ip idUser ledger)
    (unlocked : OpenLedger .password ip idUser ledger) (right : RightLedger .password ledger) :
    Ends .password ip idUser request
      (plain (Auth.finishLogin app (key .password ip idUser) userKey operator)) ledger
      (fun _ => SafeLedger .password ip idUser) := by
  unfold Auth.finishLogin
  split
  · exact Ensures.pure safe
  · apply Ensures.call
    · intro after failed
      rw [effect_none failed]
      exact safe
    · intro reply cleared answered
      have kept := safe.clears unlocked right answered
      apply ends_step (harmless_other other (Or.inr rfl)) kept
      intro reply done safe' _ _
      apply ends_idle _ safe'
      apply (idle_routine (routine_isEnabled _)).bind
      intro enabled
      split
      · exact only_step True.intro fun _ => only_step True.intro fun _ =>
          only_step True.intro fun _ => only_step True.intro fun _ => only_value _ _
      · apply only_step True.intro
        intro _
        exact (idle_routine (routine_establishSession operator)).bind fun _ => only_value _ _

theorem ends_checkPassword {app : AppState} (other : userKey ≠ key .password ip idUser)
    (username password : String)
    (safe : SafeLedger .password ip idUser ledger)
    (unlocked : OpenLedger .password ip idUser ledger) :
    Ends .password ip idUser request
      (plain (Auth.checkPassword app (key .password ip idUser) userKey username password)) ledger
      (fun _ => SafeLedger .password ip idUser) := by
  unfold Auth.checkPassword
  split
  · exact ends_refused other username (safe.owing unlocked)
  · refine ends_step (harmless_idle True.intro) safe ?_
    intro found after safe' unlocked' _
    change Option Operator at found
    cases found with
    | none =>
        refine ends_step (harmless_idle True.intro) safe' ?_
        intro _ last safe'' unlocked'' _
        exact ends_refused other username (safe''.owing (unlocked'' (unlocked' unlocked)))
    | some operator =>
        apply Ensures.call
        · intro last failed
          rw [effect_none failed]
          exact safe'
        · intro reply last answered
          change Except String PasswordVerification at reply
          cases reply with
          | error message =>
              have uncounted : Uncounted (key .password ip idUser) (.inner (.spawnVerify
                  operator.idUser operator.encryptedPasswordHash password)) := True.intro
              rcases safe'.quiet uncounted answered rfl with ⟨safe'', unlocked'', -⟩
              exact ends_refused other username (safe''.owing (unlocked'' (unlocked' unlocked)))
          | ok verification =>
              rcases verification with ⟨valid, replacementRecord⟩
              cases valid with
              | false =>
                  have owing := safe'.wrong (unlocked' unlocked) answered rfl rfl
                  exact ends_refused other username owing
              | true =>
                  rcases safe'.right (unlocked' unlocked) answered rfl rfl with
                      ⟨safe'', unlocked'', right⟩
                  cases replacementRecord with
                  | none => exact ends_finishLogin other operator safe'' unlocked'' right
                  | some replacement =>
                      change Ends .password ip idUser request (plain (
                        OperatorRepository.updateEncryptedPassword operator.idUser replacement >>=
                          fun _ => Auth.finishLogin app (key .password ip idUser) userKey
                            operator)) last _
                      rw [plain_bind]
                      apply (ends_harmless (harmless_plain
                        (idle_routine (routine_updateEncryptedPassword operator.idUser replacement))) safe'').bind
                      intro _ stored kept
                      exact ends_finishLogin other operator kept.1 (kept.2.1 unlocked'')
                        (kept.2.2 right)

/-- The sign-in after the address has passed the limiters. -/
theorem ends_account {app : AppState} (other : userKey ≠ key .password ip idUser)
    (username password : String) (safe : SafeLedger .password ip idUser ledger)
    (unlocked : OpenLedger .password ip idUser ledger) :
    Ends .password ip idUser request
      (plain (do
        match ← call (.lockedFor userKey) with
        | some remaining => pure (Response.login (Auth.lockedMessage remaining))
        | none => do
          match ← call (.retryAfter ("login:" ++ userKey)) with
          | some remaining => pure (Response.login (Auth.lockedMessage remaining))
          | none => Auth.checkPassword app (key .password ip idUser) userKey username password))
      ledger (fun _ => SafeLedger .password ip idUser) := by
  apply ends_step (harmless_question (Or.inl ⟨_, rfl⟩)) safe
  intro reply asked safe₁ unlocked₁ _
  change Option Nat at reply
  cases reply with
  | some remaining => exact Ensures.pure safe₁
  | none =>
      apply ends_step (harmless_question (Or.inr ⟨_, rfl⟩)) safe₁
      intro reply last safe₂ unlocked₂ _
      change Option Nat at reply
      cases reply with
      | some remaining => exact Ensures.pure safe₂
      | none =>
          exact ends_checkPassword other username password safe₂ (unlocked₂ (unlocked₁ unlocked))

theorem ends_loginSubmit {app : AppState} (visit : Visit) (form : LoginForm)
    (client : visit.clientIp = ip.toString) (safe : SafeLedger .password ip idUser ledger) :
    Ends .password ip idUser request (plain (Auth.loginSubmit app visit form)) ledger
      (fun _ => SafeLedger .password ip idUser) := by
  unfold Auth.loginSubmit
  rw [client]
  split
  · exact Ensures.pure safe
  · apply ends_lockedFor safe
    · intro remaining after safe'
      exact Ensures.pure safe'
    · intro passed safe' unlocked
      apply ends_step (harmless_question (Or.inr ⟨_, rfl⟩)) safe'
      intro reply limited safe₁ unlocked₁ _
      change Option Nat at reply
      cases reply with
      | some remaining => exact Ensures.pure safe₁
      | none =>
          dsimp only
          rw [account_text, address_key]
          exact ends_account (account_ne _) _ _ safe₁ (unlocked₁ unlocked)

/-! ### The code challenge -/

/-- What the check of a code in the challenge leaves behind. -/
def Judged (ip : IpAddr) (idUser : Int) (accepted : Bool) (after : Ledger) : Prop :=
  if accepted then SafeLedger .code ip idUser after ∧ OpenLedger .code ip idUser after ∧
    RightLedger .code after
  else OwingLedger .code ip idUser after

theorem ends_judged (code : String) (safe : SafeLedger .code ip idUser ledger)
    (unlocked : OpenLedger .code ip idUser ledger) :
    Ends .code ip idUser request
      (if 32 < Text.len code then pure false else verifyLoginCode idUser code) ledger
      (Judged ip idUser) := by
  split
  · exact Ensures.pure (safe.owing unlocked)
  · apply Ensures.call
    · intro after failed
      rw [effect_none failed]
      exact safe
    · intro accepted after answered
      change Bool at accepted
      cases accepted with
      | false => exact Ensures.pure (safe.wrong unlocked answered rfl rfl)
      | true => exact Ensures.pure (safe.right unlocked answered rfl rfl)

theorem ends_finishMfa {app : AppState} (operator : Operator)
    (safe : SafeLedger .code ip idUser ledger) (unlocked : OpenLedger .code ip idUser ledger)
    (right : RightLedger .code ledger) :
    Ends .code ip idUser request
      (plain (Auth.finishMfa app (key .code ip idUser) operator)) ledger
      (fun _ => SafeLedger .code ip idUser) := by
  unfold Auth.finishMfa
  split
  · exact ends_idle (only_step True.intro fun _ => only_value _ _) safe
  · apply Ensures.call
    · intro after failed
      rw [effect_none failed]
      exact safe
    · intro reply cleared answered
      apply ends_idle _ (safe.clears unlocked right answered)
      apply only_step True.intro
      intro _
      apply (idle_routine routine_clearMfaPending).bind
      intro _
      exact (idle_routine (routine_establishSession operator)).bind fun _ => only_value _ _

theorem ends_checkCode {app : AppState} (code : String)
    (safe : SafeLedger .code ip idUser ledger) (unlocked : OpenLedger .code ip idUser ledger) :
    Ends .code ip idUser request (checkCode app (key .code ip idUser) code idUser) ledger
      (fun _ => SafeLedger .code ip idUser) := by
  unfold checkCode
  refine ends_step (harmless_idle True.intro) safe ?_
  intro found after safe' unlocked' _
  change Option Operator at found
  cases found with
  | none => exact ends_idle (only_step True.intro fun _ => only_value _ _) safe'
  | some operator =>
      apply (ends_judged code safe' (unlocked' unlocked)).bind
      intro accepted judged holds
      cases accepted with
      | true => exact ends_finishMfa operator holds.1 holds.2.1 holds.2.2
      | false =>
          apply Ensures.call
          · rintro last ⟨input, -, performed, -⟩
            cases performed
          · intro reply last answered
            have owing : OwingLedger .code ip idUser judged := holds
            exact Ensures.pure (owing.recorded answered)

theorem code_ne {number : Int} (different : number ≠ idUser) :
    (Isolation.LoginKey.code number).text ip ≠ key .code ip idUser := by
  intro same
  change (Isolation.LoginKey.code number).text ip = (Isolation.LoginKey.code idUser).text ip
    at same
  have keys := (Isolation.LoginKey.text_injective same).2
  cases keys
  exact different rfl

/-- A challenge of another operator checks no code of this one. -/
theorem ends_otherCode {app : AppState} {number : Int} (different : number ≠ idUser)
    (code : String) (safe : SafeLedger .code ip idUser ledger) :
    Ends .code ip idUser request
      (checkCode app ((Isolation.LoginKey.code number).text ip) code number) ledger
      (fun _ => SafeLedger .code ip idUser) := by
  unfold checkCode
  refine ends_step (harmless_idle True.intro) safe ?_
  intro found after safe' _ _
  change Option Operator at found
  cases found with
  | none => exact ends_idle (only_step True.intro fun _ => only_value _ _) safe'
  | some operator =>
      have refused : forall middle, SafeLedger .code ip idUser middle ->
          Ends .code ip idUser request (plain (do
            call (.recordFailure ((Isolation.LoginKey.code number).text ip))
            pure (Response.mfaChallenge "Invalid or expired code"))) middle
            (fun _ => SafeLedger .code ip idUser) := by
        intro middle safe''
        apply ends_step (harmless_other (code_ne different) (Or.inl rfl)) safe''
        intro _ last kept _ _
        exact Ensures.pure kept
      have judged : Ends .code ip idUser request
          (if 32 < Text.len code then pure false else verifyLoginCode number code) after
          (fun accepted middle => accepted = false ∧ SafeLedger .code ip idUser middle) := by
        split
        · exact Ensures.pure ⟨rfl, safe'⟩
        · apply Ensures.call
          · intro last failed
            rw [effect_none failed]
            exact safe'
          · intro accepted last answered
            rcases effect_some answered with ⟨input, -, -, met, -⟩
            simp only [conditions, about, verdict, Option.all_none, Option.all_some,
              Bool.true_and, Bool.and_eq_true, decide_eq_true_eq] at met
            exact absurd met.1 different
      apply judged.bind
      rintro accepted middle ⟨rfl, safe''⟩
      exact refused middle safe''

theorem ends_mfaVerify {app : AppState} (visit : Visit) (form : MfaCodeForm)
    (client : visit.clientIp = ip.toString) (safe : SafeLedger .code ip idUser ledger) :
    Ends .code ip idUser request (mfaVerify app visit form) ledger
      (fun _ => SafeLedger .code ip idUser) := by
  unfold mfaVerify
  rw [client]
  split
  · exact Ensures.pure safe
  · apply (ends_idle (idle_routine routine_mfaPendingUserId) safe).bind
    intro pending after safe'
    cases pending with
    | none => exact Ensures.pure safe'
    | some number =>
        by_cases same : number = idUser
        · subst same
          apply ends_lockedFor safe'
          · intro remaining last kept
            exact Ensures.pure kept
          · intro passed safe₁ unlocked
            apply ends_step (harmless_question (Or.inr ⟨_, rfl⟩)) safe₁
            intro reply limited safe₂ unlocked₂ _
            change Option Nat at reply
            cases reply with
            | some remaining => exact Ensures.pure safe₂
            | none => exact ends_checkCode _ safe₂ (unlocked₂ unlocked)
        · apply ends_step (harmless_question (Or.inl ⟨_, rfl⟩)) safe'
          intro reply asked safe₁ _ _
          change Option Nat at reply
          cases reply with
          | some remaining => exact Ensures.pure safe₁
          | none =>
              apply ends_step (harmless_question (Or.inr ⟨_, rfl⟩)) safe₁
              intro reply limited safe₂ _ _
              change Option Nat at reply
              cases reply with
              | some remaining => exact Ensures.pure safe₂
              | none => exact ends_otherCode same _ safe₂

/-! ### The other handlers -/

theorem uncounted_of_unmetered {key : String} {command : CheckCommand}
    (unmetered : Unmetered command) : Uncounted key command := by
  cases command with
  | verifyLoginCode idUser code => exact True.intro
  | inner command =>
      cases command with
      | recordFailure other => exact unmetered.elim
      | recordSuccess other => exact unmetered.elim
      | _ => exact True.intro

/-- A sign-in does not count under the key of a code. -/
theorem uncounted_signIn {command : Command} (uses : Isolation.Uses Isolation.signInKeys ip command) :
    Uncounted (key .code ip idUser) (.inner command) := by
  have different : forall {other : String},
      (Exists fun own => Isolation.signInKeys own ∧ other = own.text ip) ->
        other ≠ key .code ip idUser := by
    rintro other ⟨own, signsIn, rfl⟩ same
    change own.text ip = (Isolation.LoginKey.code idUser).text ip at same
    have keys := (Isolation.LoginKey.text_injective same).2
    subst keys
    exact signsIn
  cases command with
  | recordFailure other => exact different uses
  | recordSuccess other => exact different uses
  | _ => exact True.intro

theorem ends_otherSignIn {app : AppState} (visit : Visit) (form : LoginForm)
    (client : visit.clientIp = ip.toString) (safe : SafeLedger .code ip idUser ledger) :
    Ends .code ip idUser ⟨visit, .loginSubmit form⟩ (plain (Auth.loginSubmit app visit form)) ledger
      (fun _ => SafeLedger .code ip idUser) := by
  rcases visit with ⟨cookie, clientIp, token⟩
  change clientIp = ip.toString at client
  subst client
  apply ends_outside _ rfl safe
  exact only_plain (Isolation.uses_loginSubmit cookie token form) fun _ uses =>
    uncounted_signIn uses

/-- The code challenge does not count under the key of a password. -/
theorem uncounted_mfaVerify {app : AppState} (visit : Visit) (form : MfaCodeForm)
    (client : visit.clientIp = ip.toString) :
    (mfaVerify app visit form).Only (Uncounted (key .password ip idUser)) := by
  have idle : forall {β : Type} {program : Handler β}, program.Only Idle ->
      (plain program).Only (Uncounted (key .password ip idUser)) := fun only =>
    only_plain only fun _ idle => uncounted_of_unmetered (unrecorded_of_idle idle)
  have value : forall response : Response,
      (pure response : CheckedHandler Response).Only (Uncounted (key .password ip idUser)) :=
    fun response => Program.only_pure (S := checks) _ response
  have asked : forall {command : Command} {next : command.Reply -> CheckedHandler Response},
      Uncounted (key .password ip idUser) (.inner command) ->
      (forall reply, (next reply).Only (Uncounted (key .password ip idUser))) ->
      (ask command >>= next).Only (Uncounted (key .password ip idUser)) := fun meets later =>
    ((Program.only_perform (S := checks) _ _).mpr meets).bind later
  have different : forall number : Int,
      (Isolation.LoginKey.code number).text ip ≠ key .password ip idUser := by
    intro number same
    have keys := (@Isolation.LoginKey.text_injective ip ip _ .address same).2
    cases keys
  unfold mfaVerify
  rw [client]
  split
  · exact value _
  apply (idle (idle_routine routine_mfaPendingUserId)).bind
  intro pending
  split
  · exact value _
  rename_i number
  refine asked True.intro ?_
  intro locked
  split
  · exact value _
  refine asked True.intro ?_
  intro limited
  split
  · exact value _
  unfold checkCode
  refine asked True.intro ?_
  intro found
  split
  · exact idle (only_step True.intro fun _ => only_value _ _)
  rename_i operator
  have judged : (if 32 < Text.len (Sanitize.plainText app.clean form.code) then pure false
      else verifyLoginCode number (Sanitize.plainText app.clean form.code)).Only
        (Uncounted (key .password ip idUser)) :=
    (unmetered_limited number _).mono fun _ unmetered => uncounted_of_unmetered unmetered
  apply judged.bind
  intro accepted
  split
  · apply only_plain _ fun _ meets => meets
    exact only_step (different number) fun _ => only_value _ _
  · apply only_plain _ fun _ meets => meets
    unfold Auth.finishMfa
    split
    · exact only_step True.intro fun _ => only_value _ _
    · apply only_step (different number)
      intro _
      have rest : (do
          OperatorRepository.recordAuthenticated operator.idUser
          Auth.clearMfaPending
          Auth.establishSession app operator
          pure (Response.redirect "/kraken_ui/auth/admin_panel") : Handler Response).Only Idle := by
        apply only_step True.intro
        intro _
        apply (idle_routine routine_clearMfaPending).bind
        intro _
        exact (idle_routine (routine_establishSession operator)).bind fun _ => only_value _ _
      exact rest.mono fun _ idle => uncounted_of_unmetered (unrecorded_of_idle idle)

/-- Every request leaves the ledger safe. -/
theorem ends_answers {app : AppState} {program : CheckedHandler Response}
    (answers : Answers app request program) (client : request.visit.clientIp = ip.toString)
    (safe : SafeLedger credential ip idUser ledger) :
    Ends credential ip idUser request program ledger
      (fun _ => SafeLedger credential ip idUser) := by
  cases answers with
  | loginSubmit visit form =>
      cases credential with
      | password => exact ends_loginSubmit visit form client safe
      | code => exact ends_otherSignIn visit form client safe
  | mfaVerify visit form =>
      cases credential with
      | password => exact ends_outside (uncounted_mfaVerify visit form client) rfl safe
      | code => exact ends_mfaVerify visit form client safe
  | updatePasswordAction visit form =>
      apply ends_outside _ _ safe
      · exact (unmetered_plain (unrecorded_updatePasswordAction visit form)).mono
          fun _ unmetered => uncounted_of_unmetered unmetered
      · cases credential <;> rfl
  | other noSignIn noChallenge checking expands =>
      apply ends_outside _ _ safe
      · exact checking.unmetered.mono fun _ unmetered => uncounted_of_unmetered unmetered
      · rcases request with ⟨visit, route⟩
        cases credential with
        | password =>
            cases route with
            | loginSubmit form => exact absurd rfl (noSignIn form)
            | _ => rfl
        | code =>
            cases route with
            | mfaVerify form => exact absurd rfl (noChallenge form)
            | _ => rfl

end Programs

/-- The limiters count nothing when they start. -/
theorem start_fresh {config : RateLimitConfig} {table : GcraTable} {limiting : RateLimiting}
    (started : RateLimiting.start config table = .ok limiting) :
    limiting.loginThrottle = .withDefaults ∧ limiting.attempts = fun _ => none := by
  unfold RateLimiting.start at started
  split at started
  · cases opened : RateLimiting.openBackend config with
    | error message =>
        rw [opened] at started
        cases started
    | ok persistent =>
        rw [opened] at started
        cases login : RateLimiting.openBackend (RateLimiting.loginRateLimitConfig config) with
        | error message =>
            rw [login] at started
            cases started
        | ok loginPersistent =>
            rw [login] at started
            cases started
            exact ⟨rfl, rfl⟩
  · cases started
    exact ⟨rfl, rfl⟩

/-- While only right values are checked outside of the throttled handlers and no
window starts anew too early, five wrong values stop the guessing until the
lockout is over. -/
theorem guessing_is_bounded (app : AppState) (config : RateLimitConfig) (table : GcraTable)
    (limiting : RateLimiting) (now : Reading) (credential : Credential) (ip : IpAddr)
    (idUser : Int) (ledger : Ledger) (started : RateLimiting.start config table = .ok limiting)
    (runs : Runs app ip idUser (admits credential ip idUser) ⟨limiting, now, []⟩ ledger) :
    Bounded (Ledger.evaluations credential ledger.calls) := by
  rcases start_fresh started with ⟨throttle, fresh⟩
  have initial : SafeLedger credential ip idUser ⟨limiting, now, []⟩ := by
    refine ⟨throttle, ?_⟩
    change Safe (limiting.attempts _) now.instant []
    rw [fresh]
    exact Safe.initial now.instant
  have safe : SafeLedger credential ip idUser ledger := by
    apply Serves.keeps initial _ runs
    intro request program before answered holds
    exact ends_answers answered.2 answered.1 holds
  exact safe.safe.bounded

/-! ## Playing a run -/

/-- A request with its program and with what the environment contributes. -/
structure Guess (app : AppState) (ip : IpAddr) where
  request : Request
  program : CheckedHandler Response
  input : Input
  answers : Answers app request program
  client : request.visit.clientIp = ip.toString

/-- The ledger after a program, if its calls are allowed. -/
def attend (allowed : Ledger -> Call -> Bool) (input : Input) {α : Type} :
    CheckedHandler α -> Ledger -> Option Ledger
  | .done _, ledger => some ledger
  | .call command next, ledger =>
      if ledger.now ≤ input.now then
        match (ledger.perform input command).1 with
        | none => some ledger
        | some reply =>
            if allowed ledger ⟨input.now, ⟨command, reply⟩⟩ then
              attend allowed input (next reply)
                (ledger.enter (ledger.perform input command).2 ⟨input.now, ⟨command, reply⟩⟩)
            else none
      else none

/-- The ledger after several requests. -/
def play {app : AppState} {ip : IpAddr} (idUser : Int)
    (allowed : Request -> Ledger -> Call -> Bool) : List (Guess app ip) -> Ledger -> Option Ledger
  | [], ledger => some ledger
  | guess :: later, ledger =>
      (attend (fun before call => about idUser call && allowed guess.request before call)
        guess.input guess.program ledger).bind fun after => play idUser allowed later after

theorem attend_completes {allowed : Ledger -> Call -> Bool} {input : Input} {α : Type}
    (program : CheckedHandler α) {ledger after : Ledger}
    (attended : attend allowed input program ledger = some after) :
    Exists fun outcome => Completes (Ledger.effect allowed) program ledger outcome after := by
  induction program generalizing ledger with
  | done value =>
      cases attended
      exact ⟨_, Completes.done value _⟩
  | call command next inductionHypothesis =>
      unfold attend at attended
      split at attended
      · rename_i older
        cases performed : (ledger.perform input command).1 with
        | none =>
            simp only [performed] at attended
            cases attended
            exact ⟨none, Completes.fails ⟨input, older, performed, rfl⟩⟩
        | some reply =>
            simp only [performed] at attended
            split at attended
            · rename_i met
              rcases inductionHypothesis reply attended with ⟨outcome, rest⟩
              exact ⟨outcome, Completes.step ⟨input, older, performed, met, rfl⟩ rest⟩
            · cases attended
      · cases attended

/-- What is played is a run. -/
theorem play_runs {app : AppState} {ip : IpAddr} {idUser : Int}
    {allowed : Request -> Ledger -> Call -> Bool} {start ledger after : Ledger}
    (guesses : List (Guess app ip)) (before : Runs app ip idUser allowed start ledger)
    (played : play idUser allowed guesses ledger = some after) :
    Runs app ip idUser allowed start after := by
  induction guesses generalizing ledger with
  | nil =>
      cases played
      exact before
  | cons guess later inductionHypothesis =>
      rcases Option.bind_eq_some_iff.mp played with ⟨between, attended, rest⟩
      rcases attend_completes guess.program attended with ⟨outcome, completed⟩
      exact inductionHypothesis
        (Serves.next before ⟨guess.client, guess.answers⟩ completed) rest

end Guessing

namespace Sample

open Guessing

def rootOperator : Option Operator := (root.getD Database.empty).findOperator 1

/-- The operator is signed in, and a wrong password is sent. -/
def wrongPassword : (command : CheckCommand) -> Option command.Reply
  | .inner (.spawnVerify _ _ _) => some (.ok ⟨false, none⟩)
  | .inner (.findByUsername _) | .inner (.findById _) => some rootOperator
  | .inner .record => some
      { authenticatedUserId := some 1
        authenticatedOperatorType := some "admin"
        authenticatedAuthzVersion := rootOperator.map Operator.authzVersion
        authenticatedAt := some 1000
        sessionRotatedAt := some 1000 }
  | .inner .now => some 1000
  | .inner (.noteFailure _) => some false
  | _ => none

/-- A sign-in with a wrong password. -/
def guessSignIn (systemUs : Int) (representable : 0 ≤ systemUs ∧ systemUs ≤ RateLimit.i64Max) :
    Guess app home where
  request := ⟨visit none, .loginSubmit ⟨"root", "wrong", "token"⟩⟩
  program := plain (Auth.loginSubmit app (visit none) ⟨"root", "wrong", "token"⟩)
  input := ⟨reading systemUs representable, wrongPassword⟩
  answers := Answers.loginSubmit _ _
  client := by decide

/-- A password change with a wrong current password. -/
def guessChange (systemUs : Int) (representable : 0 ≤ systemUs ∧ systemUs ≤ RateLimit.i64Max) :
    Guess app home where
  request := ⟨visit (some 7), .updatePasswordAction ⟨"1", "wrong", "Aa1!aaaaaaaaaaaa", "token"⟩⟩
  program := plain (Routes.respond app
    ⟨visit (some 7), .updatePasswordAction ⟨"1", "wrong", "Aa1!aaaaaaaaaaaa", "token"⟩⟩)
  input := ⟨reading systemUs representable, wrongPassword⟩
  answers := Answers.updatePasswordAction _ _
  client := by decide

def limits : RateLimitConfig := ⟨true, 5, 2, 2, by decide⟩

/-- Six sign-ins within ten seconds, of which the throttle refuses the last one. -/
def signIns : List (Guess app home) :=
  [guessSignIn 2000000 (by decide), guessSignIn 4000000 (by decide),
    guessSignIn 6000000 (by decide), guessSignIn 8000000 (by decide),
    guessSignIn 10000000 (by decide), guessSignIn 12000000 (by decide)]

/-- Six password changes, of which none is refused. -/
def changes : List (Guess app home) :=
  [guessChange 2000000 (by decide), guessChange 4000000 (by decide),
    guessChange 6000000 (by decide), guessChange 8000000 (by decide),
    guessChange 10000000 (by decide), guessChange 12000000 (by decide)]

/-- The limiters with these limits. -/
def limited : RateLimiting :=
  { limiting with loginPersistent := some ⟨{ onePerSecond with
    toleranceUs := 4000000
    nonnegative := by decide }, 2, 0⟩ }

theorem limited_started : RateLimiting.start limits GcraTable.empty = .ok limited := rfl

def beginning : Ledger := ⟨limited, reading 1000000 one_second, []⟩

set_option maxRecDepth 100000 in
theorem guessing_is_bounded_signIns :
    Exists fun ledger : Ledger =>
      Ledger.evaluations .password ledger.calls =
        [(10000000000, false), (8000000000, false), (6000000000, false), (4000000000, false),
          (2000000000, false)] ∧
      Bounded (Ledger.evaluations .password ledger.calls) := by
  have played : ((play 1 (admits .password home 1) signIns beginning).map fun ledger =>
      Ledger.evaluations .password ledger.calls) =
      some [(10000000000, false), (8000000000, false), (6000000000, false), (4000000000, false),
        (2000000000, false)] := by decide +kernel
  rcases Option.map_eq_some_iff.mp played with ⟨ledger, reached, evaluated⟩
  exact ⟨ledger, evaluated, guessing_is_bounded app limits GcraTable.empty limited
    (reading 1000000 one_second) .password home 1 ledger limited_started
    (play_runs signIns Serves.here reached)⟩

set_option maxRecDepth 100000 in
/-- The password change neither asks nor tells the throttle. -/
theorem guessing_unbounded_changes :
    Exists fun ledger : Ledger =>
      Runs app home 1 (fun _ _ _ => true) beginning ledger ∧
        RateLimiting.start limits GcraTable.empty = .ok beginning.limiting ∧
        ¬ Bounded (Ledger.evaluations .password ledger.calls) := by
  have played : ((play 1 (fun _ _ _ => true) changes beginning).map fun ledger =>
      Ledger.evaluations .password ledger.calls) =
      some [(12000000000, false), (10000000000, false), (8000000000, false), (6000000000, false),
        (4000000000, false), (2000000000, false)] := by decide +kernel
  rcases Option.map_eq_some_iff.mp played with ⟨ledger, reached, evaluated⟩
  refine ⟨ledger, play_runs changes Serves.here reached, limited_started, ?_⟩
  intro bounded
  rw [evaluated] at bounded
  have five : Burst [(10000000000, false), (8000000000, false), (6000000000, false),
      (4000000000, false), (2000000000, false)] := by
    constructor
    · rfl
    · decide
    · have near : forall checked, checked ∈ [((10000000000 : Int), false), (8000000000, false),
          (6000000000, false), (4000000000, false), (2000000000, false)] ->
          0 ≤ checked.1 ∧ checked.1 ≤ window := by decide
      intro checked other inside among
      have early := near checked inside
      have late := near other among
      omega
  have late := bounded [(12000000000, false)] _ [] rfl five (12000000000, false)
    (10000000000, false) List.mem_cons_self List.mem_cons_self
  revert late
  decide

end Sample
end KrakenUi
