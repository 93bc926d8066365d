import KrakenUi.Controllers.Mfa
import KrakenUi.Net.IpAddr
import KrakenUi.Security.LoginThrottle
import KrakenUi.Services.RateLimit

namespace KrakenUi

open Interaction Net RateLimit

/-!
# The rate limiting that requests go through

Every request passes the request limiter.  A sign-in attempt and an answer to
the code challenge are then handled by the same programs as on the console, with
the questions to the throttles answered by the shared limiters.  Whatever
else a handler asks, the answer comes with the event: the session, the stored
operators, the verdict on a password or on a code.

Requests of several clients are interleaved call by call.  A call takes the
system clock for the persistent limiters and the monotonic clock for the login
throttle.  The backends do not fail.
-/

/-- The configured numbers of the persistent limiters. -/
structure RateLimitConfig where
  enabled : Bool
  requestsPerSecond : UInt32
  burstSize : UInt32
  cleanupIntervalRequests : Nat
  cleaning : 0 < cleanupIntervalRequests

/-- Both clocks, as a call reads them. -/
structure Reading where
  systemUs : Int
  instant : Int
  representable : 0 ≤ systemUs ∧ systemUs ≤ i64Max

namespace Reading

instance : Preorder Reading where
  le earlier later := earlier.systemUs ≤ later.systemUs ∧ earlier.instant ≤ later.instant
  le_refl reading := ⟨le_refl _, le_refl _⟩
  le_trans _ _ _ first second := ⟨le_trans first.1 second.1, le_trans first.2 second.2⟩

instance (earlier later : Reading) : Decidable (earlier ≤ later) :=
  inferInstanceAs (Decidable (earlier.systemUs ≤ later.systemUs ∧ earlier.instant ≤ later.instant))

end Reading

/-- The limiters and the throttle.  Both limiters use the same table, and the
throttle keeps its entries longer than they matter. -/
structure RateLimiting where
  table : GcraTable
  persistent : Option SqliteBackend
  loginPersistent : Option SqliteBackend
  loginThrottle : LoginThrottle
  attempts : Attempts
  moderate : loginThrottle.Moderate

namespace RateLimiting

def loginRateLimitConfig (config : RateLimitConfig) : RateLimitConfig :=
  { config with requestsPerSecond := 1, burstSize := 5 }

/-- `PersistentRateLimiter::from_config` for the SQLite backend. -/
def openBackend (config : RateLimitConfig) : Except String SqliteBackend := do
  let rate ← GcraRate.new config.requestsPerSecond config.burstSize
  return ⟨rate, config.cleanupIntervalRequests, 0⟩

/-- The limiters as the application starts them on a table. -/
def start (config : RateLimitConfig) (table : GcraTable) : Except String RateLimiting :=
  if config.enabled then do
    let persistent ← openBackend config
    let loginPersistent ← openBackend (loginRateLimitConfig config)
    return ⟨table, some persistent, some loginPersistent, .withDefaults, fun _ => none,
      LoginThrottle.moderate_withDefaults⟩
  else return ⟨table, none, none, .withDefaults, fun _ => none,
    LoginThrottle.moderate_withDefaults⟩

/-- The request limiter; nothing is decided when it is disabled. -/
def checkRequest (now : Reading) (key : String) (limiting : RateLimiting) :
    Option RateLimitDecision × RateLimiting :=
  match limiting.persistent with
  | none => (none, limiting)
  | some backend =>
      let outcome := backend.check now.systemUs key limiting.table
      (some outcome.1, { limiting with persistent := some outcome.2.1, table := outcome.2.2 })

def checkLogin (now : Reading) (key : String) (limiting : RateLimiting) :
    Option RateLimitDecision × RateLimiting :=
  match limiting.loginPersistent with
  | none => (none, limiting)
  | some backend =>
      let outcome := backend.check now.systemUs key limiting.table
      (some outcome.1, { limiting with loginPersistent := some outcome.2.1, table := outcome.2.2 })

end RateLimiting

/-- What can be seen of a call: the decision of a limiter or of the throttle, with
the exact time to wait. -/
inductive Answer where
  | request (decision : Option RateLimitDecision)
  | login (decision : Option RateLimitDecision)
  | locked (remaining : Option Int)
  | failure (lockout : Option Int)
  | unthrottled
  deriving DecidableEq

namespace RateLimiting

/-- `Duration::as_secs`, from microseconds. -/
def secondsOfMicros (micros : Nat) : Nat := micros / 1000000

/-- `Duration::as_secs`, from nanoseconds. -/
def secondsOfNanos (nanos : Int) : Nat := nanos.toNat / 1000000000

/-- What a rejected check tells the handler. -/
def retryAfter (decision : Option RateLimitDecision) : Option Nat :=
  (decision.filter fun decision => !decision.allowed).map fun decision =>
    secondsOfMicros decision.retryAfter

/-- One call of a handler: what can be seen, the limiters after it, and the
reply, unless the environment makes the call fail. -/
def perform (now : Reading) (environment : (command : Command) -> Option command.Reply)
    (limiting : RateLimiting) : (command : Command) ->
      Answer × RateLimiting × Option command.Reply
  | .lockedFor key =>
      let outcome := LoginThrottle.lockedFor now.instant key limiting.attempts
      (.locked outcome.1, { limiting with attempts := outcome.2 },
        some (outcome.1.map secondsOfNanos))
  | .retryAfter key =>
      let outcome := limiting.checkLogin now key
      (.login outcome.1, outcome.2, some (retryAfter outcome.1))
  | .recordFailure key =>
      let outcome := limiting.loginThrottle.recordFailure now.instant key limiting.attempts
      (.failure outcome.1, { limiting with attempts := outcome.2 }, some ())
  | .recordSuccess key =>
      (.unthrottled,
        { limiting with attempts := LoginThrottle.recordSuccess key limiting.attempts }, some ())
  | command => (.unthrottled, limiting, environment command)

end RateLimiting

/-- What a client sends.  The parts that do not matter here are in `other`. -/
inductive Arrival where
  | other
  | login (cookie : Option SessionId) (token : Csrf.Token) (form : LoginForm)
  | code (cookie : Option SessionId) (token : Csrf.Token) (form : MfaCodeForm)

/-- A request arrives, or the handler of one makes its next call. -/
inductive Happening where
  | arrive (ticket : Nat) (arrival : Arrival)
  | step (ticket : Nat) (environment : (command : Command) -> Option command.Reply)

/-- An event of one effective client address. -/
structure ClientEvent where
  ip : IpAddr
  now : Reading
  happening : Happening

/-- The limiters and the handlers in progress, by client and ticket. -/
structure Traffic where
  limiting : RateLimiting
  handlers : IpAddr -> Nat -> Option (Handler Response)

namespace Traffic

def idle (limiting : RateLimiting) : Traffic := ⟨limiting, fun _ _ => none⟩

def setHandler (traffic : Traffic) (ip : IpAddr) (ticket : Nat)
    (handler : Option (Handler Response)) : Traffic :=
  { traffic with handlers := fun client number =>
      if client = ip ∧ number = ticket then handler else traffic.handlers client number }

/-- The program that handles a request once the request limiter let it through. -/
def handler (app : AppState) (ip : IpAddr) : Arrival -> Handler Response
  | .other => pure .page
  | .login cookie token form => Auth.loginSubmit app ⟨cookie, ip.toString, token⟩ form
  | .code cookie token form => Auth.mfaVerify app ⟨cookie, ip.toString, token⟩ form

/-- One event: what can be seen of it, and the traffic after it. -/
def react (app : AppState) (traffic : Traffic) (event : ClientEvent) : Answer × Traffic :=
  match event.happening with
  | .arrive ticket arrival =>
      let outcome := traffic.limiting.checkRequest event.now event.ip.toString
      let traffic := { traffic with limiting := outcome.2 }
      (.request outcome.1,
        if outcome.1.all RateLimitDecision.allowed then
          traffic.setHandler event.ip ticket (some (handler app event.ip arrival))
        else traffic)
  | .step ticket environment =>
      match traffic.handlers event.ip ticket with
      | some (.call command next) =>
          let outcome := traffic.limiting.perform event.now environment command
          (outcome.1, ({ traffic with limiting := outcome.2.1 }).setHandler event.ip ticket
            (outcome.2.2.map next))
      | _ => (.unthrottled, traffic)

end Traffic
end KrakenUi
