import KrakenUi.Services.RateLimit
import KrakenUi.Text

namespace KrakenUi

/-!
# The rate-limit settings

The settings are read from a file and checked before anything uses them.  Only
the fields that the check reads are kept here, and whether the limits are in
force at all.
-/

inductive BackendKind where
  | sqlite
  | redis
  deriving DecidableEq, Repr

structure SqliteConfig where
  path : String
  busyTimeoutMs : Nat
  cleanupIntervalRequests : Nat

structure RedisConfig where
  host : String
  tls : Bool
  keyPrefix : String
  connectTimeoutSecs : Nat
  responseTimeoutSecs : Nat

/-- The file `ratelimit.yaml`, as it is read. -/
structure RateLimitSettings where
  enabled : Bool
  requestsPerSecond : UInt32
  burstSize : UInt32
  maxCoroutinesPerIp : Nat
  tlsHandshakeTimeoutSecs : Nat
  connectionTimeoutSecs : Nat
  maxTrackedIps : Nat
  backend : BackendKind
  sqlite : SqliteConfig
  redis : RedisConfig

namespace RateLimitSettings

/-- The characters of a key prefix. -/
def isPrefixCharacter (character : Char) : Bool :=
  Text.isAsciiAlphanumeric character || [':', '-', '_'].contains character

/-- `RateLimitConfig::validate`. -/
def validate (settings : RateLimitSettings) : Except String Unit :=
  if settings.requestsPerSecond = 0 ∨ settings.burstSize = 0 ∨ settings.maxCoroutinesPerIp = 0 ∨
      settings.tlsHandshakeTimeoutSecs = 0 ∨ settings.connectionTimeoutSecs = 0 ∨
      settings.maxTrackedIps = 0 then
    .error "rate-limit numeric limits must be greater than zero"
  else if Text.isEmpty settings.sqlite.path ∨ settings.sqlite.busyTimeoutMs = 0 ∨
      settings.sqlite.cleanupIntervalRequests = 0 then
    .error "SQLite rate-limit settings must be non-empty and greater than zero"
  else if Text.isEmpty (Text.trim settings.redis.host) ∨ Text.isEmpty settings.redis.keyPrefix ∨
      settings.redis.connectTimeoutSecs = 0 ∨ settings.redis.responseTimeoutSecs = 0 then
    .error "Redis rate-limit settings must be non-empty and greater than zero"
  else if ¬ settings.redis.keyPrefix.toList.all isPrefixCharacter then
    .error "redis.key_prefix may contain only ASCII letters, digits, ':', '-' and '_'"
  else if settings.backend = .redis ∧ ¬ settings.redis.tls then
    .error "Redis rate-limit backend requires TLS; redis.tls must be true"
  else .ok ()

/-- The numbers of accepted settings are not zero. -/
theorem positive_of_validate {settings : RateLimitSettings} (valid : settings.validate = .ok ()) :
    settings.requestsPerSecond ≠ 0 ∧ settings.burstSize ≠ 0 ∧
      0 < settings.maxCoroutinesPerIp ∧ 0 < settings.sqlite.cleanupIntervalRequests := by
  unfold validate at valid
  split at valid
  · cases valid
  · rename_i numbers
    split at valid
    · cases valid
    · rename_i table
      refine ⟨fun zero => numbers (Or.inl zero), fun zero => numbers (Or.inr (Or.inl zero)), ?_, ?_⟩
      · apply Nat.pos_of_ne_zero
        exact fun zero => numbers (Or.inr (Or.inr (Or.inl zero)))
      · apply Nat.pos_of_ne_zero
        exact fun zero => table (Or.inr (Or.inr zero))

end RateLimitSettings

/-- The settings as the application runs with them. -/
structure LoadedSettings extends RateLimitSettings where
  valid : toRateLimitSettings.validate = .ok ()

namespace LoadedSettings

/-- The rate of the persistent limiter. -/
def rate (settings : LoadedSettings) : Except String GcraRate :=
  GcraRate.new settings.requestsPerSecond settings.burstSize

/-- The limiter starts unless the rate is above one request per microsecond. -/
theorem rate_accepted_iff (settings : LoadedSettings) :
    (Exists fun rate => settings.rate = .ok rate) ↔
      settings.requestsPerSecond.toNat ≤ 1000000 := by
  rcases RateLimitSettings.positive_of_validate settings.valid with ⟨some, burst, -, -⟩
  exact GcraRate.accepted_iff some burst

end LoadedSettings
end KrakenUi
