import KrakenUi.Services.RateLimit
import KrakenUi.Text

namespace KrakenUi

/-!
# The rate-limit middleware

A request over its limit is answered with a status, a text and the number of
seconds after which the client may come back.  The number is written in decimal,
so that it is always a value that a header can have.
-/

namespace Middleware

/-- A response with the headers that the middleware sets. -/
structure Refusal where
  status : Nat
  body : String
  retryAfter : Option String
  deriving DecidableEq, Repr

/-- The number of seconds put into the header: `as_secs().max(1)`, from microseconds. -/
def retrySeconds (retryAfter : Nat) : Nat := max (retryAfter / 1000000) 1

/-- `rate_limited`. -/
def rateLimited (retryAfter : Nat) : Refusal where
  status := 429
  body := "Too many requests"
  retryAfter := some (toString (retrySeconds retryAfter))

/-- What the middleware answers to the decision of the persistent limiter, if
it does not go on with the request. -/
def refuse (decision : RateLimitDecision) : Option Refusal :=
  if decision.allowed then none else some (rateLimited decision.retryAfter)

/-- The seconds that a client reads in the header. -/
def Refusal.seconds (refusal : Refusal) : Option Nat :=
  refusal.retryAfter.bind fun value => Text.parseDigits value.toList

/-- The client reads the number that was written. -/
@[simp] theorem seconds_rateLimited (retryAfter : Nat) :
    (rateLimited retryAfter).seconds = some (retrySeconds retryAfter) := by
  change Text.parseDigits (toString (retrySeconds retryAfter)).toList = _
  rw [← Text.parseDigits_toDigits (retrySeconds retryAfter)]
  congr 1
  exact String.toList_ofList

/-- A wait of at most a second is over when the header says so. -/
theorem le_retrySeconds {retryAfter : Nat} (short : retryAfter ≤ 1000000) :
    retryAfter ≤ retrySeconds retryAfter * 1000000 := by
  unfold retrySeconds
  omega

end Middleware
end KrakenUi
