import KrakenUi.Controllers.Repository

namespace KrakenUi

open Interaction Text

/-!
# The authentication controller

Sign-in in one or two steps, the session keys it writes, and the check that
every guarded route makes.  The order of the calls is the order of the source,
because every call is a point where other requests can intervene.
-/

/-- What a handler answers, as far as handlers differ in it. -/
inductive Response where
  | redirect (path : String)
  | status (code : Nat) (body : String)
  | login (errorMessage : String)
  | mfaChallenge (errorMessage : String)
  | addUser (message messageClass : String)
  | deleteUser (userIdentity message messageClass : String)
  | editSearch (message messageClass : String)
  | editOperator (operator : Operator) (message messageClass : String)
  | password (operator : Operator) (showForm : Bool) (message messageClass : String)
  | mfaOverview (operator : Operator) (enabled : Bool) (remainingRecoveryCodes : Nat)
      (message messageClass : String)
  | mfaEnroll (operator : Operator) (enrollment : MfaEnrollment) (message messageClass : String)
  | mfaRecovery (operator : Operator) (recoveryCodes : List String) (message : String)
  | page

namespace Response

def csrfError : Response := status 403 "The form expired or the CSRF token is invalid"

def unauthorized : Response := status 401 ""

def toLogin : Response := redirect "/kraken_ui/login"

end Response

/-- The parts of a request that do not depend on the route. -/
structure Visit where
  cookie : Option SessionId
  clientIp : String
  token : Csrf.Token

structure LoginForm where
  login : String
  password : String
  csrfToken : String

structure MfaCodeForm where
  code : String
  csrfToken : String

namespace Auth

def sessionRotationIntervalSeconds : Int := 15 * 60

def stepUpFreshnessSeconds : Int := 5 * 60

def mfaPendingTtlSeconds : Int := 5 * 60

def i64Min : Int := -2 ^ 63

def i64Max : Int := 2 ^ 63 - 1

/-- `i64::saturating_sub`. -/
def saturatingSub (left right : Int) : Int :=
  max i64Min (min i64Max (left - right))

def isConsoleRole (operatorType : String) : Bool :=
  (OperatorRole.parse operatorType).any OperatorRole.canUseConsole

def authenticatedUserId : Handler (Option Int) := do
  return (← call .record).authenticatedUserId

def authenticatedOperatorType : Handler (Option String) := do
  return (← call .record).authenticatedOperatorType

def authenticatedAuthzVersion : Handler (Option Int) := do
  return (← call .record).authenticatedAuthzVersion

def authenticatedUsername : Handler (Option String) := do
  return (← call .record).authenticatedUsername

def authenticatedRole : Handler (Option OperatorRole) := do
  return (← authenticatedOperatorType).bind OperatorRole.parse

def rotateSessionIdIfDue (now : Int) : Handler Unit := do
  match (← call .record).sessionRotatedAt with
  | none => call (.insert (.sessionRotatedAt now))
  | some rotatedAt =>
      if saturatingSub now rotatedAt < sessionRotationIntervalSeconds then pure ()
      else do
        call .cycleId
        call (.insert (.sessionRotatedAt now))

/-- Give up the session and refuse. -/
def refuse : Handler (Option OperatorRole) := do
  call .flush
  pure none

/-- The limit as the source compares it, cut at the largest `i64`. -/
def absoluteLimit (app : AppState) : Int :=
  min (app.adminSessionTimeLimitSeconds : Int) i64Max

def authorizedRole (app : AppState) : Handler (Option OperatorRole) := do
  match ← authenticatedUserId with
  | none => pure none
  | some idUser => do
    match ← authenticatedRole with
    | none => refuse
    | some sessionRole => do
      match ← authenticatedAuthzVersion with
      | none => refuse
      | some sessionAuthzVersion => do
        match (← call .record).authenticatedAt with
        | none => refuse
        | some authenticatedAt => do
          let now ← call .now
          if absoluteLimit app ≤ saturatingSub now authenticatedAt then refuse
          else do
            match ← call (.findById idUser) with
            | none => refuse
            | some operator =>
              match operator.role with
              | none => refuse
              | some currentRole =>
                if currentRole ≠ sessionRole ∨ operator.authzVersion ≠ sessionAuthzVersion then
                  refuse
                else do
                  rotateSessionIdIfDue now
                  pure (some currentRole)

def isAdmin : Handler Bool := do
  return (← authenticatedRole).any OperatorRole.canAdminister

/-- The identity keys, read by every later guard. -/
def syncSessionIdentity (app : AppState) (operator : Operator) : Handler Unit := do
  call (.insert (.authenticatedUserId operator.idUser))
  call (.insert (.authenticatedUsername (Sanitize.plainText app.clean operator.username)))
  call (.insert (.authenticatedOperatorType (Sanitize.plainText app.clean operator.operatorType)))
  call (.insert (.authenticatedAuthzVersion operator.authzVersion))

def establishSession (app : AppState) (operator : Operator) : Handler Unit := do
  let now ← call .now
  call .cycleId
  syncSessionIdentity app operator
  call (.insert (.authenticatedAt now))
  call (.insert (.reauthenticatedAt now))
  call (.insert (.sessionRotatedAt now))

def refreshAuthenticatedSession (app : AppState) (operator : Operator) : Handler Unit :=
  syncSessionIdentity app operator

def markReauthenticated : Handler Int := do
  let now ← call .now
  call (.insert (.reauthenticatedAt now))
  pure now

def reauthenticatedWithin (maxAgeSeconds : Int) : Handler Bool := do
  match (← call .record).reauthenticatedAt with
  | none => pure false
  | some reauthenticatedAt => do
      let now ← call .now
      pure (decide (saturatingSub now reauthenticatedAt ≤ maxAgeSeconds))

def clearMfaPending : Handler Unit := do
  call (.remove .mfaPendingUserId)
  call (.remove .mfaPendingAt)

/-- The account that owes a second factor, while its marker is fresh. -/
def mfaPendingUserId : Handler (Option Int) := do
  match (← call .record).mfaPendingUserId with
  | none => pure none
  | some idUser => do
      let startedAt := (← call .record).mfaPendingAt.getD 0
      let now ← call .now
      if startedAt = 0 ∨ mfaPendingTtlSeconds < saturatingSub now startedAt then do
        clearMfaPending
        pure none
      else pure (some idUser)

def registerLoginFailure (ipKey ipUserKey username : String) : Handler Unit := do
  call (.recordFailure ipKey)
  call (.recordFailure ipUserKey)
  if isEmpty username then pure ()
  else do
    let _suspected ← call (.noteFailure username)
    pure ()

/-- The text of a lockout, rounded up to minutes. -/
def lockedMessage (remaining : Nat) : String :=
  "Too many attempts. Try again in about " ++ toString (max ((remaining + 59) / 60) 1) ++
    " minute(s)."

def invalidLogin : Response := .login "Invalid credentials"

def loginPage (app : AppState) : Handler Response := do
  if (← authorizedRole app).any OperatorRole.canUseConsole then
    return .redirect "/kraken_ui/auth/admin_panel"
  else return .login ""

/-- The part of a sign-in after the password has been accepted. -/
def finishLogin (app : AppState) (ipKey ipUserKey : String) (operator : Operator) :
    Handler Response :=
  if !isConsoleRole operator.operatorType then pure invalidLogin
  else do
    call (.recordSuccess ipKey)
    call (.recordSuccess ipUserKey)
    if ← OperatorMfaRepository.isEnabled operator.idUser then do
      call .cycleId
      call (.insert (.mfaPendingUserId operator.idUser))
      let now ← call .now
      call (.insert (.mfaPendingAt now))
      pure (.redirect "/kraken_ui/auth/mfa_challenge")
    else do
      OperatorRepository.recordAuthenticated operator.idUser
      establishSession app operator
      pure (.redirect "/kraken_ui/auth/admin_panel")

/-- The part of a sign-in after the throttles. -/
def checkPassword (app : AppState) (ipKey ipUserKey username password : String) :
    Handler Response :=
  if 128 < len username ∨ 256 < len password ∨
      Sanitize.secretHasRejectedMarkup app.clean password = true then do
    registerLoginFailure ipKey ipUserKey username
    pure invalidLogin
  else do
    match ← call (.findByUsername username) with
    | none => do
        call (.spawnDummy password)
        registerLoginFailure ipKey ipUserKey username
        pure invalidLogin
    | some operator => do
        match ← call (.spawnVerify operator.idUser operator.encryptedPasswordHash password) with
        | .error _ => do
            registerLoginFailure ipKey ipUserKey username
            pure invalidLogin
        | .ok verification =>
            if !verification.valid then do
              registerLoginFailure ipKey ipUserKey username
              pure invalidLogin
            else do
              match verification.replacementRecord with
              | some replacement =>
                  OperatorRepository.updateEncryptedPassword operator.idUser replacement
              | none => pure ()
              finishLogin app ipKey ipUserKey operator

def loginSubmit (app : AppState) (visit : Visit) (form : LoginForm) : Handler Response :=
  if !Csrf.verify visit.token form.csrfToken then pure Response.csrfError
  else do
    let ipKey := "ip:" ++ visit.clientIp
    match ← call (.lockedFor ipKey) with
    | some remaining => pure (.login (lockedMessage remaining))
    | none => do
      match ← call (.retryAfter ("login:" ++ ipKey)) with
      | some remaining => pure (.login (lockedMessage remaining))
      | none => do
        let username := toAsciiLowercase (Sanitize.plainText app.clean form.login)
        let ipUserKey := "ip:" ++ visit.clientIp ++ "|user:" ++ username
        match ← call (.lockedFor ipUserKey) with
        | some remaining => pure (.login (lockedMessage remaining))
        | none => do
          match ← call (.retryAfter ("login:" ++ ipUserKey)) with
          | some remaining => pure (.login (lockedMessage remaining))
          | none => checkPassword app ipKey ipUserKey username form.password

def mfaChallengePage : Handler Response := do
  match ← mfaPendingUserId with
  | none => pure Response.toLogin
  | some _ => pure (.mfaChallenge "")

/-- The second step after the code has been accepted. -/
def finishMfa (app : AppState) (throttleKey : String) (operator : Operator) : Handler Response :=
  if !isConsoleRole operator.operatorType then do
    call .flush
    pure Response.toLogin
  else do
    call (.recordSuccess throttleKey)
    OperatorRepository.recordAuthenticated operator.idUser
    clearMfaPending
    establishSession app operator
    pure (.redirect "/kraken_ui/auth/admin_panel")

def checkCode (app : AppState) (throttleKey code : String) (idUser : Int) : Handler Response := do
  match ← call (.findById idUser) with
  | none => do
      call .flush
      pure Response.toLogin
  | some operator => do
      let accepted ←
        (if 32 < len code then pure false
        else OperatorMfaRepository.verifyLoginCode app idUser code)
      if !accepted then do
        call (.recordFailure throttleKey)
        pure (.mfaChallenge "Invalid or expired code")
      else finishMfa app throttleKey operator

def mfaVerify (app : AppState) (visit : Visit) (form : MfaCodeForm) : Handler Response :=
  if !Csrf.verify visit.token form.csrfToken then pure Response.csrfError
  else do
    match ← mfaPendingUserId with
    | none => pure Response.toLogin
    | some idUser => do
      let throttleKey := "mfa:" ++ visit.clientIp ++ "|user:" ++ toString idUser
      match ← call (.lockedFor throttleKey) with
      | some remaining => pure (.mfaChallenge (lockedMessage remaining))
      | none => do
        match ← call (.retryAfter ("login:" ++ throttleKey)) with
        | some remaining => pure (.mfaChallenge (lockedMessage remaining))
        | none => checkCode app throttleKey (Sanitize.plainText app.clean form.code) idUser

def logout (visit : Visit) (csrfToken : String) : Handler Response :=
  if !Csrf.verify visit.token csrfToken then pure Response.csrfError
  else do
    let _username ← authenticatedUsername
    call .flush
    pure Response.toLogin

end Auth
end KrakenUi
