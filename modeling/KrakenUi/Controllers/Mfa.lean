import KrakenUi.Controllers.Auth
import KrakenUi.Encoding.Base64

namespace KrakenUi

open Interaction Text

/-!
# Step-up authentication and the second-factor pages

`StepUp.verify` asks for the password again, and for a code when two-factor is
on, before a sensitive operation.  The second-factor pages are its main user.
Whether a code is owed, whether two-factor is already on, and the transaction
that replaces or deletes the stored row are separate calls.
-/

inductive StepUpOutcome where
  | verified (operator : Operator)
  | unauthorized
  | rejected (message : String)

namespace StepUp

def incorrectPassword : StepUpOutcome := .rejected "The current password is incorrect."

/-- The last part: record the step-up and check its own freshness. -/
def finish (operator : Operator) : Handler StepUpOutcome := do
  OperatorRepository.recordReauthenticated operator.idUser
  let _now ← Auth.markReauthenticated
  if ← Auth.reauthenticatedWithin Auth.stepUpFreshnessSeconds then pure (.verified operator)
  else pure .unauthorized

def verify (app : AppState) (currentPassword mfaCode : String) : Handler StepUpOutcome := do
  match ← Auth.authenticatedUserId with
  | none => pure .unauthorized
  | some idUser => do
    match ← call (.findById idUser) with
    | none => pure .unauthorized
    | some operator =>
      if isEmpty currentPassword ∨ 256 < len currentPassword ∨
          Sanitize.secretHasRejectedMarkup app.clean currentPassword = true then
        pure incorrectPassword
      else do
        match ← call (.spawnVerify operator.idUser operator.encryptedPasswordHash
            currentPassword) with
        | .error message => raise message
        | .ok verification =>
          if !verification.valid then pure incorrectPassword
          else do
            if ← OperatorMfaRepository.isEnabled operator.idUser then
              let code := Sanitize.plainText app.clean mfaCode
              if isEmpty code then pure (.rejected "Enter your current two-factor code.")
              else do
                let accepted ←
                  (if 32 < len code then pure false
                  else OperatorMfaRepository.verifyLoginCode app operator.idUser code)
                if !accepted then
                  pure (.rejected "The two-factor code is invalid or expired.")
                else finish operator
            else finish operator

end StepUp

structure StepUpForm where
  csrfToken : String
  currentPassword : String
  mfaCode : String

structure ConfirmForm where
  code : String
  csrfToken : String

namespace MfaPages

def currentOperator : Handler (Option Operator) := do
  match ← Auth.authenticatedUserId with
  | none => pure none
  | some idUser => call (.findById idUser)

def refreshCurrentSession (app : AppState) (idUser : Int) : Handler Operator := do
  match ← call (.findById idUser) with
  | none => raise "operator disappeared after MFA update"
  | some operator => do
      Auth.refreshAuthenticatedSession app operator
      pure operator

def renderOverview (operator : Operator) (message messageClass : String) : Handler Response := do
  let status ← OperatorMfaRepository.status operator.idUser
  pure (.mfaOverview operator status.1 status.2 message messageClass)

/-- What the three step-up pages show when the step-up is refused. -/
def renderRejected (message : String) : Handler Response := do
  match ← currentOperator with
  | none => pure Response.unauthorized
  | some operator => renderOverview operator message "error"

def mfaOverview (app : AppState) : Handler Response := do
  match ← currentOperator with
  | none => pure Response.unauthorized
  | some operator => do
    match ← OperatorMfaRepository.pendingEnrollment app operator.idUser operator.username with
    | some enrollment =>
        pure (.mfaEnroll operator enrollment
          "Finish confirming the current authenticator code to enable two-factor." "")
    | none => renderOverview operator "" ""

def mfaEnroll (app : AppState) (visit : Visit) (form : StepUpForm) : Handler Response :=
  if !Csrf.verify visit.token form.csrfToken then pure Response.csrfError
  else do
    match ← StepUp.verify app form.currentPassword form.mfaCode with
    | .unauthorized => pure Response.unauthorized
    | .rejected message => renderRejected message
    | .verified operator => do
      if ← OperatorMfaRepository.isEnabled operator.idUser then
        renderOverview operator "Two-factor authentication is already enabled." "error"
      else do
        let enrollment ←
          OperatorMfaRepository.beginEnrollment app operator.idUser operator.username
        pure (.mfaEnroll operator enrollment
          "Add the account to your authenticator, then enter the current code." "")

/-- The pending enrollment is shown again after a wrong code. -/
def renderInvalidCode (app : AppState) (operator : Operator) : Handler Response := do
  match ← OperatorMfaRepository.pendingEnrollment app operator.idUser operator.username with
  | some enrollment =>
      pure (.mfaEnroll operator enrollment
        "That code was not correct. Check the time on your device and try again." "error")
  | none => renderOverview operator "Enrollment expired. Start again." "error"

def mfaConfirm (app : AppState) (visit : Visit) (form : ConfirmForm) : Handler Response :=
  if !Csrf.verify visit.token form.csrfToken then pure Response.csrfError
  else do
    match ← currentOperator with
    | none => pure Response.unauthorized
    | some operator => do
      let code := Sanitize.plainText app.clean form.code
      match ← OperatorMfaRepository.confirm app operator.idUser code with
      | .confirmed recoveryCodes => do
          let refreshed ← refreshCurrentSession app operator.idUser
          pure (.mfaRecovery refreshed recoveryCodes "Two-factor authentication enabled.")
      | .invalidCode => renderInvalidCode app operator
      | .noPendingEnrollment =>
          renderOverview operator "Start enrollment before confirming a code." "error"

def mfaDisable (app : AppState) (visit : Visit) (form : StepUpForm) : Handler Response :=
  if !Csrf.verify visit.token form.csrfToken then pure Response.csrfError
  else do
    match ← StepUp.verify app form.currentPassword form.mfaCode with
    | .unauthorized => pure Response.unauthorized
    | .rejected message => renderRejected message
    | .verified operator => do
      call (.disable operator.idUser)
      let refreshed ← refreshCurrentSession app operator.idUser
      renderOverview refreshed "Two-factor authentication disabled." "success"

def mfaRegenerate (app : AppState) (visit : Visit) (form : StepUpForm) : Handler Response :=
  if !Csrf.verify visit.token form.csrfToken then pure Response.csrfError
  else do
    match ← StepUp.verify app form.currentPassword form.mfaCode with
    | .unauthorized => pure Response.unauthorized
    | .rejected message => renderRejected message
    | .verified operator => do
      match ← call (.regenerateRecoveryCodes operator.idUser) with
      | some recoveryCodes => do
          let refreshed ← refreshCurrentSession app operator.idUser
          pure (.mfaRecovery refreshed recoveryCodes
            "New recovery codes generated. The previous codes no longer work.")
      | none => renderOverview operator "Enable two-factor authentication first." "error"

/-- The page with new codes links to a file of them, which is the link itself. -/
def recoveryCodesDownloadDataUrl (recoveryCodes : List String) : String :=
  let fileContents :=
    "KrakenWAF recovery codes\n\n" ++ "\n".intercalate recoveryCodes ++ "\n"
  "data:text/plain;charset=utf-8;base64," ++
    String.ofList (Base64.standard.spell fileContents.toUTF8.data.toList)

end MfaPages
end KrakenUi
