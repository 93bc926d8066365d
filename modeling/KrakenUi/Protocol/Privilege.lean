import KrakenUi.Protocol.Idle

namespace KrakenUi

open Interaction

/-!
# Programs without privilege

Nine commands change who may do what: they write accounts, turn the second factor
on or off, replace recovery codes or start the update of the console itself.  A
program is unprivileged when it issues none of them.  Signing in, signing out, the
guard and the step-up are unprivileged, and so is every page.
-/

namespace Privilege

variable {app : AppState} {α : Type}

/-- The command changes no account, no second factor and not the program. -/
def Unprivileged : Command -> Prop
  | .create _ | .update _ _ _ | .updatePassword _ _ | .deleteById _ => False
  | .beginEnrollment _ _ | .confirmEnrollment _ _ _ | .disable _ | .regenerateRecoveryCodes _ => False
  | .startSourceUpdate => False
  | _ => True

theorem unprivileged_verifying {program : Handler α} (only : program.Only Idling.Verifying) :
    program.Only Unprivileged := by
  apply only.mono
  intro command verifying
  cases command <;> first | exact True.intro | exact verifying.elim

/-! ## Sessions -/

theorem unprivileged_record (read : SessionData -> α) :
    (do return read (← call .record) : Handler α).Only Unprivileged :=
  only_step True.intro fun _ => only_value _ _

theorem unprivileged_clearMfaPending : Auth.clearMfaPending.Only Unprivileged :=
  only_step True.intro fun _ => only_command _ True.intro

theorem unprivileged_mfaPendingUserId : Auth.mfaPendingUserId.Only Unprivileged := by
  apply only_step True.intro
  intro data
  split
  · exact only_value _ _
  apply only_step True.intro
  intro again
  apply only_step True.intro
  intro now
  split
  · exact unprivileged_clearMfaPending.bind fun _ => only_value _ _
  · exact only_value _ _

theorem unprivileged_rotateSessionIdIfDue (now : Int) :
    (Auth.rotateSessionIdIfDue now).Only Unprivileged := by
  apply only_step True.intro
  intro data
  split
  · exact only_command _ True.intro
  split
  · exact only_value _ _
  · exact only_step True.intro fun _ => only_command _ True.intro

theorem unprivileged_refuse : Auth.refuse.Only Unprivileged :=
  only_step True.intro fun _ => only_value _ _

theorem unprivileged_authorizedRole : (Auth.authorizedRole app).Only Unprivileged := by
  apply (unprivileged_record SessionData.authenticatedUserId).bind
  intro named
  split
  · exact only_value _ _
  apply ((unprivileged_record SessionData.authenticatedOperatorType).bind
    fun _ => only_value _ _).bind
  intro role
  split
  · exact unprivileged_refuse
  apply (unprivileged_record SessionData.authenticatedAuthzVersion).bind
  intro version
  split
  · exact unprivileged_refuse
  apply only_step True.intro
  intro data
  split
  · exact unprivileged_refuse
  apply only_step True.intro
  intro now
  split
  · exact unprivileged_refuse
  apply only_step True.intro
  intro found
  split
  · exact unprivileged_refuse
  split
  · exact unprivileged_refuse
  split
  · exact unprivileged_refuse
  · exact (unprivileged_rotateSessionIdIfDue now).bind fun _ => only_value _ _

theorem unprivileged_syncSessionIdentity (operator : Operator) :
    (Auth.syncSessionIdentity app operator).Only Unprivileged :=
  only_step True.intro fun _ => only_step True.intro fun _ =>
    only_step True.intro fun _ => only_command _ True.intro

theorem unprivileged_establishSession (operator : Operator) :
    (Auth.establishSession app operator).Only Unprivileged := by
  apply only_step True.intro
  intro now
  apply only_step True.intro
  intro _
  apply (unprivileged_syncSessionIdentity operator).bind
  intro _
  exact only_step True.intro fun _ => only_step True.intro fun _ => only_command _ True.intro

/-! ## Repositories -/

theorem unprivileged_updateEncryptedPassword (idUser : Int) (encryptedPasswordHash : String) :
    (OperatorRepository.updateEncryptedPassword idUser encryptedPasswordHash).Only
      Unprivileged := by
  apply only_step True.intro
  intro found
  split
  · exact only_value _ _
  · exact only_command _ True.intro

theorem unprivileged_isEnabled (idUser : Int) :
    (OperatorMfaRepository.isEnabled idUser).Only Unprivileged :=
  only_step True.intro fun _ => only_value _ _

theorem unprivileged_status (idUser : Int) :
    (OperatorMfaRepository.status idUser).Only Unprivileged := by
  apply (unprivileged_isEnabled idUser).bind
  intro enabled
  split
  · exact only_step True.intro fun _ => only_value _ _
  · exact only_value _ _

theorem unprivileged_pendingEnrollment (idUser : Int) (label : String) :
    (OperatorMfaRepository.pendingEnrollment app idUser label).Only Unprivileged := by
  apply only_step True.intro
  intro row
  split
  · exact only_value _ _
  split
  · exact only_value _ _
  split
  · exact only_raise _ _ True.intro
  split <;> exact only_value _ _

/-- Checking a code, which is refused unread when it is too long. -/
theorem unprivileged_code (idUser : Int) (code : String) :
    (if 32 < Text.len code then pure false
      else OperatorMfaRepository.verifyLoginCode app idUser code : Handler Bool).Only
        Unprivileged := by
  split
  · exact only_value _ _
  · exact unprivileged_verifying (Idling.verifying_verifyLoginCode _ _)

/-! ## Signing in -/

theorem unprivileged_registerLoginFailure (ipKey ipUserKey username : String) :
    (Auth.registerLoginFailure ipKey ipUserKey username).Only Unprivileged := by
  apply only_step True.intro
  intro _
  apply only_step True.intro
  intro _
  split
  · exact only_value _ _
  · exact only_step True.intro fun _ => only_value _ _

theorem unprivileged_finishLogin (ipKey ipUserKey : String) (operator : Operator) :
    (Auth.finishLogin app ipKey ipUserKey operator).Only Unprivileged := by
  unfold Auth.finishLogin
  split
  · exact only_value _ _
  apply only_step True.intro
  intro _
  apply only_step True.intro
  intro _
  apply (unprivileged_isEnabled operator.idUser).bind
  intro enabled
  split
  · apply only_step True.intro
    intro _
    apply only_step True.intro
    intro _
    apply only_step True.intro
    intro now
    exact only_step True.intro fun _ => only_value _ _
  · apply only_step True.intro
    intro _
    exact (unprivileged_establishSession operator).bind fun _ => only_value _ _

theorem unprivileged_checkPassword (ipKey ipUserKey username password : String) :
    (Auth.checkPassword app ipKey ipUserKey username password).Only Unprivileged := by
  have refused : (do
      Auth.registerLoginFailure ipKey ipUserKey username
      pure Auth.invalidLogin : Handler Response).Only Unprivileged :=
    (unprivileged_registerLoginFailure _ _ _).bind fun _ => only_value _ _
  unfold Auth.checkPassword
  split
  · exact refused
  apply only_step True.intro
  intro found
  split
  · exact only_step True.intro fun _ => refused
  apply only_step True.intro
  intro verdict
  split
  · exact refused
  split
  · exact refused
  dsimp only
  split
  · exact (unprivileged_updateEncryptedPassword _ _).bind fun _ => unprivileged_finishLogin _ _ _
  · exact unprivileged_finishLogin _ _ _

theorem unprivileged_loginSubmit (visit : Visit) (form : LoginForm) :
    (Auth.loginSubmit app visit form).Only Unprivileged := by
  unfold Auth.loginSubmit
  split
  · exact only_value _ _
  apply only_step True.intro
  intro locked
  split
  · exact only_value _ _
  apply only_step True.intro
  intro locked
  split
  · exact only_value _ _
  apply only_step True.intro
  intro locked
  split
  · exact only_value _ _
  apply only_step True.intro
  intro locked
  split
  · exact only_value _ _
  · exact unprivileged_checkPassword _ _ _ _

theorem unprivileged_checkCode (throttleKey code : String) (idUser : Int) :
    (Auth.checkCode app throttleKey code idUser).Only Unprivileged := by
  apply only_step True.intro
  intro found
  split
  · exact only_step True.intro fun _ => only_value _ _
  apply (unprivileged_code idUser code).bind
  intro accepted
  split
  · exact only_step True.intro fun _ => only_value _ _
  unfold Auth.finishMfa
  split
  · exact only_step True.intro fun _ => only_value _ _
  apply only_step True.intro
  intro _
  apply only_step True.intro
  intro _
  apply unprivileged_clearMfaPending.bind
  intro _
  exact (unprivileged_establishSession _).bind fun _ => only_value _ _

theorem unprivileged_mfaVerify (visit : Visit) (form : MfaCodeForm) :
    (Auth.mfaVerify app visit form).Only Unprivileged := by
  unfold Auth.mfaVerify
  split
  · exact only_value _ _
  apply unprivileged_mfaPendingUserId.bind
  intro pending
  split
  · exact only_value _ _
  apply only_step True.intro
  intro locked
  split
  · exact only_value _ _
  apply only_step True.intro
  intro locked
  split
  · exact only_value _ _
  · exact unprivileged_checkCode _ _ _

theorem unprivileged_logout (visit : Visit) (csrfToken : String) :
    (Auth.logout visit csrfToken).Only Unprivileged := by
  unfold Auth.logout
  split
  · exact only_value _ _
  apply (unprivileged_record SessionData.authenticatedUsername).bind
  intro _
  exact only_step True.intro fun _ => only_value _ _

/-! ## Step-up and pages -/

theorem unprivileged_finish (operator : Operator) :
    (StepUp.finish operator).Only Unprivileged := by
  apply only_step True.intro
  intro _
  have marked : Auth.markReauthenticated.Only Unprivileged :=
    only_step True.intro fun _ => only_step True.intro fun _ => only_value _ _
  apply marked.bind
  intro _
  have fresh : (Auth.reauthenticatedWithin Auth.stepUpFreshnessSeconds).Only Unprivileged := by
    apply only_step True.intro
    intro data
    split
    · exact only_value _ _
    · exact only_step True.intro fun _ => only_value _ _
  apply fresh.bind
  intro within
  split <;> exact only_value _ _

theorem unprivileged_stepUp (currentPassword mfaCode : String) :
    (StepUp.verify app currentPassword mfaCode).Only Unprivileged := by
  apply (unprivileged_record SessionData.authenticatedUserId).bind
  intro named
  split
  · exact only_value _ _
  apply only_step True.intro
  intro found
  split
  · exact only_value _ _
  split
  · exact only_value _ _
  apply only_step True.intro
  intro verdict
  split
  · exact only_raise _ _ True.intro
  split
  · exact only_value _ _
  apply (unprivileged_isEnabled _).bind
  intro enabled
  split
  · dsimp only
    split
    · exact only_value _ _
    apply (unprivileged_code _ _).bind
    intro accepted
    split
    · exact only_value _ _
    · exact unprivileged_finish _
  · exact unprivileged_finish _

theorem unprivileged_findTarget (named : Acl.Identity) :
    (Acl.findTarget named).Only Unprivileged := by
  cases named <;> exact only_command _ True.intro

theorem unprivileged_currentOperator : MfaPages.currentOperator.Only Unprivileged := by
  apply (unprivileged_record SessionData.authenticatedUserId).bind
  intro named
  split
  · exact only_value _ _
  · exact only_command _ True.intro

theorem unprivileged_refreshCurrentSession (idUser : Int) :
    (MfaPages.refreshCurrentSession app idUser).Only Unprivileged := by
  apply only_step True.intro
  intro found
  split
  · exact only_raise _ _ True.intro
  · exact (unprivileged_syncSessionIdentity _).bind fun _ => only_value _ _

theorem unprivileged_renderOverview (operator : Operator) (message messageClass : String) :
    (MfaPages.renderOverview operator message messageClass).Only Unprivileged :=
  (unprivileged_status operator.idUser).bind fun _ => only_value _ _

theorem unprivileged_renderRejected (message : String) :
    (MfaPages.renderRejected message).Only Unprivileged := by
  apply unprivileged_currentOperator.bind
  intro operator
  split
  · exact only_value _ _
  · exact unprivileged_renderOverview _ _ _

theorem unprivileged_renderInvalidCode (operator : Operator) :
    (MfaPages.renderInvalidCode app operator).Only Unprivileged := by
  apply (unprivileged_pendingEnrollment _ _).bind
  intro enrollment
  split
  · exact only_value _ _
  · exact unprivileged_renderOverview _ _ _

theorem unprivileged_mfaOverview : (MfaPages.mfaOverview app).Only Unprivileged := by
  apply unprivileged_currentOperator.bind
  intro operator
  split
  · exact only_value _ _
  apply (unprivileged_pendingEnrollment _ _).bind
  intro enrollment
  split
  · exact only_value _ _
  · exact unprivileged_renderOverview _ _ _

theorem unprivileged_updatePassword : Acl.updatePassword.Only Unprivileged := by
  apply (unprivileged_record SessionData.authenticatedUserId).bind
  intro named
  split
  · exact only_value _ _
  apply only_step True.intro
  intro operator
  split <;> exact only_value _ _

end Privilege
end KrakenUi
