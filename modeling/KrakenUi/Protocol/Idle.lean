import KrakenUi.Controllers.Routes

namespace KrakenUi

open Interaction

/-!
# Programs that neither check a credential nor ask a throttle

Most of what a handler does has no part in the counting of wrong passwords and
codes.  A command is idle unless it compares a password with the record of an
operator or goes to a throttle, and a program is idle when it only issues idle
commands.  Most idle programs store no name or password either; they are the
routine of the handlers.
-/

namespace Idling

variable {app : AppState} {α : Type}

/-- The throttles are not asked and no password is compared. -/
def Idle : Command -> Prop
  | .lockedFor _ | .retryAfter _ | .recordFailure _ | .recordSuccess _ | .spawnVerify _ _ _ => False
  | _ => True

/-- No name and no password of an account is stored. -/
def Storeless : Command -> Prop
  | .create _ | .update _ _ _ | .updatePassword _ _ => False
  | _ => True

/-- Neither a check nor a write of a credential. -/
def Routine : Command -> Prop
  | .lockedFor _ | .retryAfter _ | .recordFailure _ | .recordSuccess _ | .spawnVerify _ _ _ => False
  | .create _ | .update _ _ _ | .updatePassword _ _ => False
  | _ => True

/-- The commands by which a code of the second factor is verified. -/
def Verifying : Command -> Prop
  | .fail _ | .now | .totpRow _ | .consumeTotpStep _ _ _ | .unusedRecoveryCodes _
  | .consumeRecoveryCodeRow _ _ => True
  | _ => False

theorem idle_routine {program : Handler α} (only : program.Only Routine) :
    program.Only Idle := by
  apply only.mono
  intro command routine
  cases command <;> first | exact True.intro | exact routine.elim

theorem storeless_routine {program : Handler α} (only : program.Only Routine) :
    program.Only Storeless := by
  apply only.mono
  intro command routine
  cases command <;> first | exact True.intro | exact routine.elim

/-! ## Sessions -/

theorem routine_record (read : SessionData -> α) :
    (do return read (← call .record) : Handler α).Only Routine :=
  only_step True.intro fun _ => only_value _ _

theorem routine_clearMfaPending : Auth.clearMfaPending.Only Routine :=
  only_step True.intro fun _ => only_command _ True.intro

theorem routine_mfaPendingUserId : Auth.mfaPendingUserId.Only Routine := by
  apply only_step True.intro
  intro data
  split
  · exact only_value _ _
  · apply only_step True.intro
    intro again
    apply only_step True.intro
    intro now
    split
    · exact routine_clearMfaPending.bind fun _ => only_value _ _
    · exact only_value _ _

theorem routine_rotateSessionIdIfDue (now : Int) : (Auth.rotateSessionIdIfDue now).Only Routine := by
  apply only_step True.intro
  intro data
  split
  · exact only_command _ True.intro
  · split
    · exact only_value _ _
    · exact only_step True.intro fun _ => only_command _ True.intro

theorem routine_refuse : Auth.refuse.Only Routine :=
  only_step True.intro fun _ => only_value _ _

theorem routine_authorizedRole : (Auth.authorizedRole app).Only Routine := by
  apply (routine_record SessionData.authenticatedUserId).bind
  intro named
  split
  · exact only_value _ _
  apply ((routine_record SessionData.authenticatedOperatorType).bind fun _ => only_value _ _).bind
  intro role
  split
  · exact routine_refuse
  apply (routine_record SessionData.authenticatedAuthzVersion).bind
  intro version
  split
  · exact routine_refuse
  apply only_step True.intro
  intro data
  split
  · exact routine_refuse
  apply only_step True.intro
  intro now
  split
  · exact routine_refuse
  apply only_step True.intro
  intro found
  split
  · exact routine_refuse
  split
  · exact routine_refuse
  split
  · exact routine_refuse
  · exact (routine_rotateSessionIdIfDue now).bind fun _ => only_value _ _

theorem routine_syncSessionIdentity (operator : Operator) :
    (Auth.syncSessionIdentity app operator).Only Routine :=
  only_step True.intro fun _ => only_step True.intro fun _ => only_step True.intro fun _ => only_command _ True.intro

theorem routine_establishSession (operator : Operator) :
    (Auth.establishSession app operator).Only Routine := by
  apply only_step True.intro
  intro now
  apply only_step True.intro
  intro _
  apply (routine_syncSessionIdentity operator).bind
  intro _
  exact only_step True.intro fun _ => only_step True.intro fun _ => only_command _ True.intro

/-! ## Repositories -/

theorem verifying_verifyTotpCode (secret code : String) :
    (OperatorMfaRepository.verifyTotpCode app secret code).Only Verifying := by
  unfold OperatorMfaRepository.verifyTotpCode
  split
  · exact only_value _ _
  · split
    · exact only_value _ _
    · exact only_step True.intro fun now => only_value _ _

theorem verifying_burnMatching (idUser : Int) (candidate : String) (rows : List RecoveryCode) :
    (OperatorMfaRepository.burnMatching app idUser candidate rows).Only Verifying := by
  induction rows with
  | nil => exact only_value _ _
  | cons row rest inductionHypothesis =>
      unfold OperatorMfaRepository.burnMatching
      split
      · exact only_raise _ _ True.intro
      · split
        · exact only_command _ True.intro
        · exact inductionHypothesis

theorem verifying_consumeRecoveryCode (idUser : Int) (code : String) :
    (OperatorMfaRepository.consumeRecoveryCode app idUser code).Only Verifying := by
  unfold OperatorMfaRepository.consumeRecoveryCode
  dsimp only
  split
  · exact only_value _ _
  · exact only_step True.intro fun rows => verifying_burnMatching idUser _ rows

theorem verifying_verifyLoginCode (idUser : Int) (code : String) :
    (OperatorMfaRepository.verifyLoginCode app idUser code).Only Verifying := by
  unfold OperatorMfaRepository.verifyLoginCode
  apply only_step True.intro
  intro row
  split
  · exact verifying_consumeRecoveryCode idUser code
  · split
    · exact only_raise _ _ True.intro
    · apply (verifying_verifyTotpCode _ _).bind
      intro verified
      split
      · split
        · exact only_value _ _
        · exact only_command _ True.intro
      · exact verifying_consumeRecoveryCode idUser code

theorem routine_verifying {program : Handler α} (only : program.Only Verifying) :
    program.Only Routine := by
  apply only.mono
  intro command verifying
  cases command <;> first | exact True.intro | exact verifying.elim

theorem routine_verifyLoginCode (idUser : Int) (code : String) :
    (OperatorMfaRepository.verifyLoginCode app idUser code).Only Routine :=
  routine_verifying (verifying_verifyLoginCode idUser code)

theorem routine_updateEncryptedPassword (idUser : Int) (encryptedPasswordHash : String) :
    (OperatorRepository.updateEncryptedPassword idUser encryptedPasswordHash).Only Routine := by
  apply only_step True.intro
  intro found
  split
  · exact only_value _ _
  · exact only_command _ True.intro

theorem idle_update (existing : Operator) (input : UpdateOperator) :
    (OperatorRepository.update existing input).Only Idle := by
  unfold OperatorRepository.update
  split
  · exact only_step True.intro fun _ => only_command _ True.intro
  · exact only_command _ True.intro

theorem routine_isEnabled (idUser : Int) : (OperatorMfaRepository.isEnabled idUser).Only Routine :=
  only_step True.intro fun _ => only_value _ _

theorem routine_status (idUser : Int) : (OperatorMfaRepository.status idUser).Only Routine := by
  apply (routine_isEnabled idUser).bind
  intro enabled
  split
  · exact only_step True.intro fun _ => only_value _ _
  · exact only_value _ _

theorem routine_beginEnrollment (idUser : Int) (label : String) :
    (OperatorMfaRepository.beginEnrollment app idUser label).Only Routine :=
  only_step True.intro fun _ => only_step True.intro fun _ => only_step True.intro fun _ => only_value _ _

theorem routine_pendingEnrollment (idUser : Int) (label : String) :
    (OperatorMfaRepository.pendingEnrollment app idUser label).Only Routine := by
  apply only_step True.intro
  intro row
  split
  · exact only_value _ _
  split
  · exact only_value _ _
  split
  · exact only_raise _ _ True.intro
  split <;> exact only_value _ _

theorem routine_confirm (idUser : Int) (code : String) :
    (OperatorMfaRepository.confirm app idUser code).Only Routine := by
  apply only_step True.intro
  intro row
  split
  · exact only_value _ _
  split
  · exact only_value _ _
  split
  · exact only_raise _ _ True.intro
  apply (routine_verifying (verifying_verifyTotpCode _ _)).bind
  intro verified
  split
  · exact only_value _ _
  apply only_step True.intro
  intro codes
  split <;> exact only_value _ _

/-! ## Pages -/

theorem routine_currentOperator : MfaPages.currentOperator.Only Routine := by
  apply (routine_record SessionData.authenticatedUserId).bind
  intro named
  split
  · exact only_value _ _
  · exact only_command _ True.intro

theorem routine_refreshCurrentSession (idUser : Int) :
    (MfaPages.refreshCurrentSession app idUser).Only Routine := by
  apply only_step True.intro
  intro found
  split
  · exact only_raise _ _ True.intro
  · exact (routine_syncSessionIdentity _).bind fun _ => only_value _ _

theorem routine_renderOverview (operator : Operator) (message messageClass : String) :
    (MfaPages.renderOverview operator message messageClass).Only Routine :=
  (routine_status operator.idUser).bind fun _ => only_value _ _

theorem routine_renderRejected (message : String) :
    (MfaPages.renderRejected message).Only Routine := by
  apply routine_currentOperator.bind
  intro operator
  split
  · exact only_value _ _
  · exact routine_renderOverview _ _ _

theorem routine_mfaOverview : (MfaPages.mfaOverview app).Only Routine := by
  apply routine_currentOperator.bind
  intro operator
  split
  · exact only_value _ _
  apply (routine_pendingEnrollment _ _).bind
  intro enrollment
  split
  · exact only_value _ _
  · exact routine_renderOverview _ _ _

theorem routine_mfaConfirm (visit : Visit) (form : ConfirmForm) :
    (MfaPages.mfaConfirm app visit form).Only Routine := by
  unfold MfaPages.mfaConfirm
  split
  · exact only_value _ _
  apply routine_currentOperator.bind
  intro operator
  split
  · exact only_value _ _
  apply (routine_confirm _ _).bind
  intro outcome
  split
  · exact (routine_refreshCurrentSession _).bind fun _ => only_value _ _
  · apply (routine_pendingEnrollment _ _).bind
    intro enrollment
    split
    · exact only_value _ _
    · exact routine_renderOverview _ _ _
  · exact routine_renderOverview _ _ _

theorem routine_updatePassword : Acl.updatePassword.Only Routine := by
  apply (routine_record SessionData.authenticatedUserId).bind
  intro named
  split
  · exact only_value _ _
  apply only_step True.intro
  intro operator
  split <;> exact only_value _ _

theorem idle_storePassword (authenticatedId : Int) (existing : Operator) (password : String) :
    (Acl.storePassword app authenticatedId existing password).Only Idle := by
  unfold Acl.storePassword
  split
  · exact only_value _ _
  split
  · exact only_value _ _
  have stored : (OperatorRepository.updatePassword existing password).Only Idle :=
    only_step True.intro fun _ => only_command _ True.intro
  apply stored.bind
  intro updated
  apply (idle_routine (routine_syncSessionIdentity updated)).bind
  intro _
  apply only_step True.intro
  intro current
  split
  · exact only_step True.intro fun _ => only_value _ _
  · exact only_value _ _

theorem idle_firstTime (form : FirstTimeForm) : (Setup.firstTime app form).Only Idle := by
  unfold Setup.firstTime
  split
  · exact only_value _ _
  split
  · exact only_value _ _
  split
  · exact only_value _ _
  apply only_step True.intro
  intro operators
  split
  · exact only_value _ _
  split
  · exact only_value _ _
  · exact only_step True.intro fun _ => only_value _ _

theorem routine_logout (visit : Visit) (csrfToken : String) :
    (Auth.logout visit csrfToken).Only Routine := by
  unfold Auth.logout
  split
  · exact only_value _ _
  apply (routine_record SessionData.authenticatedUsername).bind
  intro _
  exact only_step True.intro fun _ => only_value _ _

theorem routine_findTarget (named : Acl.Identity) : (Acl.findTarget named).Only Routine := by
  cases named <;> exact only_command _ True.intro

theorem routine_finish (operator : Operator) : (StepUp.finish operator).Only Routine := by
  apply only_step True.intro
  intro _
  have marked : Auth.markReauthenticated.Only Routine :=
    only_step True.intro fun _ => only_step True.intro fun _ => only_value _ _
  apply marked.bind
  intro _
  have fresh : (Auth.reauthenticatedWithin Auth.stepUpFreshnessSeconds).Only Routine := by
    apply only_step True.intro
    intro data
    split
    · exact only_value _ _
    · exact only_step True.intro fun _ => only_value _ _
  apply fresh.bind
  intro within
  split <;> exact only_value _ _

/-! ## The password change -/

/-- No failure and no success is recorded. -/
def Unrecorded : Command -> Prop
  | .recordFailure _ | .recordSuccess _ => False
  | _ => True

theorem unrecorded_of_idle {command : Command} (idle : Idle command) : Unrecorded command := by
  cases command <;> first | exact True.intro | exact idle.elim

theorem unrecorded_idle {program : Handler α} (only : program.Only Idle) :
    program.Only Unrecorded :=
  only.mono fun _ idle => unrecorded_of_idle idle

/-- The password change checks a password and records nothing. -/
theorem unrecorded_updatePasswordAction (visit : Visit) (form : UpdatePasswordForm) :
    (Routes.respond app ⟨visit, .updatePasswordAction form⟩).Only Unrecorded := by
  apply (unrecorded_idle (idle_routine routine_authorizedRole)).bind
  intro role
  split
  · split
    · unfold Acl.updatePasswordAction
      split
      · exact only_value _ _
      apply (unrecorded_idle (idle_routine (routine_record SessionData.authenticatedUserId))).bind
      intro named
      split
      · exact only_value _ _
      apply only_step True.intro
      intro found
      split
      · exact only_value _ _
      split
      · exact only_value _ _
      apply only_step True.intro
      intro verdict
      split
      · exact only_raise _ _ True.intro
      split
      · exact only_value _ _
      · exact unrecorded_idle (idle_storePassword _ _ _)
    · exact only_value _ _
  · exact only_value _ _

end Idling
end KrakenUi
