import KrakenUi.Protocol.Accounts
import KrakenUi.Protocol.Idle

namespace KrakenUi

open Interaction Storage Text

/-!
# Who stores names and passwords

Four routes store the name or the password of an account.  Each of them brings
the name into the form under which it is looked up later, checks it, and refuses
a password with markup before it issues the command that stores.  No other route
issues such a command, so every stored name has passed the check.
-/

namespace Route

/-- The raw username and password of a form that has both. -/
def credentials : Route -> Option (String × String)
  | insertUserAction form => some (form.username, form.password)
  | updateUserAction form => some (form.username, form.password)
  | firstTime form => some (form.username, form.password)
  | _ => none

/-- The raw password of the form that sets nothing else. -/
def ownPassword : Route -> Option String
  | updatePasswordAction form => some form.password
  | _ => none

end Route

namespace Credentials

variable {app : AppState} {α : Type} {route : Route}

/-- The name that a raw username stands for. -/
def signInName (app : AppState) (rawUsername : String) : String :=
  toAsciiLowercase (Sanitize.plainText app.clean rawUsername)

/-- The name comes from the form, and the texts of the form passed their checks. -/
def Accepted (app : AppState) (route : Route) (name : String) : Prop :=
  Exists fun username => Exists fun password =>
    route.credentials = some (username, password) ∧ name = signInName app username ∧
      Acl.validUsername name = true ∧
      Sanitize.secretHasRejectedMarkup app.clean password = false

/-- What the route has checked before it stores. -/
def Vetted (app : AppState) (route : Route) : Command -> Prop
  | .create input => Accepted app route input.username
  | .update _ input _ => Accepted app route input.username
  | .updatePassword _ _ => Exists fun password => route.ownPassword = some password ∧
      Sanitize.secretHasRejectedMarkup app.clean password = false
  | _ => True

theorem vetted_storeless {program : Handler α} (only : program.Only Idling.Storeless) :
    program.Only (Vetted app route) := by
  apply only.mono
  intro command storeless
  cases command <;> first | exact True.intro | exact storeless.elim

theorem vetted_routine {program : Handler α} (only : program.Only Idling.Routine) :
    program.Only (Vetted app route) :=
  vetted_storeless (Idling.storeless_routine only)

/-! ## Routes that store neither -/

section Storeless

open Idling

theorem storeless_registerLoginFailure (ipKey ipUserKey username : String) :
    (Auth.registerLoginFailure ipKey ipUserKey username).Only Storeless := by
  apply only_step True.intro
  intro _
  apply only_step True.intro
  intro _
  split
  · exact only_value _ _
  · exact only_step True.intro fun _ => only_value _ _

theorem storeless_finishLogin (ipKey ipUserKey : String) (operator : Operator) :
    (Auth.finishLogin app ipKey ipUserKey operator).Only Storeless := by
  unfold Auth.finishLogin
  split
  · exact only_value _ _
  apply only_step True.intro
  intro _
  apply only_step True.intro
  intro _
  apply (storeless_routine (routine_isEnabled operator.idUser)).bind
  intro enabled
  split
  · apply only_step True.intro
    intro _
    apply only_step True.intro
    intro _
    apply only_step True.intro
    intro now
    exact only_step True.intro fun _ => only_value _ _
  · apply only_step True.intro
    intro _
    exact (storeless_routine (routine_establishSession operator)).bind fun _ => only_value _ _

theorem storeless_checkPassword (ipKey ipUserKey username password : String) :
    (Auth.checkPassword app ipKey ipUserKey username password).Only Storeless := by
  have refused : (do
      Auth.registerLoginFailure ipKey ipUserKey username
      pure Auth.invalidLogin : Handler Response).Only Storeless :=
    (storeless_registerLoginFailure _ _ _).bind fun _ => only_value _ _
  unfold Auth.checkPassword
  split
  · exact refused
  apply only_step True.intro
  intro found
  split
  · exact only_step True.intro fun _ => refused
  apply only_step True.intro
  intro verdict
  split
  · exact refused
  split
  · exact refused
  dsimp only
  split
  · exact (storeless_routine (routine_updateEncryptedPassword _ _)).bind fun _ =>
      storeless_finishLogin _ _ _
  · exact storeless_finishLogin _ _ _

theorem storeless_loginSubmit (visit : Visit) (form : LoginForm) :
    (Auth.loginSubmit app visit form).Only Storeless := by
  unfold Auth.loginSubmit
  split
  · exact only_value _ _
  apply only_step True.intro
  intro locked
  split
  · exact only_value _ _
  apply only_step True.intro
  intro locked
  split
  · exact only_value _ _
  apply only_step True.intro
  intro locked
  split
  · exact only_value _ _
  apply only_step True.intro
  intro locked
  split
  · exact only_value _ _
  · exact storeless_checkPassword _ _ _ _

/-- Checking a code, which is refused unread when it is too long. -/
theorem storeless_code (idUser : Int) (code : String) :
    (if 32 < len code then pure false
      else OperatorMfaRepository.verifyLoginCode app idUser code : Handler Bool).Only Storeless := by
  split
  · exact only_value _ _
  · exact storeless_routine (routine_verifyLoginCode _ _)

theorem storeless_checkCode (throttleKey code : String) (idUser : Int) :
    (Auth.checkCode app throttleKey code idUser).Only Storeless := by
  apply only_step True.intro
  intro found
  split
  · exact only_step True.intro fun _ => only_value _ _
  apply (storeless_code idUser code).bind
  intro accepted
  split
  · exact only_step True.intro fun _ => only_value _ _
  unfold Auth.finishMfa
  split
  · exact only_step True.intro fun _ => only_value _ _
  apply only_step True.intro
  intro _
  apply only_step True.intro
  intro _
  apply (storeless_routine routine_clearMfaPending).bind
  intro _
  exact (storeless_routine (routine_establishSession _)).bind fun _ => only_value _ _

theorem storeless_mfaVerify (visit : Visit) (form : MfaCodeForm) :
    (Auth.mfaVerify app visit form).Only Storeless := by
  unfold Auth.mfaVerify
  split
  · exact only_value _ _
  apply (storeless_routine routine_mfaPendingUserId).bind
  intro pending
  split
  · exact only_value _ _
  apply only_step True.intro
  intro locked
  split
  · exact only_value _ _
  apply only_step True.intro
  intro locked
  split
  · exact only_value _ _
  · exact storeless_checkCode _ _ _

theorem storeless_stepUp (currentPassword mfaCode : String) :
    (StepUp.verify app currentPassword mfaCode).Only Storeless := by
  apply (storeless_routine (routine_record SessionData.authenticatedUserId)).bind
  intro named
  split
  · exact only_value _ _
  apply only_step True.intro
  intro found
  split
  · exact only_value _ _
  split
  · exact only_value _ _
  apply only_step True.intro
  intro verdict
  split
  · exact only_raise _ _ True.intro
  split
  · exact only_value _ _
  apply (storeless_routine (routine_isEnabled _)).bind
  intro enabled
  split
  · dsimp only
    split
    · exact only_value _ _
    apply (storeless_code _ _).bind
    intro accepted
    split
    · exact only_value _ _
    · exact storeless_routine (routine_finish _)
  · exact storeless_routine (routine_finish _)

theorem storeless_deleteUserAction (visit : Visit) (form : DeleteUserForm) :
    (Acl.deleteUserAction app visit form).Only Storeless := by
  unfold Acl.deleteUserAction
  split
  · exact only_value _ _
  dsimp only
  split
  · exact only_value _ _
  split
  · exact only_value _ _
  apply (storeless_routine (routine_findTarget _)).bind
  intro target
  split
  · exact only_value _ _
  apply (storeless_routine (routine_record SessionData.authenticatedUserId)).bind
  intro named
  split
  · exact only_value _ _
  apply (storeless_stepUp _ _).bind
  intro outcome
  split
  · exact only_value _ _
  · exact only_value _ _
  · exact only_step True.intro fun _ => only_step True.intro fun _ => only_value _ _

theorem storeless_startUpdate (visit : Visit) (form : UpdateForm) :
    (Acl.startUpdate app visit form).Only Storeless := by
  unfold Acl.startUpdate
  split
  · exact only_value _ _
  apply (storeless_stepUp _ _).bind
  intro outcome
  split
  · exact only_value _ _
  · exact only_value _ _
  apply only_step True.intro
  intro started
  split
  · exact (storeless_routine (routine_record SessionData.authenticatedUsername)).bind fun _ =>
      only_value _ _
  · exact only_value _ _

/-- The three pages that do something after a step-up and are routine otherwise. -/
theorem storeless_steppedUp {currentPassword mfaCode : String}
    {next : StepUpOutcome -> Handler α} (later : forall outcome, (next outcome).Only Routine) :
    (StepUp.verify app currentPassword mfaCode >>= next).Only Storeless :=
  (storeless_stepUp currentPassword mfaCode).bind fun outcome => storeless_routine (later outcome)

theorem storeless_mfaEnroll (visit : Visit) (form : StepUpForm) :
    (MfaPages.mfaEnroll app visit form).Only Storeless := by
  unfold MfaPages.mfaEnroll
  split
  · exact only_value _ _
  apply storeless_steppedUp
  intro outcome
  split
  · exact only_value _ _
  · exact routine_renderRejected _
  apply (routine_isEnabled _).bind
  intro enabled
  split
  · exact routine_renderOverview _ _ _
  · exact (routine_beginEnrollment _ _).bind fun _ => only_value _ _

theorem storeless_mfaDisable (visit : Visit) (form : StepUpForm) :
    (MfaPages.mfaDisable app visit form).Only Storeless := by
  unfold MfaPages.mfaDisable
  split
  · exact only_value _ _
  apply storeless_steppedUp
  intro outcome
  split
  · exact only_value _ _
  · exact routine_renderRejected _
  apply only_step True.intro
  intro _
  exact (routine_refreshCurrentSession _).bind fun _ => routine_renderOverview _ _ _

theorem storeless_mfaRegenerate (visit : Visit) (form : StepUpForm) :
    (MfaPages.mfaRegenerate app visit form).Only Storeless := by
  unfold MfaPages.mfaRegenerate
  split
  · exact only_value _ _
  apply storeless_steppedUp
  intro outcome
  split
  · exact only_value _ _
  · exact routine_renderRejected _
  apply only_step True.intro
  intro codes
  split
  · exact (routine_refreshCurrentSession _).bind fun _ => only_value _ _
  · exact routine_renderOverview _ _ _

end Storeless

/-! ## Routes that store -/

/-- A text without a markup delimiter has no markup. -/
theorem no_markup_of_empty {password : String} (empty : isEmpty password = true) :
    Sanitize.secretHasRejectedMarkup app.clean password = false := by
  have none : password.toList = [] := List.isEmpty_iff.mp empty
  simp [Sanitize.secretHasRejectedMarkup, none]

/-- What the two account forms leave of their texts. -/
theorem validateOperator_ok {rawUsername rawEmail rawOperatorType rawPassword : String}
    {passwordOptional : Bool} {input : Acl.ValidatedOperator}
    (validated : Acl.validateOperator app rawUsername rawEmail rawOperatorType rawPassword
      passwordOptional = .ok input) :
    input.username = signInName app rawUsername ∧ Acl.validUsername input.username = true ∧
      Sanitize.secretHasRejectedMarkup app.clean rawPassword = false := by
  simp only [Acl.validateOperator] at validated
  split at validated
  · cases validated
  rename_i named
  split at validated
  · cases validated
  split at validated
  · cases validated
  rw [Bool.not_eq_true', Bool.not_eq_false] at named
  split at validated
  · rename_i blank
    rw [← Except.ok.inj validated]
    exact ⟨rfl, named, no_markup_of_empty (Bool.and_eq_true_iff.mp blank).1⟩
  split at validated
  · cases validated
  · rename_i clean
    rw [Bool.or_eq_true, not_or, Bool.not_eq_true] at clean
    rw [← Except.ok.inj validated]
    exact ⟨rfl, named, clean.1⟩

theorem accepted_of_ok {rawUsername rawEmail rawOperatorType rawPassword : String}
    {passwordOptional : Bool} {input : Acl.ValidatedOperator}
    (offered : route.credentials = some (rawUsername, rawPassword))
    (validated : Acl.validateOperator app rawUsername rawEmail rawOperatorType rawPassword
      passwordOptional = .ok input) : Accepted app route input.username := by
  rcases validateOperator_ok validated with ⟨name, valid, clean⟩
  exact ⟨rawUsername, rawPassword, offered, name, valid, clean⟩

theorem vetted_insertUserAction (visit : Visit) (form : OperatorForm) :
    (Acl.insertUserAction app visit form).Only (Vetted app (.insertUserAction form)) := by
  unfold Acl.insertUserAction
  split
  · exact only_value _ _
  split
  · exact only_value _ _
  rename_i input validated
  apply only_step True.intro
  intro byEmail
  split
  · exact only_value _ _
  apply only_step True.intro
  intro byUsername
  split
  · exact only_value _ _
  apply (vetted_storeless (storeless_stepUp _ _)).bind
  intro outcome
  split
  · exact only_value _ _
  · exact only_value _ _
  split
  · exact only_raise _ _ True.intro
  · exact only_step (accepted_of_ok rfl validated) fun _ => only_value _ _

theorem vetted_finishUpdate {form : UpdateUserForm} {existing : Operator}
    {input : Acl.ValidatedOperator} (authenticatedId : Option Int)
    (accepted : Accepted app (.updateUserAction form) input.username) :
    (Acl.finishUpdate app form existing input authenticatedId).Only
      (Vetted app (.updateUserAction form)) := by
  apply (vetted_storeless (storeless_stepUp _ _)).bind
  intro outcome
  split
  · exact only_value _ _
  · exact only_value _ _
  have stored : (OperatorRepository.update existing
      ⟨input.username, input.email, input.operatorType.asStr, input.password⟩).Only
        (Vetted app (.updateUserAction form)) := by
    unfold OperatorRepository.update
    split
    · exact only_step True.intro fun _ => only_command _ accepted
    · exact only_command _ accepted
  apply stored.bind
  intro updated
  have finished : (do
      if existing.operatorType ≠ input.operatorType.asStr then
        call (.deleteByUserId updated.idUser)
      pure (Response.editOperator updated "User details updated successfully." "success") :
      Handler Response).Only (Vetted app (.updateUserAction form)) := by
    split
    · exact only_step True.intro fun _ => only_value _ _
    · exact only_value _ _
  dsimp only
  split
  · exact (vetted_routine (Idling.routine_syncSessionIdentity updated)).bind fun _ => finished
  · exact finished

theorem vetted_updateUserAction (visit : Visit) (form : UpdateUserForm) :
    (Acl.updateUserAction app visit form).Only (Vetted app (.updateUserAction form)) := by
  unfold Acl.updateUserAction
  split
  · exact only_value _ _
  split
  · exact only_value _ _
  apply only_step True.intro
  intro found
  split
  · exact only_value _ _
  split
  · exact only_value _ _
  rename_i input validated
  apply (vetted_routine (Idling.routine_record SessionData.authenticatedUserId)).bind
  intro named
  split
  · exact only_value _ _
  apply only_step True.intro
  intro byEmail
  split
  · exact only_value _ _
  apply only_step True.intro
  intro byUsername
  split
  · exact only_value _ _
  · exact vetted_finishUpdate _ (accepted_of_ok rfl validated)

theorem vetted_storePassword (authenticatedId : Int) (existing : Operator)
    (form : UpdatePasswordForm) :
    (Acl.storePassword app authenticatedId existing form.password).Only
      (Vetted app (.updatePasswordAction form)) := by
  unfold Acl.storePassword
  split
  · exact only_value _ _
  rename_i clean
  split
  · exact only_value _ _
  have stored : (OperatorRepository.updatePassword existing form.password).Only
      (Vetted app (.updatePasswordAction form)) :=
    only_step True.intro fun _ =>
      only_command _ ⟨form.password, rfl, Bool.eq_false_iff.mpr clean⟩
  apply stored.bind
  intro updated
  apply (vetted_routine (Idling.routine_syncSessionIdentity updated)).bind
  intro _
  apply only_step True.intro
  intro current
  split
  · exact only_step True.intro fun _ => only_value _ _
  · exact only_value _ _

theorem vetted_updatePasswordAction (visit : Visit) (form : UpdatePasswordForm) :
    (Acl.updatePasswordAction app visit form).Only (Vetted app (.updatePasswordAction form)) := by
  unfold Acl.updatePasswordAction
  split
  · exact only_value _ _
  apply (vetted_routine (Idling.routine_record SessionData.authenticatedUserId)).bind
  intro named
  split
  · exact only_value _ _
  apply only_step True.intro
  intro found
  split
  · exact only_value _ _
  split
  · exact only_value _ _
  apply only_step True.intro
  intro verdict
  split
  · exact only_raise _ _ True.intro
  split
  · exact only_value _ _
  · exact vetted_storePassword _ _ form

theorem accepted_of_registration {form : FirstTimeForm}
    (accepts : Setup.acceptsRegistration app form = true) :
    Accepted app (.firstTime form) (signInName app form.username) := by
  simp only [Setup.acceptsRegistration, Bool.and_eq_true, Bool.not_eq_true'] at accepts
  rcases accepts with ⟨⟨⟨⟨⟨valid, -⟩, -⟩, clean⟩, -⟩, -⟩
  exact ⟨form.username, form.password, rfl, rfl, valid, clean⟩

theorem vetted_firstTime (form : FirstTimeForm) :
    (Setup.firstTime app form).Only (Vetted app (.firstTime form)) := by
  unfold Setup.firstTime
  split
  · exact only_value _ _
  split
  · exact only_value _ _
  split
  · exact only_value _ _
  apply only_step True.intro
  intro operators
  split
  · exact only_value _ _
  split
  · exact only_value _ _
  rename_i accepts
  rw [Bool.not_eq_true', Bool.not_eq_false] at accepts
  exact only_step (accepted_of_registration accepts) fun _ => only_value _ _

theorem vetted_guard (allowedRoles : List OperatorRole) {next : Handler Response}
    (vetted : next.Only (Vetted app route)) :
    (Routes.guard app allowedRoles next).Only (Vetted app route) := by
  apply (vetted_routine Idling.routine_authorizedRole).bind
  intro role
  split
  · split
    · exact vetted
    · exact only_value _ _
  · exact only_value _ _

/-- Whatever a request stores, its route has checked. -/
theorem vetted_respond (request : Request) :
    (Routes.respond app request).Only (Vetted app request.route) := by
  rcases request with ⟨visit, route⟩
  cases route with
  | loginPage =>
      apply (vetted_routine Idling.routine_authorizedRole).bind
      intro role
      split <;> exact only_value _ _
  | loginSubmit form => exact vetted_storeless (storeless_loginSubmit visit form)
  | mfaChallengePage =>
      apply (vetted_routine Idling.routine_mfaPendingUserId).bind
      intro pending
      split <;> exact only_value _ _
  | mfaVerify form => exact vetted_storeless (storeless_mfaVerify visit form)
  | firstTime form => exact vetted_firstTime form
  | page allowedRoles => exact vetted_guard _ (only_value _ _)
  | insertUserAction form => exact vetted_guard _ (vetted_insertUserAction visit form)
  | deleteUserAction form =>
      exact vetted_guard _ (vetted_storeless (storeless_deleteUserAction visit form))
  | updateUserAction form => exact vetted_guard _ (vetted_updateUserAction visit form)
  | startUpdate form => exact vetted_guard _ (vetted_storeless (storeless_startUpdate visit form))
  | updatePassword => exact vetted_guard _ (vetted_routine Idling.routine_updatePassword)
  | updatePasswordAction form => exact vetted_guard _ (vetted_updatePasswordAction visit form)
  | mfaOverview => exact vetted_guard _ (vetted_routine Idling.routine_mfaOverview)
  | mfaEnroll form => exact vetted_guard _ (vetted_storeless (storeless_mfaEnroll visit form))
  | mfaConfirm form => exact vetted_guard _ (vetted_routine (Idling.routine_mfaConfirm visit form))
  | mfaDisable form => exact vetted_guard _ (vetted_storeless (storeless_mfaDisable visit form))
  | mfaRegenerate form =>
      exact vetted_guard _ (vetted_storeless (storeless_mfaRegenerate visit form))
  | logout csrfToken =>
      exact vetted_guard _ (vetted_routine (Idling.routine_logout visit csrfToken))

/-- The service as a whole. -/
theorem vetted_service (request : Request) :
    (Console.service app request).Only (Vetted app request.route) :=
  (vetted_respond request).bind fun _ => only_value _ _

end Credentials

/-! ## Stored names -/

namespace Database

variable {database after : Database} {idUser : Int} {operator : Operator}

/-- Every stored name is one that the forms accept. -/
def NamesAccepted (database : Database) : Prop :=
  forall operator, operator ∈ database.operators.rows -> Acl.validUsername operator.username = true

theorem namesAccepted_empty : empty.NamesAccepted :=
  fun _ member => absurd member List.not_mem_nil

theorem NamesAccepted.operators (accepted : database.NamesAccepted)
    (same : after.operators = database.operators) : after.NamesAccepted := by
  intro operator member
  rw [same] at member
  exact accepted operator member

end Database

namespace Credentials

theorem accepted_valid {app : AppState} {route : Route} {name : String}
    (accepted : Accepted app route name) : Acl.validUsername name = true := by
  rcases accepted with ⟨username, password, -, -, valid, -⟩
  exact valid

theorem nameFor_valid {app : AppState} {route : Route} {command : Command} {account : Int}
    {name : String} (vetted : Vetted app route command)
    (named : command.nameFor account = some name) : Acl.validUsername name = true := by
  cases command with
  | update idUser input hash =>
      rw [Command.nameFor] at named
      split at named
      · cases named
        exact accepted_valid vetted
      · cases named
  | _ => cases named

/-- A vetted command stores an accepted name or none. -/
theorem namesAccepted_perform {app : AppState} {route : Route} {state next : State}
    {session held : Session} {command : Command} {reply : command.Reply} {draw : Draw}
    (performed : Console.perform state session command draw = some (reply, next, held))
    (vetted : Vetted app route command) (accepted : state.database.NamesAccepted) :
    next.database.NamesAccepted := by
  cases Console.turns_perform performed with
  | kept same record epoch => exact accepted.operators same
  | created creates numbered named members =>
      subst creates
      intro operator member
      rcases (members operator).mp member with old | rfl
      · exact accepted operator old
      · rw [named]
        exact accepted_valid vetted
  | @edited idUser change edits members =>
      intro operator member
      rcases (members operator).mp member with ⟨old, oldMember, rfl⟩
      split
      · rename_i selected
        rw [edits.name old selected]
        cases given : command.nameFor idUser with
        | none => exact accepted old oldMember
        | some name => exact nameFor_valid vetted given
      · exact accepted old oldMember
  | deleted deletes members =>
      intro operator member
      exact accepted operator ((members operator).mp member).1

/-- Every name stored in a run has passed the check of a form. -/
theorem namesAccepted_reached {app : AppState} {state : State}
    (accepted : state.database.NamesAccepted) {config : Config (Console.machine app)}
    (reached : Reaches (Console.service app) anyCommand (Config.idle state) config) :
    config.world.state.database.NamesAccepted := by
  have kept : Invariant.trivial.Kept (Console.storing app Database.NamesAccepted)
      (Contract.requested fun request => Vetted app request.route) anyCommand := by
    apply Console.storing_kept
    intro world flight command draw reply after held sound permitted _ performed
    exact namesAccepted_perform performed permitted sound
  have initial : (Console.storing app Database.NamesAccepted).Sound (Config.idle state).world :=
    accepted
  exact (kept.lasting (obeys_requested vetted_service) (fun _ => rfl) Invariant.lasting_trivial
    initial config reached).1

end Credentials
end KrakenUi
