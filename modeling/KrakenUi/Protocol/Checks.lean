import KrakenUi.Interaction.Translation
import KrakenUi.Protocol.Idle

namespace KrakenUi

open Interaction Text Idling

/-!
# Handlers in which the check of a code is one command

A check of a password is one command of a handler already.  A check of a
second-factor code is a program of its own; here the whole of it is one command,
so that it can be counted.  Writing the program for the command gives back the
handler.

Every handler has such a form.  Apart from the sign-in, the code challenge and
the password change it is idle, or idle but for one step-up.
-/

inductive CheckCommand where
  | inner (command : Command)
  | verifyLoginCode (idUser : Int) (code : String)

namespace CheckCommand

abbrev Reply : CheckCommand -> Type
  | inner command => command.Reply
  | verifyLoginCode _ _ => Bool

end CheckCommand

abbrev checks : Signature := ⟨CheckCommand, CheckCommand.Reply⟩

abbrev CheckedHandler := Program checks

namespace CheckedHandler

variable {α : Type}

/-- A program without a check of a code. -/
def plain (program : Handler α) : CheckedHandler α :=
  program.translate fun command => Program.perform (S := checks) (.inner command)

/-- The program behind each command. -/
def meaning (app : AppState) : (command : CheckCommand) -> Handler command.Reply
  | .inner command => call command
  | .verifyLoginCode idUser code => OperatorMfaRepository.verifyLoginCode app idUser code

def expand (app : AppState) (program : CheckedHandler α) : Handler α :=
  program.translate (meaning app)

def ask (command : Command) : CheckedHandler command.Reply :=
  Program.perform (S := checks) (.inner command)

def verifyLoginCode (idUser : Int) (code : String) : CheckedHandler Bool :=
  Program.perform (S := checks) (.verifyLoginCode idUser code)

/-! ## The two handlers that check a code -/

/-- `Auth.checkCode`. -/
def checkCode (app : AppState) (throttleKey code : String) (idUser : Int) :
    CheckedHandler Response := do
  match ← ask (.findById idUser) with
  | none => plain do
      call .flush
      pure Response.toLogin
  | some operator => do
      let accepted ←
        (if 32 < len code then pure false else verifyLoginCode idUser code)
      if !accepted then plain do
        call (.recordFailure throttleKey)
        pure (.mfaChallenge "Invalid or expired code")
      else plain (Auth.finishMfa app throttleKey operator)

/-- `Auth.mfaVerify`. -/
def mfaVerify (app : AppState) (visit : Visit) (form : MfaCodeForm) : CheckedHandler Response :=
  if !Csrf.verify visit.token form.csrfToken then pure Response.csrfError
  else do
    match ← plain Auth.mfaPendingUserId with
    | none => pure Response.toLogin
    | some idUser => do
      let throttleKey := "mfa:" ++ visit.clientIp ++ "|user:" ++ toString idUser
      match ← ask (.lockedFor throttleKey) with
      | some remaining => pure (.mfaChallenge (Auth.lockedMessage remaining))
      | none => do
        match ← ask (.retryAfter ("login:" ++ throttleKey)) with
        | some remaining => pure (.mfaChallenge (Auth.lockedMessage remaining))
        | none => checkCode app throttleKey (Sanitize.plainText app.clean form.code) idUser

/-- The part of a step-up after the password was accepted. -/
def checkStepUpCode (app : AppState) (mfaCode : String) (operator : Operator) :
    CheckedHandler StepUpOutcome := do
  if ← plain (OperatorMfaRepository.isEnabled operator.idUser) then
    let code := Sanitize.plainText app.clean mfaCode
    if isEmpty code then pure (.rejected "Enter your current two-factor code.")
    else do
      let accepted ←
        (if 32 < len code then pure false else verifyLoginCode operator.idUser code)
      if !accepted then pure (.rejected "The two-factor code is invalid or expired.")
      else plain (StepUp.finish operator)
  else plain (StepUp.finish operator)

/-- `StepUp.verify`. -/
def stepUp (app : AppState) (currentPassword mfaCode : String) :
    CheckedHandler StepUpOutcome := do
  match ← plain Auth.authenticatedUserId with
  | none => pure .unauthorized
  | some idUser => do
    match ← ask (.findById idUser) with
    | none => pure .unauthorized
    | some operator =>
      if isEmpty currentPassword ∨ 256 < len currentPassword ∨
          Sanitize.secretHasRejectedMarkup app.clean currentPassword = true then
        pure StepUp.incorrectPassword
      else do
        match ← ask (.spawnVerify operator.idUser operator.encryptedPasswordHash
            currentPassword) with
        | .error message => plain (raise message)
        | .ok verification =>
          if !verification.valid then pure StepUp.incorrectPassword
          else checkStepUpCode app mfaCode operator

/-! ## Writing the programs for the commands -/

section Expansion

variable {app : AppState} {β : Type}

theorem expand_plain (program : Handler α) : expand app (plain program) = program := by
  unfold expand plain
  rw [Program.translate_translate]
  exact Program.translate_self program

theorem expand_bind (program : CheckedHandler α) (next : α -> CheckedHandler β) :
    expand app (program >>= next) = (expand app program >>= fun value => expand app (next value)) :=
  Program.translate_bind program next

theorem expand_ask (command : Command) : expand app (ask command) = call command :=
  Program.translate_perform (S := checks) (.inner command)

theorem expand_verifyLoginCode (idUser : Int) (code : String) :
    expand app (verifyLoginCode idUser code) =
      OperatorMfaRepository.verifyLoginCode app idUser code :=
  Program.translate_perform (S := checks) (.verifyLoginCode idUser code)

/-- Two programs that begin alike and go on alike. -/
theorem bind_congr {program : Handler α} {first second : α -> Handler β}
    (same : forall value, first value = second value) :
    (program >>= first) = (program >>= second) :=
  congrArg (program >>= ·) (funext same)

theorem expand_limited (idUser : Int) (code : String) :
    expand app (if 32 < len code then pure false else verifyLoginCode idUser code) =
      if 32 < len code then pure false
      else OperatorMfaRepository.verifyLoginCode app idUser code := by
  split
  · rfl
  · exact expand_verifyLoginCode idUser code

theorem expand_checkCode (throttleKey code : String) (idUser : Int) :
    expand app (checkCode app throttleKey code idUser) =
      Auth.checkCode app throttleKey code idUser := by
  unfold checkCode Auth.checkCode
  rw [expand_bind, expand_ask]
  apply bind_congr
  intro found
  cases found with
  | none => exact expand_plain _
  | some operator =>
      dsimp only
      rw [expand_bind, expand_limited]
      apply bind_congr
      intro accepted
      split <;> exact expand_plain _

theorem expand_mfaVerify (visit : Visit) (form : MfaCodeForm) :
    expand app (mfaVerify app visit form) = Auth.mfaVerify app visit form := by
  unfold mfaVerify Auth.mfaVerify
  split
  · rfl
  · rw [expand_bind, expand_plain]
    apply bind_congr
    intro pending
    cases pending with
    | none => rfl
    | some idUser =>
        dsimp only
        rw [expand_bind, expand_ask]
        apply bind_congr
        intro locked
        change Option Nat at locked
        cases locked with
        | some remaining => rfl
        | none =>
            dsimp only
            rw [expand_bind, expand_ask]
            apply bind_congr
            intro limited
            change Option Nat at limited
            cases limited with
            | some remaining => rfl
            | none => exact expand_checkCode _ _ _

theorem expand_checkStepUpCode (mfaCode : String) (operator : Operator) :
    expand app (checkStepUpCode app mfaCode operator) = (do
      if ← OperatorMfaRepository.isEnabled operator.idUser then
        let code := Sanitize.plainText app.clean mfaCode
        if isEmpty code then pure (.rejected "Enter your current two-factor code.")
        else do
          let accepted ←
            (if 32 < len code then pure false
            else OperatorMfaRepository.verifyLoginCode app operator.idUser code)
          if !accepted then
            pure (.rejected "The two-factor code is invalid or expired.")
          else StepUp.finish operator
      else StepUp.finish operator : Handler StepUpOutcome) := by
  unfold checkStepUpCode
  rw [expand_bind, expand_plain]
  apply bind_congr
  intro enabled
  split
  · dsimp only
    split
    · rfl
    · rw [expand_bind, expand_limited]
      apply bind_congr
      intro accepted
      split
      · rfl
      · exact expand_plain _
  · exact expand_plain _

theorem expand_stepUp (currentPassword mfaCode : String) :
    expand app (stepUp app currentPassword mfaCode) =
      StepUp.verify app currentPassword mfaCode := by
  unfold stepUp StepUp.verify
  rw [expand_bind, expand_plain]
  apply bind_congr
  intro named
  cases named with
  | none => rfl
  | some idUser =>
      dsimp only
      rw [expand_bind, expand_ask]
      apply bind_congr
      intro found
      change Option Operator at found
      cases found with
      | none => rfl
      | some operator =>
          dsimp only
          split
          · rfl
          · rw [expand_bind, expand_ask]
            apply bind_congr
            intro verdict
            change Except String PasswordVerification at verdict
            cases verdict with
            | error message => exact expand_plain _
            | ok verification =>
                dsimp only
                split
                · rfl
                · exact expand_checkStepUpCode _ _

end Expansion

/-! ## Handlers that are idle but for one check -/

/-- Idle up to a step-up, and afterwards. -/
inductive Checking (app : AppState) : {α : Type} -> CheckedHandler α -> Prop
  | idle {α : Type} {program : Handler α} (only : program.Only Idle) :
      Checking app (plain program)
  | after {α β : Type} {first : Handler β} {next : β -> CheckedHandler α}
      (only : first.Only Idle) (later : forall value, Checking app (next value)) :
      Checking app (plain first >>= next)
  | stepUp {α : Type} (currentPassword mfaCode : String) {next : StepUpOutcome -> Handler α}
      (only : forall outcome, (next outcome).Only Idle) :
      Checking app (stepUp app currentPassword mfaCode >>= fun outcome => plain (next outcome))

/-- The handler has such a form. -/
def Checkable (app : AppState) {α : Type} (handler : Handler α) : Prop :=
  Exists fun program : CheckedHandler α => Checking app program ∧ expand app program = handler

section Routes

variable {app : AppState} {α β : Type}

theorem checkable_idle {handler : Handler α} (only : handler.Only Idle) :
    Checkable app handler :=
  ⟨plain handler, Checking.idle only, expand_plain handler⟩

theorem checkable_after {first : Handler β} {next : β -> Handler α} (only : first.Only Idle)
    (later : forall value, Checkable app (next value)) : Checkable app (first >>= next) := by
  choose programs checking expands using later
  refine ⟨plain first >>= programs, Checking.after only checking, ?_⟩
  rw [expand_bind, expand_plain]
  exact bind_congr expands

theorem checkable_step {command : Command} {next : command.Reply -> Handler α}
    (idle : Idle command) (later : forall reply, Checkable app (next reply)) :
    Checkable app (call command >>= next) :=
  checkable_after (only_command _ idle) later

theorem checkable_value (value : α) : Checkable app (pure value : Handler α) :=
  checkable_idle (only_value _ value)

theorem checkable_stepUp (currentPassword mfaCode : String)
    {next : StepUpOutcome -> Handler α} (only : forall outcome, (next outcome).Only Idle) :
    Checkable app (StepUp.verify app currentPassword mfaCode >>= next) := by
  refine ⟨_, Checking.stepUp currentPassword mfaCode only, ?_⟩
  rw [expand_bind, expand_stepUp]
  exact bind_congr fun outcome => expand_plain _

theorem checkable_guard (allowedRoles : List OperatorRole) {next : Handler Response}
    (checkable : Checkable app next) : Checkable app (Routes.guard app allowedRoles next) := by
  apply checkable_after (idle_routine routine_authorizedRole)
  intro role
  split
  · split
    · exact checkable
    · exact checkable_value _
  · exact checkable_value _

theorem checkable_insertUserAction (visit : Visit) (form : OperatorForm) :
    Checkable app (Acl.insertUserAction app visit form) := by
  unfold Acl.insertUserAction
  split
  · exact checkable_value _
  split
  · exact checkable_value _
  refine checkable_step True.intro ?_
  intro byEmail
  split
  · exact checkable_value _
  refine checkable_step True.intro ?_
  intro byUsername
  split
  · exact checkable_value _
  apply checkable_stepUp
  intro outcome
  split
  · exact only_value _ _
  · exact only_value _ _
  · split
    · exact only_raise _ _ True.intro
    · exact only_step True.intro fun _ => only_value _ _

theorem checkable_deleteUserAction (visit : Visit) (form : DeleteUserForm) :
    Checkable app (Acl.deleteUserAction app visit form) := by
  unfold Acl.deleteUserAction
  split
  · exact checkable_value _
  dsimp only
  split
  · exact checkable_value _
  split
  · exact checkable_value _
  apply checkable_after (idle_routine (routine_findTarget _))
  intro target
  split
  · exact checkable_value _
  apply checkable_after (idle_routine (routine_record SessionData.authenticatedUserId))
  intro named
  split
  · exact checkable_value _
  apply checkable_stepUp
  intro outcome
  split
  · exact only_value _ _
  · exact only_value _ _
  · exact only_step True.intro fun _ => only_step True.intro fun _ => only_value _ _

theorem checkable_finishUpdate (form : UpdateUserForm) (existing : Operator)
    (input : Acl.ValidatedOperator) (authenticatedId : Option Int) :
    Checkable app (Acl.finishUpdate app form existing input authenticatedId) := by
  apply checkable_stepUp
  intro outcome
  split
  · exact only_value _ _
  · exact only_value _ _
  · apply (idle_update _ _).bind
    intro updated
    have finished : (do
        if existing.operatorType ≠ input.operatorType.asStr then
          call (.deleteByUserId updated.idUser)
        pure (Response.editOperator updated "User details updated successfully." "success") :
        Handler Response).Only Idle := by
      split
      · exact only_step True.intro fun _ => only_value _ _
      · exact only_value _ _
    dsimp only
    split
    · exact (idle_routine (routine_syncSessionIdentity updated)).bind fun _ => finished
    · exact finished

theorem checkable_updateUserAction (visit : Visit) (form : UpdateUserForm) :
    Checkable app (Acl.updateUserAction app visit form) := by
  unfold Acl.updateUserAction
  split
  · exact checkable_value _
  split
  · exact checkable_value _
  refine checkable_step True.intro ?_
  intro found
  split
  · exact checkable_value _
  split
  · exact checkable_value _
  apply checkable_after (idle_routine (routine_record SessionData.authenticatedUserId))
  intro named
  split
  · exact checkable_value _
  refine checkable_step True.intro ?_
  intro byEmail
  split
  · exact checkable_value _
  refine checkable_step True.intro ?_
  intro byUsername
  split
  · exact checkable_value _
  · exact checkable_finishUpdate _ _ _ _

theorem checkable_startUpdate (visit : Visit) (form : UpdateForm) :
    Checkable app (Acl.startUpdate app visit form) := by
  unfold Acl.startUpdate
  split
  · exact checkable_value _
  apply checkable_stepUp
  intro outcome
  split
  · exact only_value _ _
  · exact only_value _ _
  · apply only_step True.intro
    intro started
    split
    · exact (idle_routine (routine_record SessionData.authenticatedUsername)).bind fun _ => only_value _ _
    · exact only_value _ _

theorem checkable_mfaEnroll (visit : Visit) (form : StepUpForm) :
    Checkable app (MfaPages.mfaEnroll app visit form) := by
  unfold MfaPages.mfaEnroll
  split
  · exact checkable_value _
  apply checkable_stepUp
  intro outcome
  split
  · exact only_value _ _
  · exact idle_routine (routine_renderRejected _)
  · apply (idle_routine (routine_isEnabled _)).bind
    intro enabled
    split
    · exact idle_routine (routine_renderOverview _ _ _)
    · exact (idle_routine (routine_beginEnrollment _ _)).bind fun _ => only_value _ _

theorem checkable_mfaDisable (visit : Visit) (form : StepUpForm) :
    Checkable app (MfaPages.mfaDisable app visit form) := by
  unfold MfaPages.mfaDisable
  split
  · exact checkable_value _
  apply checkable_stepUp
  intro outcome
  split
  · exact only_value _ _
  · exact idle_routine (routine_renderRejected _)
  · apply only_step True.intro
    intro _
    exact (idle_routine (routine_refreshCurrentSession _)).bind fun _ => idle_routine (routine_renderOverview _ _ _)

theorem checkable_mfaRegenerate (visit : Visit) (form : StepUpForm) :
    Checkable app (MfaPages.mfaRegenerate app visit form) := by
  unfold MfaPages.mfaRegenerate
  split
  · exact checkable_value _
  apply checkable_stepUp
  intro outcome
  split
  · exact only_value _ _
  · exact idle_routine (routine_renderRejected _)
  · apply only_step True.intro
    intro codes
    split
    · exact (idle_routine (routine_refreshCurrentSession _)).bind fun _ => only_value _ _
    · exact idle_routine (routine_renderOverview _ _ _)

end Routes

/-- The command records nothing in the throttle. -/
def Unmetered : CheckCommand -> Prop
  | .inner command => Unrecorded command
  | .verifyLoginCode _ _ => True

section Unmetered

variable {app : AppState} {α : Type}

theorem unmetered_value (value : α) : (pure value : CheckedHandler α).Only Unmetered :=
  Program.only_pure (S := checks) _ value

theorem unmetered_command {command : CheckCommand} (unmetered : Unmetered command) :
    (Program.perform (S := checks) command).Only Unmetered :=
  (Program.only_perform (S := checks) _ command).mpr unmetered

theorem unmetered_plain {program : Handler α} (only : program.Only Unrecorded) :
    (plain program).Only Unmetered :=
  only.translate fun _ unrecorded => unmetered_command unrecorded

theorem unmetered_limited (idUser : Int) (code : String) :
    (if 32 < len code then pure false else verifyLoginCode idUser code).Only Unmetered := by
  split
  · exact unmetered_value false
  · exact unmetered_command True.intro

theorem unmetered_checkStepUpCode (mfaCode : String) (operator : Operator) :
    (checkStepUpCode app mfaCode operator).Only Unmetered := by
  have finish : (plain (StepUp.finish operator)).Only Unmetered :=
    unmetered_plain (unrecorded_idle (idle_routine (routine_finish operator)))
  apply (unmetered_plain (unrecorded_idle (idle_routine (routine_isEnabled operator.idUser)))).bind
  intro enabled
  split
  · dsimp only
    split
    · exact unmetered_value _
    · apply (unmetered_limited _ _).bind
      intro accepted
      split
      · exact unmetered_value _
      · exact finish
  · exact finish

theorem unmetered_stepUp (currentPassword mfaCode : String) :
    (stepUp app currentPassword mfaCode).Only Unmetered := by
  apply (unmetered_plain (unrecorded_idle (idle_routine (routine_record SessionData.authenticatedUserId)))).bind
  intro named
  split
  · exact unmetered_value _
  · refine Program.Only.bind (unmetered_command ?_) ?_
    · exact True.intro
    intro found
    split
    · exact unmetered_value _
    · split
      · exact unmetered_value _
      · refine Program.Only.bind (unmetered_command ?_) ?_
        · exact True.intro
        intro verdict
        split
        · exact unmetered_plain (only_raise _ _ True.intro)
        · split
          · exact unmetered_value _
          · exact unmetered_checkStepUpCode _ _

/-- A step-up and what is idle record nothing. -/
theorem Checking.unmetered {program : CheckedHandler α} (checking : Checking app program) :
    program.Only Unmetered := by
  induction checking with
  | idle only => exact unmetered_plain (unrecorded_idle only)
  | after only _ inductionHypothesis =>
      exact (unmetered_plain (unrecorded_idle only)).bind inductionHypothesis
  | stepUp currentPassword mfaCode only =>
      apply (unmetered_stepUp currentPassword mfaCode).bind
      intro outcome
      exact unmetered_plain (unrecorded_idle (only outcome))

end Unmetered

/-- The program by which a request is answered, with its checks as commands. -/
inductive Answers (app : AppState) : Request -> CheckedHandler Response -> Prop
  | loginSubmit (visit : Visit) (form : LoginForm) :
      Answers app ⟨visit, .loginSubmit form⟩ (plain (Auth.loginSubmit app visit form))
  | mfaVerify (visit : Visit) (form : MfaCodeForm) :
      Answers app ⟨visit, .mfaVerify form⟩ (mfaVerify app visit form)
  | updatePasswordAction (visit : Visit) (form : UpdatePasswordForm) :
      Answers app ⟨visit, .updatePasswordAction form⟩
        (plain (Routes.respond app ⟨visit, .updatePasswordAction form⟩))
  | other {request : Request} {program : CheckedHandler Response}
      (noSignIn : forall form, request.route ≠ .loginSubmit form)
      (noChallenge : forall form, request.route ≠ .mfaVerify form)
      (checking : Checking app program)
      (expands : expand app program = Routes.respond app request) :
      Answers app request program

/-- The program is the handler of the request's route. -/
theorem Answers.expand {app : AppState} {request : Request} {program : CheckedHandler Response}
    (answers : Answers app request program) :
    CheckedHandler.expand app program = Routes.respond app request := by
  cases answers with
  | loginSubmit visit form => exact expand_plain _
  | mfaVerify visit form => exact expand_mfaVerify visit form
  | updatePasswordAction visit form => exact expand_plain _
  | other noSignIn noChallenge checking expands => exact expands

/-- Every request is answered by such a program. -/
theorem answers_exist (app : AppState) (request : Request) :
    Exists fun program => Answers app request program := by
  rcases request with ⟨visit, route⟩
  have found : forall handler : Handler Response, Checkable app handler ->
      (forall form, route ≠ .loginSubmit form) -> (forall form, route ≠ .mfaVerify form) ->
      handler = Routes.respond app ⟨visit, route⟩ ->
        Exists fun program => Answers app ⟨visit, route⟩ program := by
    rintro handler ⟨program, checking, expands⟩ noSignIn noChallenge same
    exact ⟨program, Answers.other noSignIn noChallenge checking (expands.trans same)⟩
  cases route with
  | loginSubmit form => exact ⟨_, Answers.loginSubmit visit form⟩
  | mfaVerify form => exact ⟨_, Answers.mfaVerify visit form⟩
  | loginPage =>
      have idle : (Auth.loginPage app).Only Idle := by
        apply (idle_routine routine_authorizedRole).bind
        intro role
        split <;> exact only_value _ _
      exact found _ (checkable_idle idle) nofun nofun rfl
  | mfaChallengePage =>
      have idle : Auth.mfaChallengePage.Only Idle := by
        apply (idle_routine routine_mfaPendingUserId).bind
        intro pending
        split <;> exact only_value _ _
      exact found _ (checkable_idle idle) nofun nofun rfl
  | firstTime form => exact found _ (checkable_idle (idle_firstTime form)) nofun nofun rfl
  | page allowedRoles => exact found _ (checkable_guard allowedRoles (checkable_value _)) nofun nofun rfl
  | insertUserAction form =>
      exact found _ (checkable_guard _ (checkable_insertUserAction visit form)) nofun nofun rfl
  | deleteUserAction form =>
      exact found _ (checkable_guard _ (checkable_deleteUserAction visit form)) nofun nofun rfl
  | updateUserAction form =>
      exact found _ (checkable_guard _ (checkable_updateUserAction visit form)) nofun nofun rfl
  | startUpdate form => exact found _ (checkable_guard _ (checkable_startUpdate visit form)) nofun nofun rfl
  | updatePassword => exact found _ (checkable_guard _ (checkable_idle (idle_routine routine_updatePassword))) nofun nofun rfl
  | updatePasswordAction form => exact ⟨_, Answers.updatePasswordAction visit form⟩
  | mfaOverview => exact found _ (checkable_guard _ (checkable_idle (idle_routine routine_mfaOverview))) nofun nofun rfl
  | mfaEnroll form => exact found _ (checkable_guard _ (checkable_mfaEnroll visit form)) nofun nofun rfl
  | mfaConfirm form =>
      exact found _ (checkable_guard _ (checkable_idle (idle_routine (routine_mfaConfirm visit form)))) nofun nofun rfl
  | mfaDisable form => exact found _ (checkable_guard _ (checkable_mfaDisable visit form)) nofun nofun rfl
  | mfaRegenerate form =>
      exact found _ (checkable_guard _ (checkable_mfaRegenerate visit form)) nofun nofun rfl
  | logout csrfToken =>
      exact found _ (checkable_guard _ (checkable_idle (idle_routine (routine_logout visit csrfToken)))) nofun nofun rfl

end CheckedHandler
end KrakenUi
