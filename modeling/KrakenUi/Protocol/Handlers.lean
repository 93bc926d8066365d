import KrakenUi.Protocol.Guarded

namespace KrakenUi

open Interaction

/-!
# The guarded handlers under the contract

Step-up, the refresh of a session's identity, and the handlers behind the
guards.  A handler that ends without a sensitive command only has to be made of
free commands.  The others are followed up to their last sensitive command.
-/

namespace Console

variable {app : AppState} {flight after : Flight app} {idUser : Int} {α : Type}

/-- The answers of a program of free commands do not matter. -/
theorem keeps_freely {program : Handler α} (free : program.Only Free) {request : Request}
    (same : flight.request = request) :
    Keeps (contract app) program flight (fun _ after => after.request = request) :=
  (keeps_free free flight).mono fun _ _ kept => kept.trans same

/-! ## Programs of free commands -/

theorem free_clearMfaPending : Auth.clearMfaPending.Only Free :=
  only_step rfl fun _ => only_command Free rfl

theorem free_mfaPendingUserId : Auth.mfaPendingUserId.Only Free := by
  refine only_step rfl ?_
  intro data
  split
  · exact only_value Free none
  · refine only_step rfl fun later => only_step rfl fun now => ?_
    split
    · exact free_clearMfaPending.bind fun _ => only_value Free none
    · exact only_value Free _

theorem free_mfaChallengePage : Auth.mfaChallengePage.Only Free := by
  refine free_mfaPendingUserId.bind ?_
  intro pending
  split <;> exact only_value Free _

theorem free_logout (visit : Visit) (csrfToken : String) :
    (Auth.logout visit csrfToken).Only Free := by
  unfold Auth.logout
  split
  · exact only_value Free _
  · refine only_step rfl fun _ => only_step rfl fun _ => only_value Free _

theorem free_firstTime (form : FirstTimeForm) : (Setup.firstTime app form).Only Free := by
  unfold Setup.firstTime
  split
  · exact only_value Free _
  split
  · exact only_value Free _
  split
  · exact only_value Free _
  refine only_step rfl ?_
  intro operators
  split
  · exact only_value Free _
  split
  · exact only_value Free _
  · exact only_step rfl fun _ => only_value Free _

theorem free_currentOperator : MfaPages.currentOperator.Only Free := by
  refine only_step rfl ?_
  intro data
  dsimp only
  split
  · exact only_value Free none
  · exact only_command Free rfl

theorem free_renderOverview (operator : Operator) (message messageClass : String) :
    (MfaPages.renderOverview operator message messageClass).Only Free :=
  (free_of_quiet (quiet_status operator.idUser)).bind fun _ => only_value Free _

theorem free_renderRejected (message : String) : (MfaPages.renderRejected message).Only Free := by
  refine free_currentOperator.bind ?_
  intro operator
  split
  · exact only_value Free _
  · exact free_renderOverview _ _ _

theorem free_mfaOverview : (MfaPages.mfaOverview app).Only Free := by
  refine free_currentOperator.bind ?_
  intro operator
  split
  · exact only_value Free _
  · refine (free_of_quiet (quiet_pendingEnrollment _ _)).bind ?_
    intro enrollment
    split
    · exact only_value Free _
    · exact free_renderOverview _ _ _

theorem free_renderInvalidCode (operator : Operator) :
    (MfaPages.renderInvalidCode app operator).Only Free := by
  refine (free_of_quiet (quiet_pendingEnrollment _ _)).bind ?_
  intro enrollment
  split
  · exact only_value Free _
  · exact free_renderOverview _ _ _

theorem free_updatePassword : Acl.updatePassword.Only Free := by
  refine only_step rfl ?_
  intro data
  dsimp only
  split
  · exact only_value Free _
  · refine only_step rfl ?_
    intro operator
    split <;> exact only_value Free _

/-! ## Step-up -/

/-- What a step-up leaves behind. -/
def StepUpKept (flight : Flight app) (idUser : Int) (outcome : StepUpOutcome)
    (after : Flight app) : Prop :=
  after.request = flight.request ∧ Acting after idUser ∧
    forall operator, outcome = .verified operator ->
      operator.idUser = idUser ∧ SteppedUp after.own idUser

theorem stepUpKept_of_refusal {outcome : StepUpOutcome} (request : after.request = flight.request)
    (acting : Acting after idUser) (refused : forall operator, outcome ≠ .verified operator) :
    StepUpKept flight idUser outcome after :=
  ⟨request, acting, fun operator verified => absurd verified (refused operator)⟩

theorem plain_reauthenticatedWithin (maxAgeSeconds : Int) :
    (Auth.reauthenticatedWithin maxAgeSeconds).Only Plain := by
  refine only_step rfl ?_
  intro data
  split
  · exact only_value Plain false
  · exact only_step rfl fun _ => only_value Plain _

theorem keeps_finish (operator : Operator) :
    Keeps (contract app) (StepUp.finish operator) flight
      (fun outcome after => Onward flight after ∧
        forall verified, outcome = .verified verified -> verified = operator) := by
  refine keeps_plainly rfl ?_
  intro _ recorded _ onward₁
  have marking : Auth.markReauthenticated.Only Plain :=
    only_step rfl fun _ => only_step rfl fun _ => only_value Plain _
  refine (keeps_plain marking recorded).bind ?_
  intro _ marked onward₂
  refine (keeps_plain (plain_reauthenticatedWithin _) marked).bind ?_
  intro fresh checked onward₃
  have sofar := (onward₁.trans onward₂).trans onward₃
  split
  · refine Keeps.pure ⟨sofar, ?_⟩
    intro verified same
    cases same
    rfl
  · exact Keeps.pure ⟨sofar, fun verified same => by cases same⟩

/-- The end of a step-up whose second factor is settled. -/
theorem keeps_settled {middle : Flight app} {operator : Operator}
    (request : middle.request = flight.request) (acting : Acting middle idUser)
    (owner : operator.idUser = idUser)
    (stepped : SteppedUp middle.own idUser) :
    Keeps (contract app) (StepUp.finish operator) middle (StepUpKept flight idUser) := by
  refine (keeps_finish operator).mono ?_
  rintro outcome after ⟨onward, returned⟩
  refine ⟨onward.request.trans request, acting.onward onward, ?_⟩
  intro verified same
  exact ⟨by rw [returned verified same]; exact owner, onward.steppedUp stepped⟩

/-- A look that finds two-factor off is the last one for now. -/
theorem unenrolled_of_read {row : Option TotpRow} (read : flight.Follows after (.totpRow idUser) row)
    (off : row.any TotpRow.isConfirmed = false) : Unenrolled after.own idUser := by
  rcases read.own with ⟨item, own, seen, -⟩
  exact ⟨item, ⟨[], flight.own, own, Without.nil⟩, row, seen, off⟩

theorem Unenrolled.steppedUp {items : List (Item app)} (unenrolled : Unenrolled items idUser) :
    SteppedUp items idUser := by
  rcases unenrolled with ⟨look, last, off⟩
  exact ⟨look, last, Or.inl off⟩

theorem keeps_stepUp (acting : Acting flight idUser) (currentPassword mfaCode : String) :
    Keeps (contract app) (StepUp.verify app currentPassword mfaCode) flight
      (StepUpKept flight idUser) := by
  rcases acting.identified with ⟨data, loaded, owner⟩
  refine keeps_again loaded ?_
  intro first _ onward₁
  dsimp only
  rw [owner]
  refine keeps_plainly rfl ?_
  intro found second read onward₂
  have sofar := onward₁.trans onward₂
  change Option Operator at found
  cases found with
  | none =>
      exact Keeps.pure (stepUpKept_of_refusal sofar.request (acting.onward sofar)
        (fun _ same => by cases same))
  | some operator =>
  have same : operator.idUser = idUser := findById_reply read
  dsimp only
  split
  · exact Keeps.pure (stepUpKept_of_refusal sofar.request (acting.onward sofar)
      (fun _ same => by cases same))
  refine keeps_plainly rfl ?_
  intro answer third checked onward₃
  have sofar₃ := sofar.trans onward₃
  have acting₃ := acting.onward sofar₃
  change Except String PasswordVerification at answer
  cases answer with
  | error message => exact keeps_raise message
  | ok verification =>
  dsimp only
  split
  · exact Keeps.pure (stepUpKept_of_refusal sofar₃.request acting₃ (fun _ same => by cases same))
  refine keeps_isEnabled.bind ?_
  rintro enabled fourth ⟨steady, row, looked, on⟩
  rw [same] at looked
  have acting₄ := acting₃.steady steady
  have request₄ := steady.request.trans sofar₃.request
  cases enabled with
  | false =>
      exact keeps_settled request₄ acting₄ same (unenrolled_of_read looked on).steppedUp
  | true =>
      rw [if_pos rfl]
      split
      · exact Keeps.pure (stepUpKept_of_refusal request₄ acting₄ (fun _ same => by cases same))
      refine (keeps_checkedCode _ _).bind ?_
      rintro accepted fifth ⟨⟨steady', consumed⟩, -⟩
      rw [same] at consumed
      have acting₅ := acting₄.steady steady'
      have request₅ := steady'.request.trans request₄
      cases accepted with
      | false =>
          exact Keeps.pure (stepUpKept_of_refusal request₅ acting₅ (fun _ same => by cases same))
      | true =>
          exact keeps_settled request₅ acting₅ same (consumed rfl).steppedUp

/-! ## Refreshing the identity of a session -/

theorem epochRead_of_follows {command : Command} {reply : command.Reply} {operator : Operator}
    (follows : flight.Follows after command reply)
    (reads : forall item : Item app, item.seen = ⟨command, reply⟩ -> Reads item operator) :
    EpochRead after.own operator.idUser operator.authzVersion := by
  rcases follows.own with ⟨item, own, seen, -⟩
  exact ⟨item, by rw [own]; exact List.mem_cons_self, operator, reads item seen, rfl, rfl⟩

/-- A guarded request may write its own account and an epoch it has read. -/
theorem keeps_refresh {operator : Operator} (acting : Acting flight operator.idUser)
    (read : EpochRead flight.own operator.idUser operator.authzVersion) :
    Keeps (contract app) (Auth.refreshAuthenticatedSession app operator) flight
      (fun _ after => after.request = flight.request) := by
  rcases acting.identified with ⟨data, loaded, owner⟩
  have permitted : Permitted flight (.insert (.authenticatedUserId operator.idUser)) := by
    simp only [Permitted, acting.guardedRoute]
    exact acting.identified
  refine keeps_call permitted ?_
  intro _ first written
  have identified : Identified first operator.idUser :=
    ⟨_, (insert_data loaded written).1, rfl⟩
  have acting₁ : Acting first operator.idUser :=
    ⟨by rw [written.request]; exact acting.guardedRoute, identified,
      acting.guarded.mono (written.subset)⟩
  refine keeps_plainly rfl ?_
  intro _ second _ onward₂
  refine keeps_plainly rfl ?_
  intro _ third _ onward₃
  have sofar := onward₂.trans onward₃
  have acting₃ := acting₁.onward sofar
  refine keeps_end ?_ ?_
  · exact ⟨operator.idUser, acting₃.identified,
      read.mono fun _ member => sofar.subset (written.subset member),
      fun _ => acting₃.guarded⟩
  · intro _ last stored
    exact stored.request.trans (sofar.request.trans written.request)

/-! ## The handlers -/

/-- The rule for handlers that start with a step-up and are harmless when it is
refused. -/
theorem keeps_afterStepUp {currentPassword mfaCode : String} {next : StepUpOutcome -> Handler α}
    {request : Request} (acting : Acting flight idUser) (same : flight.request = request)
    (unauthorized : (next .unauthorized).Only Free)
    (rejected : forall message, (next (.rejected message)).Only Free)
    (verified : forall operator after, after.request = request -> Acting after operator.idUser ->
      SteppedUp after.own operator.idUser ->
      Keeps (contract app) (next (.verified operator)) after
        (fun _ last => last.request = request)) :
    Keeps (contract app) (StepUp.verify app currentPassword mfaCode >>= next) flight
      (fun _ last => last.request = request) := by
  refine (keeps_stepUp acting currentPassword mfaCode).bind ?_
  rintro outcome after ⟨request', acting', passed⟩
  cases outcome with
  | verified operator =>
      rcases passed operator rfl with ⟨owner, stepped⟩
      refine verified operator after (request'.trans same) (by rw [owner]; exact acting') ?_
      rw [owner]
      exact stepped
  | unauthorized => exact keeps_freely unauthorized (request'.trans same)
  | rejected message => exact keeps_freely (rejected message) (request'.trans same)

theorem keeps_insertUserAction (acting : Acting flight idUser) (visit : Visit)
    (form : OperatorForm) :
    Keeps (contract app) (Acl.insertUserAction app visit form) flight
      (fun _ after => after.request = flight.request) := by
  unfold Acl.insertUserAction
  split
  · exact Keeps.pure rfl
  split
  · exact Keeps.pure rfl
  rename_i input _
  refine keeps_plainly rfl ?_
  intro byEmail first _ onward₁
  split
  · exact Keeps.pure onward₁.request
  refine keeps_plainly rfl ?_
  intro byUsername second _ onward₂
  have sofar := onward₁.trans onward₂
  split
  · exact Keeps.pure sofar.request
  refine keeps_afterStepUp (acting.onward sofar) sofar.request ?_ ?_ ?_
  · exact only_value Free _
  · exact fun message => only_value Free _
  · intro operator after request _ _
    refine keeps_freely ?_ request
    cases input.password with
    | none => exact only_raise Free _ rfl
    | some password => exact only_step rfl fun _ => only_value Free _

/-- The account that a deletion compares with its target is the one the
request acts for. -/
theorem keeps_deleteUserAction (acting : Acting flight idUser) (visit : Visit)
    (form : DeleteUserForm) :
    Keeps (contract app) (Acl.deleteUserAction app visit form) flight
      (fun _ after => after.request = flight.request) := by
  unfold Acl.deleteUserAction
  split
  · exact Keeps.pure rfl
  dsimp only
  split
  · exact Keeps.pure rfl
  split
  · exact Keeps.pure rfl
  rename_i named _
  have searching : (Acl.findTarget named).Only Plain := by
    cases named <;> exact only_command Plain rfl
  refine (keeps_plain searching flight).bind ?_
  intro target first onward₁
  cases target with
  | none => exact Keeps.pure onward₁.request
  | some target =>
  have acting₁ := acting.onward onward₁
  rcases acting₁.identified with ⟨data, loaded, owner⟩
  refine keeps_again loaded ?_
  intro second _ onward₂
  have sofar := onward₁.trans onward₂
  dsimp only
  rw [owner]
  split
  · exact Keeps.pure sofar.request
  rename_i different
  refine (keeps_stepUp (acting.onward sofar) _ _).bind ?_
  rintro outcome after ⟨request, acting', passed⟩
  have same := request.trans sofar.request
  cases outcome with
  | unauthorized => exact Keeps.pure same
  | rejected message => exact Keeps.pure same
  | verified operator =>
      refine keeps_call ⟨idUser, acting'.identified, fun equal => different (by rw [equal])⟩ ?_
      intro _ deleted removing
      have revoking : (do
          call (.deleteByUserId target.idUser)
          pure (Response.deleteUser "" "User removed." "error") : Handler Response).Only Free :=
        only_step rfl fun _ => only_value Free _
      exact keeps_freely revoking (removing.request.trans same)

theorem keeps_finishUpdate {existing : Operator} {input : Acl.ValidatedOperator}
    (acting : Acting flight idUser) (form : UpdateUserForm)
    (allowed : idUser ≠ existing.idUser ∨ input.operatorType.asStr = OperatorRole.admin.asStr) :
    Keeps (contract app) (Acl.finishUpdate app form existing input (some idUser)) flight
      (fun _ after => after.request = flight.request) := by
  refine (keeps_stepUp acting _ _).bind ?_
  rintro outcome first ⟨request, acting₁, -⟩
  cases outcome with
  | unauthorized => exact Keeps.pure request
  | rejected message => exact Keeps.pure request
  | verified operator =>
  have written : Keeps (contract app)
      (OperatorRepository.update existing
        ⟨input.username, input.email, input.operatorType.asStr, input.password⟩) first
      (fun updated after => after.request = flight.request ∧ Acting after idUser ∧
        EpochRead after.own updated.idUser updated.authzVersion) := by
    have saving : forall {middle : Flight app} (hash : Option String), Onward first middle ->
        (forall record, hash = some record -> Encrypted middle.own existing.idUser record) ->
        Keeps (contract app)
          (call (.update existing.idUser
            ⟨input.username, input.email, input.operatorType.asStr, input.password⟩ hash)) middle
          (fun updated after => after.request = flight.request ∧ Acting after idUser ∧
            EpochRead after.own updated.idUser updated.authzVersion) := by
      intro middle hash onward encrypted
      have acting₂ := acting₁.onward onward
      refine keeps_end ⟨⟨idUser, acting₂.identified, allowed⟩, encrypted⟩ ?_
      intro updated after stored
      refine ⟨stored.request.trans (onward.request.trans request),
        acting₂.steady (steady_of_quiet stored rfl), ?_⟩
      exact epochRead_of_follows stored fun item seen => Or.inr (Or.inr (Or.inl ⟨_, _, _, seen⟩))
    unfold OperatorRepository.update
    split
    · refine keeps_plainly rfl ?_
      intro hash middle encrypted onward
      apply saving (some hash) onward
      intro record same
      rw [← Option.some.inj same]
      exact ⟨_, encrypted.saw⟩
    · apply saving none (Onward.refl first)
      intro record missing
      cases missing
  refine written.bind ?_
  rintro updated second ⟨request₂, acting₂, read⟩
  have ending : forall {last : Flight app}, last.request = flight.request ->
      Keeps (contract app)
        (do
          if existing.operatorType ≠ input.operatorType.asStr then
            call (.deleteByUserId updated.idUser)
          pure (Response.editOperator updated "User details updated successfully." "success"))
        last (fun _ after => after.request = flight.request) := by
    intro last request
    refine keeps_freely ?_ request
    split
    · exact only_step rfl fun _ => only_value Free _
    · exact only_value Free _
  by_cases own : some idUser = some updated.idUser
  · simp only [own, if_true]
    cases own
    refine (keeps_refresh acting₂ read).bind ?_
    intro _ last request₃
    exact ending (request₃.trans request₂)
  · simp only [own, if_false]
    exact ending request₂

theorem keeps_updateUserAction (acting : Acting flight idUser) (visit : Visit)
    (form : UpdateUserForm) :
    Keeps (contract app) (Acl.updateUserAction app visit form) flight
      (fun _ after => after.request = flight.request) := by
  unfold Acl.updateUserAction
  split
  · exact Keeps.pure rfl
  split
  · exact Keeps.pure rfl
  rename_i target _
  refine keeps_plainly rfl ?_
  intro found first read onward₁
  change Option Operator at found
  cases found with
  | none => exact Keeps.pure onward₁.request
  | some existing =>
  have same : existing.idUser = target := findById_reply read
  dsimp only
  split
  · exact Keeps.pure onward₁.request
  rename_i input _
  have acting₁ := acting.onward onward₁
  rcases acting₁.identified with ⟨data, loaded, owner⟩
  refine keeps_again loaded ?_
  intro second _ onward₂
  have sofar₂ := onward₁.trans onward₂
  dsimp only
  rw [owner]
  split
  · exact Keeps.pure sofar₂.request
  rename_i permitted
  refine keeps_plainly rfl ?_
  intro byEmail third _ onward₃
  have sofar₃ := sofar₂.trans onward₃
  split
  · exact Keeps.pure sofar₃.request
  refine keeps_plainly rfl ?_
  intro byUsername fourth _ onward₄
  have sofar₄ := sofar₃.trans onward₄
  split
  · exact Keeps.pure sofar₄.request
  refine (keeps_finishUpdate (acting.onward sofar₄) form ?_).mono
    fun _ _ request => request.trans sofar₄.request
  rw [same]
  by_cases self : idUser = target
  · right
    by_contra demoted
    exact permitted ⟨by rw [self], demoted⟩
  · exact Or.inl self

theorem keeps_storePassword {existing : Operator} (acting : Acting flight existing.idUser)
    (password : String) :
    Keeps (contract app) (Acl.storePassword app existing.idUser existing password) flight
      (fun _ after => after.request = flight.request) := by
  unfold Acl.storePassword
  split
  · exact Keeps.pure rfl
  split
  · exact Keeps.pure rfl
  have written : Keeps (contract app) (OperatorRepository.updatePassword existing password) flight
      (fun updated after => after.request = flight.request ∧ Acting after updated.idUser ∧
        EpochRead after.own updated.idUser updated.authzVersion) := by
    refine keeps_plainly rfl ?_
    intro hash middle encrypted onward
    have acting₁ := acting.onward onward
    refine keeps_end ⟨password, encrypted.saw⟩ ?_
    intro updated after stored
    have owner : updated.idUser = existing.idUser := updatePassword_reply stored
    refine ⟨stored.request.trans onward.request, ?_, ?_⟩
    · rw [owner]
      exact acting₁.steady (steady_of_quiet stored rfl)
    · exact epochRead_of_follows stored fun item seen => Or.inr (Or.inr (Or.inr ⟨_, _, seen⟩))
  refine written.bind ?_
  rintro updated first ⟨request, acting₁, read⟩
  refine (keeps_refresh acting₁ read).bind ?_
  intro _ second request₂
  refine keeps_freely ?_ (request₂.trans request)
  refine only_step rfl ?_
  intro current
  split
  · exact only_step rfl fun _ => only_value Free _
  · exact only_value Free _

theorem keeps_updatePasswordAction (acting : Acting flight idUser) (visit : Visit)
    (form : UpdatePasswordForm) :
    Keeps (contract app) (Acl.updatePasswordAction app visit form) flight
      (fun _ after => after.request = flight.request) := by
  unfold Acl.updatePasswordAction
  split
  · exact Keeps.pure rfl
  rcases acting.identified with ⟨data, loaded, owner⟩
  refine keeps_again loaded ?_
  intro first _ onward₁
  dsimp only
  rw [owner]
  refine keeps_plainly rfl ?_
  intro found second read onward₂
  have sofar₂ := onward₁.trans onward₂
  change Option Operator at found
  cases found with
  | none => exact Keeps.pure sofar₂.request
  | some existing =>
  have same : existing.idUser = idUser := findById_reply read
  dsimp only
  split
  · exact Keeps.pure sofar₂.request
  refine keeps_plainly rfl ?_
  intro answer third _ onward₃
  have sofar₃ := sofar₂.trans onward₃
  change Except String PasswordVerification at answer
  cases answer with
  | error message => exact keeps_raise message
  | ok verification =>
  dsimp only
  split
  · exact Keeps.pure sofar₃.request
  subst same
  exact (keeps_storePassword (acting.onward sofar₃) form.password).mono
    fun _ _ request => request.trans sofar₃.request

theorem keeps_startUpdate (acting : Acting flight idUser) (visit : Visit) (form : UpdateForm) :
    Keeps (contract app) (Acl.startUpdate app visit form) flight
      (fun _ after => after.request = flight.request) := by
  unfold Acl.startUpdate
  split
  · exact Keeps.pure rfl
  refine keeps_afterStepUp acting rfl ?_ ?_ ?_
  · exact only_value Free _
  · exact fun message => only_value Free _
  · intro operator after request _ _
    refine keeps_freely ?_ request
    refine only_step rfl ?_
    intro started
    split
    · exact only_step rfl fun _ => only_value Free _
    · exact only_value Free _

/-- The pending row replaces whatever is stored by then. -/
theorem keeps_beginEnrollment (unenrolled : Unenrolled flight.own idUser) (accountLabel : String) :
    Keeps (contract app) (OperatorMfaRepository.beginEnrollment app idUser accountLabel) flight
      (fun _ after => after.request = flight.request) := by
  refine keeps_plainly rfl ?_
  intro secret first _ onward₁
  refine keeps_plainly rfl ?_
  intro sealed second _ onward₂
  have sofar := onward₁.trans onward₂
  refine keeps_call (sofar.unenrolled unenrolled) ?_
  intro _ last begun
  exact Keeps.pure (begun.request.trans sofar.request)

theorem keeps_mfaEnroll (acting : Acting flight idUser) (visit : Visit) (form : StepUpForm) :
    Keeps (contract app) (MfaPages.mfaEnroll app visit form) flight
      (fun _ after => after.request = flight.request) := by
  unfold MfaPages.mfaEnroll
  split
  · exact Keeps.pure rfl
  refine keeps_afterStepUp acting rfl ?_ ?_ ?_
  · exact only_value Free _
  · exact free_renderRejected
  · intro operator after request _ _
    refine keeps_isEnabled.bind ?_
    rintro enabled first ⟨steady, row, looked, on⟩
    have request₁ := steady.request.trans request
    cases enabled with
    | true => exact keeps_freely (free_renderOverview _ _ _) request₁
    | false =>
        refine (keeps_beginEnrollment (unenrolled_of_read looked on) _).bind ?_
        intro _ last request₂
        exact Keeps.pure (request₂.trans request₁)

/-- The account is read and its epoch becomes the session's. -/
theorem keeps_refreshCurrentSession (acting : Acting flight idUser) {next : Operator -> Handler α}
    {request : Request} (same : flight.request = request)
    (rest : forall operator, (next operator).Only Free) :
    Keeps (contract app) (MfaPages.refreshCurrentSession app idUser >>= next) flight
      (fun _ after => after.request = request) := by
  have refreshed : Keeps (contract app) (MfaPages.refreshCurrentSession app idUser) flight
      (fun _ after => after.request = request) := by
    refine keeps_plainly rfl ?_
    intro found first read onward
    change Option Operator at found
    cases found with
    | none => exact keeps_raise _
    | some operator =>
        have owner : operator.idUser = idUser := findById_reply read
        have acting₁ := acting.onward onward
        rw [← owner] at acting₁
        refine (keeps_refresh acting₁
          (epochRead_of_follows read fun item seen => Or.inr (Or.inl ⟨_, seen⟩))).bind ?_
        intro _ last request'
        exact Keeps.pure (request'.trans (onward.request.trans same))
  exact refreshed.bind fun operator after request' => keeps_freely (rest operator) request'

theorem keeps_mfaConfirm (acting : Acting flight idUser) (visit : Visit) (form : ConfirmForm) :
    Keeps (contract app) (MfaPages.mfaConfirm app visit form) flight
      (fun _ after => after.request = flight.request) := by
  unfold MfaPages.mfaConfirm
  split
  · exact Keeps.pure rfl
  rcases acting.identified with ⟨data, loaded, owner⟩
  have current : Keeps (contract app) MfaPages.currentOperator flight
      (fun operator after => Onward flight after ∧
        forall found, operator = some found -> found.idUser = idUser) := by
    refine keeps_again loaded ?_
    intro first _ onward₁
    dsimp only
    rw [owner]
    refine keeps_end True.intro ?_
    intro found second read
    refine ⟨onward₁.trans (onward_of_plain read rfl), ?_⟩
    rintro operator rfl
    exact findById_reply read
  refine current.bind ?_
  rintro found first ⟨onward, same⟩
  cases found with
  | none => exact Keeps.pure onward.request
  | some operator =>
  have owned := same operator rfl
  refine (keeps_quiet (quiet_confirm operator.idUser _) first).bind ?_
  intro outcome second steady
  have request := steady.request.trans onward.request
  have acting₂ := (acting.onward onward).steady steady
  cases outcome with
  | confirmed recoveryCodes =>
      rw [owned]
      exact keeps_refreshCurrentSession acting₂ request fun _ => only_value Free _
  | invalidCode => exact keeps_freely (free_renderInvalidCode operator) request
  | noPendingEnrollment => exact keeps_freely (free_renderOverview _ _ _) request

theorem keeps_mfaDisable (acting : Acting flight idUser) (visit : Visit) (form : StepUpForm) :
    Keeps (contract app) (MfaPages.mfaDisable app visit form) flight
      (fun _ after => after.request = flight.request) := by
  unfold MfaPages.mfaDisable
  split
  · exact Keeps.pure rfl
  refine keeps_afterStepUp acting rfl ?_ ?_ ?_
  · exact only_value Free _
  · exact free_renderRejected
  · intro operator first request acting₁ stepped
    refine keeps_call stepped ?_
    intro _ second disabled
    refine keeps_refreshCurrentSession (acting₁.steady (steady_of_quiet disabled rfl))
      (disabled.request.trans request) ?_
    intro refreshed
    exact free_renderOverview _ _ _

theorem keeps_mfaRegenerate (acting : Acting flight idUser) (visit : Visit) (form : StepUpForm) :
    Keeps (contract app) (MfaPages.mfaRegenerate app visit form) flight
      (fun _ after => after.request = flight.request) := by
  unfold MfaPages.mfaRegenerate
  split
  · exact Keeps.pure rfl
  refine keeps_afterStepUp acting rfl ?_ ?_ ?_
  · exact only_value Free _
  · exact free_renderRejected
  · intro operator first request acting₁ _
    refine keeps_plainly rfl ?_
    intro codes second _ onward
    have request₂ := onward.request.trans request
    split
    · exact keeps_refreshCurrentSession (acting₁.onward onward) request₂
        fun _ => only_value Free _
    · exact keeps_freely (free_renderOverview _ _ _) request₂

end Console
end KrakenUi
