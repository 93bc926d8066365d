import KrakenUi.Guarantees.Administrators
import KrakenUi.Interaction.Audit
import KrakenUi.Protocol.Authority

namespace KrakenUi

open Interaction

/-!
# Nothing is changed without authority

Every handler is followed up to its privileged command.  The handlers never look at
the guard's answer again, and other requests may have changed the accounts in the
meantime; what is shown is what stands in the journal of the request itself, in front
of the command.
-/

namespace Console

open Privilege

variable {app : AppState} {flight after : Flight app} {idUser : Int} {α : Type}

/-! ## The handlers -/

theorem authorised_insertUserAction (visit : Visit) {form : OperatorForm}
    (admitted : Admitted flight (.insertUserAction form) [.admin] idUser) :
    Keeps (authority app) (Acl.insertUserAction app visit form) flight (fun _ _ => True) := by
  unfold Acl.insertUserAction
  split
  · exact Keeps.pure True.intro
  split
  · exact Keeps.pure True.intro
  rename_i input _
  refine authorised_plainly rfl True.intro ?_
  intro byEmail first _ onward₁
  split
  · exact Keeps.pure True.intro
  refine authorised_plainly rfl True.intro ?_
  intro byUsername second _ onward₂
  split
  · exact Keeps.pure True.intro
  refine authorised_afterStepUp (admitted.onward (onward₁.trans onward₂)) rfl
    (only_value _ _) (fun _ => only_value _ _) ?_
  intro operator third _ cleared
  dsimp only
  cases input.password with
  | none => exact keeps_unprivileged (only_raise _ _ True.intro) third
  | some password =>
      exact authorised_finally (Or.inr ⟨idUser, cleared⟩) fun _ => only_value _ _

theorem authorised_deleteUserAction (visit : Visit) {form : DeleteUserForm}
    (admitted : Admitted flight (.deleteUserAction form) [.admin] idUser) :
    Keeps (authority app) (Acl.deleteUserAction app visit form) flight (fun _ _ => True) := by
  unfold Acl.deleteUserAction
  split
  · exact Keeps.pure True.intro
  dsimp only
  split
  · exact Keeps.pure True.intro
  split
  · exact Keeps.pure True.intro
  rename_i named _
  have searching : (Acl.findTarget named).Only Plain := by
    cases named <;> exact only_command Plain rfl
  refine (authorised_onward searching (unprivileged_findTarget named) flight).bind ?_
  intro target first onward₁
  cases target with
  | none => exact Keeps.pure True.intro
  | some target =>
  refine authorised_plainly rfl True.intro ?_
  intro data second _ onward₂
  dsimp only
  split
  · exact Keeps.pure True.intro
  refine authorised_afterStepUp (admitted.onward (onward₁.trans onward₂)) rfl
    (only_value _ _) (fun _ => only_value _ _) ?_
  intro operator third _ cleared
  exact authorised_finally ⟨idUser, cleared⟩
    fun _ => only_step True.intro fun _ => only_value _ _

theorem authorised_finishUpdate {form : UpdateUserForm} {existing : Operator}
    {input : Acl.ValidatedOperator} (authenticatedId : Option Int)
    (admitted : Admitted flight (.updateUserAction form) [.admin] idUser) :
    Keeps (authority app) (Acl.finishUpdate app form existing input authenticatedId) flight
      (fun _ _ => True) := by
  refine authorised_afterStepUp admitted rfl (only_value _ _) (fun _ => only_value _ _) ?_
  intro operator first _ cleared
  have written : Keeps (authority app)
      (OperatorRepository.update existing
        ⟨input.username, input.email, input.operatorType.asStr, input.password⟩) first
      (fun _ _ => True) := by
    have saving : forall {middle : Flight app} (hash : Option String), Onward first middle ->
        Keeps (authority app)
          (call (.update existing.idUser
            ⟨input.username, input.email, input.operatorType.asStr, input.password⟩ hash)) middle
          (fun _ _ => True) := by
      intro middle hash onward
      exact Keeps.call ⟨idUser, cleared.onward onward⟩ fun _ _ _ => Keeps.pure True.intro
    unfold OperatorRepository.update
    split
    · refine authorised_plainly rfl True.intro ?_
      intro hash middle _ onward
      exact saving (some hash) onward
    · exact saving none (Onward.refl first)
  refine written.bind ?_
  intro updated second _
  have ending : (do
      if existing.operatorType ≠ input.operatorType.asStr then
        call (.deleteByUserId updated.idUser)
      pure (Response.editOperator updated "User details updated successfully." "success") :
      Handler Response).Only Unprivileged := by
    split
    · exact only_step True.intro fun _ => only_value _ _
    · exact only_value _ _
  apply keeps_unprivileged
  dsimp only
  split
  · exact (unprivileged_syncSessionIdentity updated).bind fun _ => ending
  · exact ending

theorem authorised_updateUserAction (visit : Visit) {form : UpdateUserForm}
    (admitted : Admitted flight (.updateUserAction form) [.admin] idUser) :
    Keeps (authority app) (Acl.updateUserAction app visit form) flight (fun _ _ => True) := by
  unfold Acl.updateUserAction
  split
  · exact Keeps.pure True.intro
  split
  · exact Keeps.pure True.intro
  refine authorised_plainly rfl True.intro ?_
  intro found first _ onward₁
  change Option Operator at found
  cases found with
  | none => exact Keeps.pure True.intro
  | some existing =>
  dsimp only
  split
  · exact Keeps.pure True.intro
  refine authorised_plainly rfl True.intro ?_
  intro data second _ onward₂
  dsimp only
  split
  · exact Keeps.pure True.intro
  refine authorised_plainly rfl True.intro ?_
  intro byEmail third _ onward₃
  split
  · exact Keeps.pure True.intro
  refine authorised_plainly rfl True.intro ?_
  intro byUsername fourth _ onward₄
  split
  · exact Keeps.pure True.intro
  · exact authorised_finishUpdate _
      (admitted.onward (((onward₁.trans onward₂).trans onward₃).trans onward₄))

theorem authorised_startUpdate (visit : Visit) {form : UpdateForm}
    (admitted : Admitted flight (.startUpdate form) [.admin] idUser) :
    Keeps (authority app) (Acl.startUpdate app visit form) flight (fun _ _ => True) := by
  unfold Acl.startUpdate
  split
  · exact Keeps.pure True.intro
  refine authorised_afterStepUp admitted rfl (only_value _ _) (fun _ => only_value _ _) ?_
  intro operator first _ cleared
  refine authorised_finally ⟨idUser, cleared⟩ ?_
  intro started
  split
  · exact (unprivileged_record SessionData.authenticatedUsername).bind fun _ => only_value _ _
  · exact only_value _ _

theorem authorised_storePassword {existing : Operator} {password : String}
    (empowered : Empowered flight.own existing.idUser OperatorRole.all)
    (repeated : PasswordRepeated flight existing.idUser) (authenticatedId : Int) :
    Keeps (authority app) (Acl.storePassword app authenticatedId existing password) flight
      (fun _ _ => True) := by
  unfold Acl.storePassword
  split
  · exact Keeps.pure True.intro
  split
  · exact Keeps.pure True.intro
  have written : Keeps (authority app) (OperatorRepository.updatePassword existing password)
      flight (fun _ _ => True) := by
    refine authorised_plainly rfl True.intro ?_
    intro hash middle _ onward
    refine Keeps.call ⟨empowered.mono onward.subset, ?_⟩ fun _ _ _ => Keeps.pure True.intro
    rcases repeated with ⟨given, route, reconfirmed⟩
    exact ⟨given, by rw [onward.request]; exact route, reconfirmed.mono onward.subset⟩
  refine written.bind ?_
  intro updated first _
  apply keeps_unprivileged
  apply (unprivileged_syncSessionIdentity updated).bind
  intro _
  apply only_step True.intro
  intro current
  split
  · exact only_step True.intro fun _ => only_value _ _
  · exact only_value _ _

/-- The password change compares the current password itself. -/
theorem authorised_updatePasswordAction (visit : Visit) {form : UpdatePasswordForm}
    (admitted : Admitted flight (.updatePasswordAction form) OperatorRole.all idUser) :
    Keeps (authority app) (Acl.updatePasswordAction app visit form) flight
      (fun _ _ => True) := by
  unfold Acl.updatePasswordAction
  split
  · exact Keeps.pure True.intro
  rcases admitted.acting.identified with ⟨data, loaded, owner⟩
  refine authorised_again loaded ?_
  intro first _ onward₁
  dsimp only
  rw [owner]
  refine authorised_plainly rfl True.intro ?_
  intro found second read onward₂
  change Option Operator at found
  cases found with
  | none => exact Keeps.pure True.intro
  | some existing =>
  have same : existing.idUser = idUser := findById_reply read
  dsimp only
  split
  · exact Keeps.pure True.intro
  refine authorised_plainly rfl True.intro ?_
  intro answer third checked onward₃
  change Except String PasswordVerification at answer
  cases answer with
  | error message => exact keeps_unprivileged (only_raise _ _ True.intro) third
  | ok verification =>
  dsimp only
  split
  · exact Keeps.pure True.intro
  rename_i valid
  rw [Bool.not_eq_true', Bool.not_eq_false] at valid
  have now := admitted.onward ((onward₁.trans onward₂).trans onward₃)
  subst same
  apply authorised_storePassword now.empowered
  rcases read.own with ⟨item, own, seen, -⟩
  refine ⟨form.currentPassword, by rw [now.route]; rfl, existing, verification, ?_, rfl,
    checked.saw, valid⟩
  refine ⟨item, onward₃.subset ?_, Or.inr (Or.inl ⟨_, seen⟩)⟩
  rw [own]
  exact List.mem_cons_self

theorem authorised_mfaEnroll (visit : Visit) {form : StepUpForm}
    (admitted : Admitted flight (.mfaEnroll form) OperatorRole.all idUser) :
    Keeps (authority app) (MfaPages.mfaEnroll app visit form) flight (fun _ _ => True) := by
  unfold MfaPages.mfaEnroll
  split
  · exact Keeps.pure True.intro
  refine authorised_afterStepUp admitted rfl (only_value _ _) unprivileged_renderRejected ?_
  intro operator first owner cleared
  subst owner
  dsimp only
  refine (Keeps.recall keeps_isEnabled
    (keeps_unprivileged (unprivileged_isEnabled operator.idUser) first)).bind ?_
  rintro enabled second ⟨⟨steady, row, looked, off⟩, -⟩
  cases enabled with
  | true => exact keeps_unprivileged (unprivileged_renderOverview _ _ _) second
  | false =>
  -- The second look has found the second factor off once more.
  have still : Cleared second OperatorRole.all operator.idUser := by
    refine ⟨cleared.empowered.mono steady.subset, ?_, (unenrolled_of_read looked off).steppedUp⟩
    rcases cleared.repeated with ⟨password, given, reconfirmed⟩
    exact ⟨password, by rw [steady.request]; exact given, reconfirmed.mono steady.subset⟩
  have beginning : Keeps (authority app)
      (OperatorMfaRepository.beginEnrollment app operator.idUser operator.username) second
      (fun _ _ => True) := by
    refine authorised_plainly rfl True.intro ?_
    intro secret third _ onward₃
    refine authorised_plainly rfl True.intro ?_
    intro sealed fourth _ onward₄
    exact authorised_finally (still.onward (onward₃.trans onward₄)) fun _ => only_value _ _
  refine beginning.bind ?_
  intro _ last _
  exact Keeps.pure True.intro

/-- An enrolment is confirmed for the account that the guard let through. -/
theorem authorised_mfaConfirm (visit : Visit) {form : ConfirmForm}
    (admitted : Admitted flight (.mfaConfirm form) OperatorRole.all idUser) :
    Keeps (authority app) (MfaPages.mfaConfirm app visit form) flight (fun _ _ => True) := by
  unfold MfaPages.mfaConfirm
  split
  · exact Keeps.pure True.intro
  rcases admitted.acting.identified with ⟨data, loaded, owner⟩
  have current : Keeps (authority app) MfaPages.currentOperator flight
      (fun operator after => Onward flight after ∧
        forall found, operator = some found -> found.idUser = idUser) := by
    refine authorised_again loaded ?_
    intro first _ onward₁
    dsimp only
    rw [owner]
    refine Keeps.call True.intro ?_
    intro found second read
    refine Keeps.pure ⟨onward₁.trans (onward_of_plain read rfl), ?_⟩
    rintro operator rfl
    exact findById_reply read
  refine current.bind ?_
  rintro found first ⟨onward, same⟩
  cases found with
  | none => exact Keeps.pure True.intro
  | some operator =>
  have owned := same operator rfl
  subst owned
  have empowered := (admitted.onward onward).empowered
  have confirming : forall code, Keeps (authority app)
      (OperatorMfaRepository.confirm app operator.idUser code) first (fun _ _ => True) := by
    intro code
    refine Keeps.perform True.intro ?_
    intro row second looked
    split
    · exact Keeps.pure True.intro
    split
    · exact Keeps.pure True.intro
    split
    · exact keeps_unprivileged (only_raise _ _ True.intro) second
    refine ((keeps_quiet (quiet_verifyTotpCode _ code) second).recall (keeps_unprivileged
      (unprivileged_verifying (Idling.verifying_verifyTotpCode _ _)) second)).bind ?_
    rintro step third ⟨steady, -⟩
    split
    · exact Keeps.pure True.intro
    refine authorised_finally (empowered.mono ?_) ?_
    · exact List.Subset.trans looked.subset steady.subset
    · intro codes
      split <;> exact only_value _ _
  refine (confirming _).bind ?_
  intro outcome last _
  apply keeps_unprivileged
  split
  · exact (unprivileged_refreshCurrentSession _).bind fun _ => only_value _ _
  · exact unprivileged_renderInvalidCode _
  · exact unprivileged_renderOverview _ _ _

theorem authorised_mfaDisable (visit : Visit) {form : StepUpForm}
    (admitted : Admitted flight (.mfaDisable form) OperatorRole.all idUser) :
    Keeps (authority app) (MfaPages.mfaDisable app visit form) flight (fun _ _ => True) := by
  unfold MfaPages.mfaDisable
  split
  · exact Keeps.pure True.intro
  refine authorised_afterStepUp admitted rfl (only_value _ _) unprivileged_renderRejected ?_
  intro operator first owner cleared
  subst owner
  exact authorised_finally cleared fun _ => (unprivileged_refreshCurrentSession _).bind
    fun _ => unprivileged_renderOverview _ _ _

theorem authorised_mfaRegenerate (visit : Visit) {form : StepUpForm}
    (admitted : Admitted flight (.mfaRegenerate form) OperatorRole.all idUser) :
    Keeps (authority app) (MfaPages.mfaRegenerate app visit form) flight (fun _ _ => True) := by
  unfold MfaPages.mfaRegenerate
  split
  · exact Keeps.pure True.intro
  refine authorised_afterStepUp admitted rfl (only_value _ _) unprivileged_renderRejected ?_
  intro operator first owner cleared
  subst owner
  refine authorised_finally cleared ?_
  intro codes
  split
  · exact (unprivileged_refreshCurrentSession _).bind fun _ => only_value _ _
  · exact unprivileged_renderOverview _ _ _

/-- The bootstrap creates an account once all its gates are open. -/
theorem authorised_firstTime {form : FirstTimeForm}
    (route : flight.request.route = .firstTime form) :
    Keeps (authority app) (Setup.firstTime app form) flight (fun _ _ => True) := by
  unfold Setup.firstTime
  split
  · exact Keeps.pure True.intro
  rename_i loopback
  split
  · exact Keeps.pure True.intro
  rename_i direct
  split
  · exact Keeps.pure True.intro
  rename_i token
  refine authorised_plainly rfl True.intro ?_
  intro operators first counted onward
  change Nat at operators
  split
  · exact Keeps.pure True.intro
  rename_i vacant
  split
  · exact Keeps.pure True.intro
  rename_i accepts
  rw [Bool.not_eq_true', Bool.not_eq_false] at loopback accepts
  rw [Bool.not_eq_true] at direct
  have none : operators = 0 := Nat.eq_zero_of_not_pos vacant
  subst none
  refine authorised_finally (Or.inl ?_) fun _ => only_value _ _
  exact ⟨form, by rw [onward.request]; exact route, rfl, loopback, direct, token, accepts,
    counted.saw⟩

/-! ## The service -/

theorem authorised_respond (fresh : flight.own = []) (request : Request)
    (same : flight.request = request) :
    Keeps (authority app) (Routes.respond app request) flight (fun _ _ => True) := by
  subst same
  rcases flight with ⟨ticket, ⟨visit, route⟩, opened, held, inherited, own⟩
  dsimp only at fresh
  subst fresh
  have unguarded : forall {allowedRoles} {next : Handler Response}, next.Only Unprivileged ->
      (Routes.guard app allowedRoles next).Only Unprivileged := by
    intro allowedRoles next harmless
    apply unprivileged_authorizedRole.bind
    intro role
    split
    · split
      · exact harmless
      · exact only_value _ _
    · exact only_value _ _
  cases route with
  | loginPage =>
      apply keeps_unprivileged
      apply unprivileged_authorizedRole.bind
      intro role
      split <;> exact only_value _ _
  | loginSubmit form => exact keeps_unprivileged (unprivileged_loginSubmit visit form) _
  | mfaChallengePage =>
      apply keeps_unprivileged
      apply unprivileged_mfaPendingUserId.bind
      intro pending
      split <;> exact only_value _ _
  | mfaVerify form => exact keeps_unprivileged (unprivileged_mfaVerify visit form) _
  | firstTime form => exact authorised_firstTime rfl
  | page allowedRoles => exact keeps_unprivileged (unguarded (only_value _ _)) _
  | insertUserAction form =>
      exact authorised_guard rfl rfl fun _ _ => authorised_insertUserAction visit
  | deleteUserAction form =>
      exact authorised_guard rfl rfl fun _ _ => authorised_deleteUserAction visit
  | updateUserAction form =>
      exact authorised_guard rfl rfl fun _ _ => authorised_updateUserAction visit
  | startUpdate form =>
      exact authorised_guard rfl rfl fun _ _ => authorised_startUpdate visit
  | updatePassword => exact keeps_unprivileged (unguarded unprivileged_updatePassword) _
  | updatePasswordAction form =>
      exact authorised_guard rfl rfl fun _ _ => authorised_updatePasswordAction visit
  | mfaOverview => exact keeps_unprivileged (unguarded unprivileged_mfaOverview) _
  | mfaEnroll form => exact authorised_guard rfl rfl fun _ _ => authorised_mfaEnroll visit
  | mfaConfirm form => exact authorised_guard rfl rfl fun _ _ => authorised_mfaConfirm visit
  | mfaDisable form => exact authorised_guard rfl rfl fun _ _ => authorised_mfaDisable visit
  | mfaRegenerate form => exact authorised_guard rfl rfl fun _ _ => authorised_mfaRegenerate visit
  | logout csrfToken =>
      exact keeps_unprivileged (unguarded (unprivileged_logout visit csrfToken)) _

theorem obeys_authority (app : AppState) : Obeys (authority app) (service app) := by
  intro world ticket request
  refine (authorised_respond rfl request rfl).bind ?_
  intro _ flight _
  exact Keeps.pure True.intro

/-- In front of whatever needs authority stands the authority, among the older entries
of the same request. -/
theorem changes_are_authorised {allowed : Condition (machine app)} {state : State}
    {config : Config (machine app)}
    (reached : Reaches (service app) allowed (Config.idle state) config)
    {newer older : List (Item app)} {item : Item app}
    (performed : config.world.log = newer ++ item :: older) :
    Exists fun flight : Flight app => flight.own = entriesOf older item.ticket ∧
      flight.request = item.request ∧ flight.held = item.held ∧
      Authorised flight item.seen.command :=
  Contract.audited_reaches (obeys_authority app) reached newer item older performed

end Console

namespace Sample

set_option maxRecDepth 100000 in
theorem changes_are_authorised_deleting :
    Exists fun config => Exists fun item => Exists fun older =>
      run couple (openings ++ [.accept (deletion 7 "2")] ++ steps 2 19) = some config ∧
      config.world.log = item :: older ∧ item.seen.command = .deleteById 2 ∧
      Exists fun flight : Console.Flight app => flight.own = entriesOf older item.ticket ∧
        Exists fun actor => Console.Cleared flight [.admin] actor := by
  have replayed : ((run couple (openings ++ [.accept (deletion 7 "2")] ++ steps 2 19)).bind
      fun config => config.world.log.head?.map fun item => item.seen.command) =
        some (.deleteById 2) := by decide
  rcases Option.bind_eq_some_iff.mp replayed with ⟨config, played, newest⟩
  rcases Option.map_eq_some_iff.mp newest with ⟨item, first, deletes⟩
  rcases List.head?_eq_some_iff.mp first with ⟨older, whole⟩
  have performed : config.world.log = [] ++ item :: older := whole
  rcases Console.changes_are_authorised (Config.play_reaches _ played) performed with
      ⟨flight, own, -, -, authorised⟩
  rw [deletes] at authorised
  exact ⟨config, item, older, played, whole, deletes, flight, own, authorised⟩

end Sample
end KrakenUi
