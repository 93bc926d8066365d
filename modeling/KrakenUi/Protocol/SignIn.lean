import KrakenUi.Protocol.Handlers

namespace KrakenUi

open Interaction

/-!
# Signing in under the contract

The two routes that sign an account in, and the service as a whole.  Until its
sensitive writes a sign-in only waits: it collects the password verdict, the
state of the second factor and possibly a consumed code.  The writes come after
a rotation, so the session has no id while they are made.
-/

namespace Console

variable {app : AppState} {flight after last : Flight app} {idUser : Int} {α : Type}

/-- The request has gone on without making or marking an identity. -/
structure Waits (flight after : Flight app) : Prop where
  request : after.request = flight.request
  own : Exists fun newer => after.own = newer ++ flight.own ∧ Calm newer

namespace Waits

theorem refl (flight : Flight app) : Waits flight flight :=
  ⟨rfl, [], rfl, Without.nil⟩

theorem trans (first : Waits flight after) (second : Waits after last) : Waits flight last := by
  rcases first with ⟨request, newer, own, calm⟩
  rcases second with ⟨request', newer', own', calm'⟩
  refine ⟨request'.trans request, newer' ++ newer, ?_, Without.append_iff.mpr ⟨calm', calm⟩⟩
  rw [own', own, List.append_assoc]

theorem subset (waits : Waits flight after) : flight.own ⊆ after.own := by
  rcases waits.own with ⟨newer, own, -⟩
  rw [own]
  exact List.subset_append_right _ _

/-- What a calm journal lacks, it still lacks. -/
theorem without (waits : Waits flight after) {kind : Command -> Bool}
    (narrower : forall command : Command, command.marksIdentity = false -> kind command = false)
    (before : Without kind flight.own) : Without kind after.own := by
  rcases waits.own with ⟨newer, own, calm⟩
  rw [own]
  exact Without.append_iff.mpr ⟨calm.narrow narrower, before⟩

theorem calm (waits : Waits flight after) (before : Calm flight.own) : Calm after.own :=
  waits.without (fun _ harmless => harmless) before

theorem proven (waits : Waits flight after) (before : Proven flight idUser) :
    Proven after idUser := by
  rcases waits.own with ⟨newer, own, -⟩
  exact before.mono waits.request own

end Waits

theorem Steady.waits (steady : Steady flight after) : Waits flight after :=
  ⟨steady.request, steady.own⟩

theorem unnamed_of_calm {command : Command} (calm : command.marksIdentity = false) :
    command.namesAccount = false := by
  cases command with
  | insert value => cases value <;> first | rfl | cases calm
  | _ => rfl

theorem unmarked_of_calm {command : Command} (calm : command.marksIdentity = false) :
    command.marksPending = false := by
  cases command with
  | insert value => cases value <;> first | rfl | cases calm
  | _ => rfl

theorem marksIdentity_of_free {command : Command} (free : command.isFree = true) :
    command.marksIdentity = false := by
  cases command with
  | insert value => cases value <;> first | rfl | cases free
  | _ => rfl

theorem waits_of_free {command : Command} {reply : command.Reply}
    (follows : flight.Follows after command reply) (free : command.isFree = true) :
    Waits flight after := by
  rcases follows.own with ⟨item, own, seen, -⟩
  refine ⟨follows.request, [item], own, Without.cons_iff.mpr ⟨?_, Without.nil⟩⟩
  rw [seen]
  exact marksIdentity_of_free free

theorem keeps_waiting {program : Handler α} (free : program.Only Free) (flight : Flight app) :
    Keeps (contract app) program flight (fun _ after => Waits flight after) := by
  refine Keeps.only Waits Waits.refl Waits.trans ?_ ?_ free flight
  · intro flight command allowed
    exact permitted_of_free flight allowed
  · intro flight after command reply allowed follows
    exact waits_of_free follows allowed

/-- The rule for a free command in front of a program. -/
theorem keeps_wait {command : Command} {rest : command.Reply -> Handler α}
    {post : α -> Flight app -> Prop} (free : Free command)
    (next : forall reply after, flight.Follows after command reply -> Waits flight after ->
      Keeps (contract app) (rest reply) after post) :
    Keeps (contract app) (call command >>= rest) flight post := by
  refine keeps_call (permitted_of_free flight free) ?_
  intro reply after follows
  exact next reply after follows (waits_of_free follows free)

/-- A program of free commands that ends a sign-in without signing in. -/
theorem keeps_giveUp {program : Handler α} (free : program.Only Free) (calm : Calm flight.own) :
    Keeps (contract app) program flight (fun _ after => Finished after) :=
  (keeps_waiting free flight).mono fun _ _ waits => Or.inl (waits.calm calm)

/-! ## The sensitive writes -/

/-- A write of a sign-in, as far as the journal is concerned. -/
theorem proven_of_follows {command : Command} {reply : command.Reply}
    (follows : flight.Follows after command reply) (proven : Proven flight idUser) :
    Proven after idUser := by
  rcases follows.own with ⟨item, own, -⟩
  have appended : after.own = [item] ++ flight.own := own
  exact proven.mono follows.request appended

/-- The writes of a full sign-in. -/
theorem keeps_establishSession {operator : Operator}
    (route : flight.request.route.signsIn = true) (calm : Calm flight.own)
    (proven : Proven flight operator.idUser)
    (read : EpochRead flight.own operator.idUser operator.authzVersion) :
    Keeps (contract app) (Auth.establishSession app operator) flight
      (fun _ after => Finished after) := by
  refine keeps_wait rfl ?_
  intro now first clock waits₁
  refine keeps_wait rfl ?_
  intro _ second rotated waits₂
  have sofar := waits₁.trans waits₂
  rcases cycle_data rotated with ⟨anonymous, present, -⟩
  rcases Option.isSome_iff_exists.mp present with ⟨data, loaded⟩
  have proven₂ := sofar.proven proven
  have permitted : Permitted second (.insert (.authenticatedUserId operator.idUser)) := by
    simp only [Permitted, sofar.request, route, if_true]
    exact ⟨anonymous, present, sofar.calm calm, proven₂⟩
  refine keeps_call permitted ?_
  intro _ third named
  rcases insert_data loaded named with ⟨loaded₃, id₃⟩
  have proven₃ := proven_of_follows named proven₂
  have unmarked₃ : Without Command.marksPending third.own :=
    named.without rfl ((sofar.calm calm).narrow fun _ => unmarked_of_calm)
  refine keeps_wait rfl ?_
  intro _ fourth username waits₄
  rcases insert_data loaded₃ username with ⟨loaded₄, id₄⟩
  refine keeps_wait rfl ?_
  intro _ fifth typed waits₅
  rcases insert_data loaded₄ typed with ⟨loaded₅, id₅⟩
  have waits := waits₄.trans waits₅
  have read₅ : EpochRead fifth.own operator.idUser operator.authzVersion := by
    refine read.mono ?_
    intro item member
    exact waits.subset (named.subset (sofar.subset member))
  have request₅ : fifth.request = flight.request := by
    rw [waits.request, named.request, sofar.request]
  have identified : Identified fifth operator.idUser := ⟨_, loaded₅, rfl⟩
  refine keeps_call ⟨operator.idUser, identified, read₅, fun guarded => ?_⟩ ?_
  · rw [request₅, route] at guarded
    cases guarded
  intro _ sixth versioned
  rcases insert_data loaded₅ versioned with ⟨loaded₆, id₆⟩
  have subset₆ := versioned.subset
  have request₆ : sixth.request = flight.request := versioned.request.trans request₅
  have clock₆ : Saw sixth.own .now now := by
    refine (clock.saw).mono ?_
    intro item member
    exact subset₆ (waits.subset (named.subset (waits₂.subset member)))
  have named₆ : Saw sixth.own (.insert (.authenticatedUserId operator.idUser)) () := by
    refine (named.saw).mono ?_
    intro item member
    exact subset₆ (waits.subset member)
  have anonymous₆ : sixth.held.id = none := by
    rw [id₆, id₅, id₄, id₃]
    exact anonymous
  have permitted₆ : Permitted sixth (.insert (.authenticatedAt now)) :=
    ⟨by rw [request₆]; exact route, anonymous₆, clock₆, operator.idUser, operator.authzVersion, _,
      loaded₆, rfl, rfl, named₆, proven_of_follows versioned (waits.proven proven₃),
      read₅.mono subset₆⟩
  refine keeps_call permitted₆ ?_
  intro _ seventh established
  have unmarked₇ : Without Command.marksPending seventh.own :=
    established.without rfl (versioned.without rfl
      (waits.without (fun _ => unmarked_of_calm) unmarked₃))
  have ending : (do
      call (.insert (.reauthenticatedAt now))
      call (.insert (.sessionRotatedAt now)) : Handler Unit).Only Free :=
    only_step rfl fun _ => only_command Free rfl
  refine (keeps_waiting ending seventh).mono ?_
  intro _ after later
  exact Or.inr (Or.inl ⟨later.without (fun _ => unmarked_of_calm) unmarked₇, now,
    (established.saw).mono later.subset⟩)

/-! ## The password step -/

theorem free_registerLoginFailure (ipKey ipUserKey username : String) :
    (Auth.registerLoginFailure ipKey ipUserKey username).Only Free := by
  refine only_step rfl fun _ => only_step rfl fun _ => ?_
  split
  · exact only_value Free ()
  · exact only_step rfl fun _ => only_value Free ()

theorem free_failedLogin (ipKey ipUserKey username : String) :
    (do
      Auth.registerLoginFailure ipKey ipUserKey username
      pure Auth.invalidLogin : Handler Response).Only Free :=
  (free_registerLoginFailure ipKey ipUserKey username).bind fun _ => only_value Free _

theorem keeps_updateEncryptedPassword {replacement : String}
    (rehashed : Rehashed flight.own idUser replacement) :
    Keeps (contract app) (OperatorRepository.updateEncryptedPassword idUser replacement) flight
      (fun _ after => Waits flight after) := by
  refine keeps_wait rfl ?_
  intro operator found _ waits
  split
  · exact Keeps.pure waits
  · refine keeps_end (rehashed.mono waits.subset) ?_
    intro _ last stored
    rcases stored.own with ⟨item, own, seen, -⟩
    apply waits.trans
    refine ⟨stored.request, [item], own, Without.cons_iff.mpr ⟨?_, Without.nil⟩⟩
    rw [seen]
    rfl

/-- From the accepted password to the parked marker or the new session. -/
theorem keeps_finishLogin {form : LoginForm} {operator : Operator}
    (route : flight.request.route = .loginSubmit form) (calm : Calm flight.own)
    (accepted : PasswordAccepted flight.own form operator.idUser)
    (read : EpochRead flight.own operator.idUser operator.authzVersion)
    (ipKey ipUserKey : String) :
    Keeps (contract app) (Auth.finishLogin app ipKey ipUserKey operator) flight
      (fun _ after => Finished after) := by
  unfold Auth.finishLogin
  split
  · exact Keeps.pure (Or.inl calm)
  refine keeps_wait rfl ?_
  intro _ first _ waits₁
  refine keeps_wait rfl ?_
  intro _ second _ waits₂
  refine keeps_isEnabled.bind ?_
  rintro enabled third ⟨steady, row, looked, on⟩
  have sofar := (waits₁.trans waits₂).trans steady.waits
  have enabledRead : EnabledRead third.own operator.idUser enabled :=
    ⟨row, looked.saw, on⟩
  have route₃ : third.request.route = .loginSubmit form := by rw [sofar.request]; exact route
  cases enabled with
  | false =>
      refine keeps_wait rfl ?_
      intro _ fourth _ waits₄
      have sofar₄ := sofar.trans waits₄
      have route₄ : fourth.request.route = .loginSubmit form := by
        rw [waits₄.request]
        exact route₃
      have proven : Proven fourth operator.idUser := by
        simp only [Proven, route₄]
        exact ⟨accepted.mono sofar₄.subset, enabledRead.mono waits₄.subset⟩
      refine (keeps_establishSession (by rw [route₄]; rfl) (sofar₄.calm calm) proven
        (read.mono sofar₄.subset)).bind ?_
      intro _ last finished
      exact Keeps.pure finished
  | true =>
      refine keeps_wait rfl ?_
      intro _ fourth rotated waits₄
      have sofar₄ := sofar.trans waits₄
      have route₄ : fourth.request.route = .loginSubmit form := by
        rw [waits₄.request]
        exact route₃
      rcases cycle_data rotated with ⟨anonymous, present, -⟩
      rcases Option.isSome_iff_exists.mp present with ⟨data, loaded⟩
      have accepted₄ := accepted.mono sofar₄.subset
      have enabled₄ := enabledRead.mono waits₄.subset
      refine keeps_call ⟨anonymous, present, sofar₄.calm calm, form, route₄, accepted₄,
        enabled₄⟩ ?_
      intro _ fifth marked
      rcases insert_data loaded marked with ⟨loaded₅, id₅⟩
      refine keeps_wait rfl ?_
      intro now sixth clock waits₆
      have subset₆ : fourth.own ⊆ sixth.own := by
        intro item member
        exact waits₆.subset (marked.subset member)
      have held₆ := held_of_quiet clock rfl
      have permitted : Permitted sixth (.insert (.mfaPendingAt now)) := by
        refine ⟨by rw [held₆, id₅]; exact anonymous, clock.saw, form,
          operator.idUser, _, ?_, by rw [held₆]; exact loaded₅, rfl,
          (marked.saw).mono waits₆.subset, accepted₄.mono subset₆,
          enabled₄.mono subset₆⟩
        rw [waits₆.request, marked.request]
        exact route₄
      have unnamed : Without Command.namesAccount sixth.own :=
        waits₆.without (fun _ => unnamed_of_calm)
          (marked.without rfl ((sofar₄.calm calm).narrow fun _ => unnamed_of_calm))
      refine keeps_call permitted ?_
      intro _ last parked
      exact Keeps.pure (Or.inr (Or.inr ⟨parked.without rfl unnamed, now,
        parked.saw⟩))

theorem keeps_checkPassword {form : LoginForm}
    (route : flight.request.route = .loginSubmit form) (calm : Calm flight.own)
    (ipKey ipUserKey username : String) :
    Keeps (contract app) (Auth.checkPassword app ipKey ipUserKey username form.password) flight
      (fun _ after => Finished after) := by
  unfold Auth.checkPassword
  split
  · exact keeps_giveUp (free_failedLogin _ _ _) calm
  refine keeps_wait rfl ?_
  intro found first read waits₁
  change Option Operator at found
  cases found with
  | none =>
      exact keeps_giveUp (only_step rfl fun _ => free_failedLogin _ _ _) (waits₁.calm calm)
  | some operator =>
  refine keeps_wait rfl ?_
  intro answer second verified waits₂
  have sofar := waits₁.trans waits₂
  change Except String PasswordVerification at answer
  cases answer with
  | error message => exact keeps_giveUp (free_failedLogin _ _ _) (sofar.calm calm)
  | ok verification =>
  dsimp only
  split
  · exact keeps_giveUp (free_failedLogin _ _ _) (sofar.calm calm)
  rename_i valid
  have accepted : PasswordAccepted second.own form operator.idUser :=
    ⟨username, operator, verification, (read.saw).mono waits₂.subset, rfl,
      verified.saw, by simpa using valid⟩
  have epoch : EpochRead second.own operator.idUser operator.authzVersion :=
    (epochRead_of_follows read fun item seen => Or.inl ⟨username, seen⟩).mono waits₂.subset
  have finish : forall {third : Flight app}, Waits second third ->
      Keeps (contract app) (Auth.finishLogin app ipKey ipUserKey operator) third
        (fun _ after => Finished after) := by
    intro third waits₃
    have sofar₃ := sofar.trans waits₃
    exact keeps_finishLogin (by rw [sofar₃.request]; exact route) (sofar₃.calm calm)
      (accepted.mono waits₃.subset) (epoch.mono waits₃.subset) ipKey ipUserKey
  cases replaced : verification.replacementRecord with
  | none => exact finish (Waits.refl second)
  | some replacement =>
      have rehashed : Rehashed second.own operator.idUser replacement := by
        rcases verification with ⟨accepts, record⟩
        cases (by simpa using valid : accepts = true)
        cases (show record = some replacement from replaced)
        exact ⟨username, operator, form.password, (read.saw).mono waits₂.subset, rfl,
          verified.saw⟩
      refine (keeps_updateEncryptedPassword rehashed).bind ?_
      intro _ third waits₃
      exact finish waits₃

theorem keeps_loginSubmit {form : LoginForm}
    (route : flight.request.route = .loginSubmit form) (calm : Calm flight.own) (visit : Visit) :
    Keeps (contract app) (Auth.loginSubmit app visit form) flight
      (fun _ after => Finished after) := by
  unfold Auth.loginSubmit
  split
  · exact Keeps.pure (Or.inl calm)
  refine keeps_wait rfl ?_
  intro locked first _ waits₁
  split
  · exact Keeps.pure (Or.inl (waits₁.calm calm))
  refine keeps_wait rfl ?_
  intro throttled second _ waits₂
  have sofar₂ := waits₁.trans waits₂
  split
  · exact Keeps.pure (Or.inl (sofar₂.calm calm))
  refine keeps_wait rfl ?_
  intro lockedUser third _ waits₃
  have sofar₃ := sofar₂.trans waits₃
  split
  · exact Keeps.pure (Or.inl (sofar₃.calm calm))
  refine keeps_wait rfl ?_
  intro throttledUser fourth _ waits₄
  have sofar₄ := sofar₃.trans waits₄
  split
  · exact Keeps.pure (Or.inl (sofar₄.calm calm))
  exact keeps_checkPassword (by rw [sofar₄.request]; exact route) (sofar₄.calm calm) _ _ _

/-! ## The code step -/

/-- The marker that the second step starts from is fresh. -/
theorem keeps_mfaPendingUserId :
    Keeps (contract app) Auth.mfaPendingUserId flight
      (fun found after => Waits flight after ∧
        forall idUser, found = some idUser -> FreshMarker after.own idUser) := by
  refine keeps_wait rfl ?_
  intro data first looked waits₁
  have loaded := record_data looked
  cases owner : data.mfaPendingUserId with
  | none => exact Keeps.pure ⟨waits₁, fun _ same => by cases same⟩
  | some pending =>
  refine keeps_wait rfl ?_
  intro again second lookedAgain waits₂
  rcases record_again loaded lookedAgain with ⟨rfl, -⟩
  refine keeps_wait rfl ?_
  intro now third clock waits₃
  have sofar := (waits₁.trans waits₂).trans waits₃
  split
  · refine (keeps_waiting free_clearMfaPending third).bind ?_
    intro _ last waits₄
    exact Keeps.pure ⟨sofar.trans waits₄, fun _ same => by cases same⟩
  · rename_i fresh
    simp only [not_or, Int.not_lt] at fresh
    refine Keeps.pure ⟨sofar, ?_⟩
    intro idUser same
    cases same
    cases started : again.mfaPendingAt with
    | none =>
        rw [started] at fresh
        exact absurd rfl fresh.1
    | some startedAt =>
        rw [started] at fresh
        exact ⟨again, startedAt, now,
          (looked.saw).mono fun item member => waits₃.subset (waits₂.subset member),
          owner, started, clock.saw, fresh.2⟩

theorem keeps_finishMfa {form : MfaCodeForm} {operator : Operator}
    (route : flight.request.route = .mfaVerify form) (calm : Calm flight.own)
    (marker : FreshMarker flight.own operator.idUser)
    (verified : Verified flight.own operator.idUser)
    (read : EpochRead flight.own operator.idUser operator.authzVersion) (throttleKey : String) :
    Keeps (contract app) (Auth.finishMfa app throttleKey operator) flight
      (fun _ after => Finished after) := by
  unfold Auth.finishMfa
  split
  · exact keeps_giveUp (only_step rfl fun _ => only_value Free _) calm
  refine keeps_wait rfl ?_
  intro _ first _ waits₁
  refine keeps_wait rfl ?_
  intro _ second _ waits₂
  refine (keeps_waiting free_clearMfaPending second).bind ?_
  intro _ third waits₃
  have sofar := (waits₁.trans waits₂).trans waits₃
  have route₃ : third.request.route = .mfaVerify form := by rw [sofar.request]; exact route
  have proven : Proven flight operator.idUser := by
    simp only [Proven, route]
    exact ⟨marker, verified⟩
  refine (keeps_establishSession (by rw [route₃]; rfl) (sofar.calm calm) (sofar.proven proven)
    (read.mono sofar.subset)).bind ?_
  intro _ last finished
  exact Keeps.pure finished

theorem keeps_checkCode {form : MfaCodeForm}
    (route : flight.request.route = .mfaVerify form) (calm : Calm flight.own)
    (marker : FreshMarker flight.own idUser) (throttleKey code : String) :
    Keeps (contract app) (Auth.checkCode app throttleKey code idUser) flight
      (fun _ after => Finished after) := by
  refine keeps_wait rfl ?_
  intro found first read waits₁
  change Option Operator at found
  cases found with
  | none =>
      exact keeps_giveUp (only_step rfl fun _ => only_value Free _) (waits₁.calm calm)
  | some operator =>
  have same : operator.idUser = idUser := findById_reply read
  refine (keeps_checkedCode code _).bind ?_
  rintro accepted second ⟨⟨steady, -⟩, verified⟩
  have sofar := waits₁.trans steady.waits
  cases accepted with
  | false =>
      exact keeps_giveUp (only_step rfl fun _ => only_value Free _) (sofar.calm calm)
  | true =>
      subst same
      exact keeps_finishMfa (by rw [sofar.request]; exact route) (sofar.calm calm)
        (marker.mono sofar.subset) (verified rfl)
        ((epochRead_of_follows read fun item seen => Or.inr (Or.inl ⟨_, seen⟩)).mono
          steady.subset) throttleKey

theorem keeps_mfaVerify {form : MfaCodeForm}
    (route : flight.request.route = .mfaVerify form) (calm : Calm flight.own) (visit : Visit) :
    Keeps (contract app) (Auth.mfaVerify app visit form) flight
      (fun _ after => Finished after) := by
  unfold Auth.mfaVerify
  split
  · exact Keeps.pure (Or.inl calm)
  refine keeps_mfaPendingUserId.bind ?_
  rintro found first ⟨waits₁, marker⟩
  cases found with
  | none => exact Keeps.pure (Or.inl (waits₁.calm calm))
  | some pending =>
  refine keeps_wait rfl ?_
  intro locked second _ waits₂
  have sofar₂ := waits₁.trans waits₂
  split
  · exact Keeps.pure (Or.inl (sofar₂.calm calm))
  refine keeps_wait rfl ?_
  intro throttled third _ waits₃
  have sofar₃ := sofar₂.trans waits₃
  split
  · exact Keeps.pure (Or.inl (sofar₃.calm calm))
  exact keeps_checkCode (by rw [sofar₃.request]; exact route) (sofar₃.calm calm)
    ((marker pending rfl).mono fun item member => waits₃.subset (waits₂.subset member)) _ _

/-! ## The service -/

theorem keeps_loginPage :
    Keeps (contract app) (Auth.loginPage app) flight
      (fun _ after => after.request = flight.request) := by
  refine keeps_authorizedRole.bind ?_
  rintro role after ⟨request, -⟩
  split <;> exact Keeps.pure request

/-- Every route is answered within the contract. -/
theorem keeps_respond {request : Request} (flight : Flight app)
    (requested : flight.request = request)
    (fresh : flight.own = []) :
    Keeps (contract app) (Routes.respond app request) flight
      (fun _ after => after.request.route.signsIn = true -> Finished after) := by
  rcases request with ⟨visit, route⟩
  have calm : Calm flight.own := by
    rw [fresh]
    exact Without.nil
  have routed : flight.request.route = route := by rw [requested]
  have finished : forall {program : Handler Response},
      Keeps (contract app) program flight (fun _ after => Finished after) ->
      Keeps (contract app) program flight
        (fun _ after => after.request.route.signsIn = true -> Finished after) :=
    fun keeps => keeps.mono fun _ _ done _ => done
  have harmless : forall {program : Handler Response}, route.signsIn = false ->
      Keeps (contract app) program flight (fun _ after => after.request = flight.request) ->
      Keeps (contract app) program flight
        (fun _ after => after.request.route.signsIn = true -> Finished after) := by
    intro program quiet keeps
    refine keeps.mono ?_
    intro _ after same signs
    rw [same, routed, quiet] at signs
    cases signs
  have guarded : forall {allowedRoles : List OperatorRole} {next : Handler Response},
      route.signsIn = false ->
      (forall (after : Flight app) idUser, Acting after idUser ->
        Keeps (contract app) next after (fun _ last => last.request = after.request)) ->
      Keeps (contract app) (Routes.guard app allowedRoles next) flight
        (fun _ after => after.request.route.signsIn = true -> Finished after) := by
    intro allowedRoles next quiet inner
    exact harmless quiet (keeps_guard (by rw [routed]; exact quiet) inner)
  cases route with
  | loginPage => exact harmless rfl keeps_loginPage
  | loginSubmit form => exact finished (keeps_loginSubmit routed calm visit)
  | mfaChallengePage => exact harmless rfl (keeps_freely free_mfaChallengePage rfl)
  | mfaVerify form => exact finished (keeps_mfaVerify routed calm visit)
  | firstTime form => exact harmless rfl (keeps_freely (free_firstTime form) rfl)
  | page allowedRoles => exact guarded rfl fun _ _ _ => Keeps.pure rfl
  | insertUserAction form =>
      exact guarded rfl fun _ _ acting => keeps_insertUserAction acting visit form
  | deleteUserAction form =>
      exact guarded rfl fun _ _ acting => keeps_deleteUserAction acting visit form
  | updateUserAction form =>
      exact guarded rfl fun _ _ acting => keeps_updateUserAction acting visit form
  | startUpdate form => exact guarded rfl fun _ _ acting => keeps_startUpdate acting visit form
  | updatePassword => exact guarded rfl fun _ _ _ => keeps_freely free_updatePassword rfl
  | updatePasswordAction form =>
      exact guarded rfl fun _ _ acting => keeps_updatePasswordAction acting visit form
  | mfaOverview => exact guarded rfl fun _ _ _ => keeps_freely free_mfaOverview rfl
  | mfaEnroll form => exact guarded rfl fun _ _ acting => keeps_mfaEnroll acting visit form
  | mfaConfirm form => exact guarded rfl fun _ _ acting => keeps_mfaConfirm acting visit form
  | mfaDisable form => exact guarded rfl fun _ _ acting => keeps_mfaDisable acting visit form
  | mfaRegenerate form =>
      exact guarded rfl fun _ _ acting => keeps_mfaRegenerate acting visit form
  | logout csrfToken => exact guarded rfl fun _ _ _ => keeps_freely (free_logout visit csrfToken) rfl

/-- The console keeps its contract. -/
theorem obeys (app : AppState) : Obeys (contract app) (service app) := by
  intro world ticket request
  refine (keeps_respond (World.accept world ticket request).2 rfl rfl).bind ?_
  intro _ after settled
  exact Keeps.pure settled

end Console
end KrakenUi
