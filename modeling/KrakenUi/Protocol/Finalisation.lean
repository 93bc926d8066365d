import KrakenUi.Protocol.Histories
import KrakenUi.Protocol.Idle

namespace KrakenUi

open Interaction

/-!
# What a sign-in finalises

A second contract of the handlers, about the two writes that matter at the end
of a sign-in.  A sign-in copies an epoch into the session only after it has
named the account, and before it establishes.  The code step establishes the
account of a row that it has read itself, after it found the marker and before
it verified the code, and only for a role of the console.
-/

namespace Command

/-- The writes that copy an epoch and that establish. -/
def finalises : Command -> Bool
  | insert (.authenticatedAuthzVersion _) | insert (.authenticatedAt _) => true
  | _ => false

end Command

namespace Console

variable {app : AppState} {flight after : Flight app} {idUser : Int} {α : Type}

/-- After a fresh marker of the account was found its row was read, with a role
of the console, and after that a code of it was verified. -/
def Readmitted (items : List (Item app)) (operator : Operator) : Prop :=
  Exists fun newer => Exists fun read => Exists fun older =>
    items = newer ++ read :: older ∧ read.seen = ⟨.findById operator.idUser, some operator⟩ ∧
      Auth.isConsoleRole operator.operatorType = true ∧ FreshMarker older operator.idUser ∧
      Verified newer operator.idUser

/-- The session in hand has the account of the row and its epoch. -/
def Carries (flight : Flight app) (operator : Operator) : Prop :=
  Exists fun data => flight.held.data = some data ∧
    data.authenticatedUserId = some operator.idUser ∧
    data.authenticatedAuthzVersion = some operator.authzVersion

/-- The contract about the end of a sign-in. -/
def finalising (app : AppState) : Contract (machine app) where
  Permitted := fun flight command =>
    match command with
    | .insert (.authenticatedAuthzVersion _) =>
        flight.request.route.signsIn = true -> HalfSigned flight.request.route flight.own
    | .insert (.authenticatedAt _) =>
        forall form, flight.request.route = .mfaVerify form ->
          Exists fun operator => Readmitted flight.own operator ∧ Carries flight operator
    | _ => True
  Settled := fun _ => True

theorem Readmitted.append {items : List (Item app)} {operator : Operator}
    (readmitted : Readmitted items operator) (newest : List (Item app)) :
    Readmitted (newest ++ items) operator := by
  rcases readmitted with ⟨newer, read, older, rfl, seen, role, marker, verified⟩
  refine ⟨newest ++ newer, read, older, ?_, seen, role, marker, verified.append newest⟩
  rw [List.append_assoc]

/-! ## Commands that finalise nothing -/

/-- Commands that neither finalise nor mark an identity. -/
def Passive (command : Command) : Prop :=
  command.finalises = false ∧ command.marksIdentity = false

theorem passive_of_free {command : Command} (free : command.isFree = true) : Passive command := by
  refine ⟨?_, marksIdentity_of_free free⟩
  cases command with
  | insert value => cases value <;> first | rfl | cases free
  | _ => rfl

theorem passive_free {program : Handler α} (free : program.Only Free) : program.Only Passive :=
  free.mono fun _ allowed => passive_of_free allowed

theorem passive_verifying {program : Handler α} (only : program.Only Idling.Verifying) :
    program.Only Passive := by
  apply only.mono
  intro command verifying
  cases command <;> first | exact ⟨rfl, rfl⟩ | exact verifying.elim

theorem permitted_of_passive {command : Command} (passive : Passive command)
    (flight : Flight app) : (finalising app).Permitted flight command := by
  cases command with
  | insert value => cases value <;> first | exact True.intro | cases passive.1
  | _ => exact True.intro

theorem waits_of_passive {command : Command} {reply : command.Reply}
    (follows : flight.Follows after command reply) (passive : Passive command) :
    Waits flight after := by
  rcases follows.own with ⟨item, own, seen, -⟩
  refine ⟨follows.request, [item], own, Without.cons_iff.mpr ⟨?_, Without.nil⟩⟩
  rw [seen]
  exact passive.2

theorem finalising_passive {program : Handler α} (only : program.Only Passive)
    (flight : Flight app) :
    Keeps (finalising app) program flight (fun _ after => Waits flight after) := by
  apply Keeps.only Waits Waits.refl Waits.trans _ _ only flight
  · intro flight command passive
    exact permitted_of_passive passive flight
  · intro flight after command reply passive follows
    exact waits_of_passive follows passive

/-- The rule for a passive command in front of a program. -/
theorem finalising_wait {command : Command} {rest : command.Reply -> Handler α}
    {post : α -> Flight app -> Prop} (passive : Passive command)
    (next : forall reply after, flight.Follows after command reply -> Waits flight after ->
      Keeps (finalising app) (rest reply) after post) :
    Keeps (finalising app) (call command >>= rest) flight post := by
  apply Keeps.perform (permitted_of_passive passive flight)
  intro reply after follows
  exact next reply after follows (waits_of_passive follows passive)

/-- A passive program at the end of a request. -/
theorem finalising_end {program : Handler α} (only : program.Only Passive) (flight : Flight app) :
    Keeps (finalising app) program flight (fun _ _ => True) :=
  (finalising_passive only flight).mono fun _ _ _ => True.intro

/-! ## The last part of a sign-in -/

theorem finalising_establishSession {operator : Operator} (calm : Calm flight.own)
    (admitted : forall form, flight.request.route = .mfaVerify form ->
      Readmitted flight.own operator) :
    Keeps (finalising app) (Auth.establishSession app operator) flight (fun _ _ => True) := by
  apply finalising_wait ⟨rfl, rfl⟩
  intro now first _ waits₁
  apply finalising_wait ⟨rfl, rfl⟩
  intro _ second rotated waits₂
  have sofar := waits₁.trans waits₂
  rcases cycle_data rotated with ⟨-, present, -⟩
  rcases Option.isSome_iff_exists.mp present with ⟨data, loaded⟩
  refine Keeps.perform True.intro ?_
  intro _ third named
  rcases insert_data loaded named with ⟨loaded₃, -⟩
  rcases named.own with ⟨naming, own₃, seen₃, -⟩
  apply finalising_wait ⟨rfl, rfl⟩
  intro _ fourth username waits₄
  rcases insert_data loaded₃ username with ⟨loaded₄, -⟩
  apply finalising_wait ⟨rfl, rfl⟩
  intro _ fifth typed waits₅
  rcases insert_data loaded₄ typed with ⟨loaded₅, -⟩
  have waits := waits₄.trans waits₅
  have request₅ : fifth.request = flight.request := by
    rw [waits.request, named.request, sofar.request]
  have half : fifth.request.route.signsIn = true -> HalfSigned fifth.request.route fifth.own := by
    intro signs
    refine ⟨signs, ⟨naming, ?_, by rw [seen₃]; rfl⟩, ?_⟩
    · apply waits.subset
      rw [own₃]
      exact List.mem_cons_self
    · apply waits.without fun _ => unlandmarked_of_calm
      exact named.without rfl ((sofar.calm calm).narrow fun _ => unlandmarked_of_calm)
  refine Keeps.perform half ?_
  intro _ sixth versioned
  rcases insert_data loaded₅ versioned with ⟨loaded₆, -⟩
  rcases versioned.own with ⟨copying, own₆, -⟩
  refine Keeps.perform ?_ ?_
  · intro form route
    rw [versioned.request, request₅] at route
    refine ⟨operator, ?_, _, loaded₆, rfl, rfl⟩
    rcases sofar.own with ⟨newer₂, own₂, -⟩
    rcases waits.own with ⟨newer₅, own₅, -⟩
    rw [own₆, own₅, own₃, own₂]
    exact ((((admitted form route).append newer₂).append [naming]).append newer₅).append [copying]
  · intro _ seventh _
    apply finalising_end
    exact passive_free (only_step rfl fun _ => only_command Free rfl)

/-! ## The password step -/

theorem passive_updateEncryptedPassword (replacement : String) :
    (OperatorRepository.updateEncryptedPassword idUser replacement).Only Passive := by
  apply only_step ⟨rfl, rfl⟩
  intro found
  split
  · exact only_value Passive ()
  · exact only_command Passive ⟨rfl, rfl⟩

theorem passive_isEnabled (idUser : Int) :
    (OperatorMfaRepository.isEnabled idUser).Only Passive :=
  only_step ⟨rfl, rfl⟩ fun _ => only_value Passive _

theorem finalising_finishLogin {form : LoginForm} {operator : Operator}
    (route : flight.request.route = .loginSubmit form) (calm : Calm flight.own)
    (ipKey ipUserKey : String) :
    Keeps (finalising app) (Auth.finishLogin app ipKey ipUserKey operator) flight
      (fun _ _ => True) := by
  unfold Auth.finishLogin
  split
  · exact Keeps.pure True.intro
  apply finalising_wait ⟨rfl, rfl⟩
  intro _ first _ waits₁
  apply finalising_wait ⟨rfl, rfl⟩
  intro _ second _ waits₂
  refine (finalising_passive (passive_isEnabled operator.idUser) second).bind ?_
  intro enabled third waits₃
  have sofar := (waits₁.trans waits₂).trans waits₃
  cases enabled with
  | false =>
      apply finalising_wait ⟨rfl, rfl⟩
      intro _ fourth _ waits₄
      have sofar₄ := sofar.trans waits₄
      refine (finalising_establishSession (sofar₄.calm calm) ?_).bind ?_
      · intro other same
        rw [sofar₄.request, route] at same
        cases same
      · intro _ last _
        exact Keeps.pure True.intro
  | true =>
      apply finalising_wait ⟨rfl, rfl⟩
      intro _ fourth _ _
      apply Keeps.perform True.intro
      intro _ fifth _
      apply finalising_wait ⟨rfl, rfl⟩
      intro now sixth _ _
      apply Keeps.perform True.intro
      intro _ last _
      exact Keeps.pure True.intro

theorem finalising_checkPassword {form : LoginForm}
    (route : flight.request.route = .loginSubmit form) (calm : Calm flight.own)
    (ipKey ipUserKey username : String) :
    Keeps (finalising app) (Auth.checkPassword app ipKey ipUserKey username form.password) flight
      (fun _ _ => True) := by
  have failed := passive_free (free_failedLogin ipKey ipUserKey username)
  unfold Auth.checkPassword
  split
  · exact finalising_end failed flight
  apply finalising_wait ⟨rfl, rfl⟩
  intro found first _ waits₁
  change Option Operator at found
  cases found with
  | none => exact finalising_end (only_step ⟨rfl, rfl⟩ fun _ => failed) first
  | some operator =>
  apply finalising_wait ⟨rfl, rfl⟩
  intro answer second _ waits₂
  have sofar := waits₁.trans waits₂
  change Except String PasswordVerification at answer
  cases answer with
  | error message => exact finalising_end failed second
  | ok verification =>
  dsimp only
  split
  · exact finalising_end failed second
  have finish : forall {third : Flight app}, Waits second third ->
      Keeps (finalising app) (Auth.finishLogin app ipKey ipUserKey operator) third
        (fun _ _ => True) := by
    intro third waits₃
    have sofar₃ := sofar.trans waits₃
    exact finalising_finishLogin (by rw [sofar₃.request]; exact route) (sofar₃.calm calm) _ _
  cases verification.replacementRecord with
  | none => exact finish (Waits.refl second)
  | some replacement =>
      refine (finalising_passive (passive_updateEncryptedPassword replacement) second).bind ?_
      intro _ third waits₃
      exact finish waits₃

theorem finalising_loginSubmit {form : LoginForm}
    (route : flight.request.route = .loginSubmit form) (calm : Calm flight.own) (visit : Visit) :
    Keeps (finalising app) (Auth.loginSubmit app visit form) flight (fun _ _ => True) := by
  unfold Auth.loginSubmit
  split
  · exact Keeps.pure True.intro
  apply finalising_wait ⟨rfl, rfl⟩
  intro locked first _ waits₁
  split
  · exact Keeps.pure True.intro
  apply finalising_wait ⟨rfl, rfl⟩
  intro throttled second _ waits₂
  split
  · exact Keeps.pure True.intro
  apply finalising_wait ⟨rfl, rfl⟩
  intro lockedUser third _ waits₃
  split
  · exact Keeps.pure True.intro
  apply finalising_wait ⟨rfl, rfl⟩
  intro throttledUser fourth _ waits₄
  have sofar := ((waits₁.trans waits₂).trans waits₃).trans waits₄
  split
  · exact Keeps.pure True.intro
  exact finalising_checkPassword (by rw [sofar.request]; exact route) (sofar.calm calm) _ _ _

/-! ## The code step -/

theorem finalising_finishMfa {operator : Operator} (calm : Calm flight.own)
    (admitted : Auth.isConsoleRole operator.operatorType = true ->
      Readmitted flight.own operator) (throttleKey : String) :
    Keeps (finalising app) (Auth.finishMfa app throttleKey operator) flight (fun _ _ => True) := by
  unfold Auth.finishMfa
  split
  · exact finalising_end (only_step ⟨rfl, rfl⟩ fun _ => only_value Passive _) flight
  rename_i role
  apply finalising_wait ⟨rfl, rfl⟩
  intro _ first _ waits₁
  apply finalising_wait ⟨rfl, rfl⟩
  intro _ second _ waits₂
  refine (finalising_passive (passive_free free_clearMfaPending) second).bind ?_
  intro _ third waits₃
  have sofar := (waits₁.trans waits₂).trans waits₃
  refine (finalising_establishSession (sofar.calm calm) ?_).bind ?_
  · intro form _
    rcases sofar.own with ⟨newer, own, -⟩
    rw [own]
    exact (admitted (by simpa using role)).append newer
  · intro _ last _
    exact Keeps.pure True.intro

theorem finalising_checkCode (calm : Calm flight.own) (marker : FreshMarker flight.own idUser)
    (throttleKey code : String) :
    Keeps (finalising app) (Auth.checkCode app throttleKey code idUser) flight
      (fun _ _ => True) := by
  apply finalising_wait ⟨rfl, rfl⟩
  intro found first read waits₁
  change Option Operator at found
  cases found with
  | none => exact finalising_end (only_step ⟨rfl, rfl⟩ fun _ => only_value Passive _) first
  | some operator =>
  have same : operator.idUser = idUser := findById_reply read
  rcases read.own with ⟨reading, own, seen, -⟩
  have checking : (if 32 < Text.len code then pure false
      else OperatorMfaRepository.verifyLoginCode app idUser code : Handler Bool).Only Passive := by
    split
    · exact only_value Passive false
    · exact passive_verifying (Idling.verifying_verifyLoginCode idUser code)
  refine (finalising_passive checking first).returns.bind ?_
  rintro accepted second ⟨waits₂, segment, own₂, returned⟩
  have sofar := waits₁.trans waits₂
  cases accepted with
  | false => exact finalising_end (only_step ⟨rfl, rfl⟩ fun _ => only_value Passive _) second
  | true =>
      subst same
      apply finalising_finishMfa (sofar.calm calm)
      intro role
      refine ⟨segment, reading, flight.own, ?_, seen, role, marker, ?_⟩
      · rw [own₂, own]
      · split at returned
        · cases ((Program.returns_pure _ _ _).mp returned).2
        · exact ⟨code, [], segment, [], by simp, returned⟩

theorem finalising_mfaVerify (calm : Calm flight.own) (visit : Visit) (form : MfaCodeForm) :
    Keeps (finalising app) (Auth.mfaVerify app visit form) flight (fun _ _ => True) := by
  unfold Auth.mfaVerify
  split
  · exact Keeps.pure True.intro
  have pending := finalising_passive (passive_free free_mfaPendingUserId) flight
  refine (keeps_mfaPendingUserId.recall pending).bind ?_
  rintro found first ⟨⟨-, marker⟩, waits₁⟩
  cases found with
  | none => exact Keeps.pure True.intro
  | some idUser =>
  apply finalising_wait ⟨rfl, rfl⟩
  intro locked second _ waits₂
  split
  · exact Keeps.pure True.intro
  apply finalising_wait ⟨rfl, rfl⟩
  intro throttled third _ waits₃
  have sofar := (waits₁.trans waits₂).trans waits₃
  split
  · exact Keeps.pure True.intro
  exact finalising_checkCode (sofar.calm calm)
    ((marker idUser rfl).mono (waits₂.trans waits₃).subset) _ _

/-! ## The service -/

/-- Other routes copy epochs without a sign-in. -/
theorem finalising_other {program : Handler α} (other : flight.request.route.signsIn = false) :
    Keeps (finalising app) program flight (fun _ _ => True) := by
  apply Keeps.unchecked program
  intro after same command
  cases command with
  | insert value =>
      cases value with
      | authenticatedAuthzVersion version =>
          intro signs
          rw [same, other] at signs
          cases signs
      | authenticatedAt timestamp =>
          intro form route
          rw [same] at route
          rw [route] at other
          cases other
      | _ => exact True.intro
  | _ => exact True.intro

/-- The console keeps the contract about the end of a sign-in. -/
theorem obeys_finalising (app : AppState) : Obeys (finalising app) (service app) := by
  intro world ticket request
  have calm : Calm (World.accept world ticket request).2.own := Without.nil
  rcases request with ⟨visit, route⟩
  have answered : Keeps (finalising app) (Routes.respond app ⟨visit, route⟩)
      (World.accept world ticket ⟨visit, route⟩).2 (fun _ _ => True) := by
    cases route with
    | loginSubmit form => exact finalising_loginSubmit rfl calm visit
    | mfaVerify form => exact finalising_mfaVerify calm visit form
    | _ => exact finalising_other rfl
  refine answered.bind ?_
  intro _ after _
  exact Keeps.pure True.intro

end Console
end KrakenUi
