import KrakenUi.Interaction.Progress
import KrakenUi.Protocol.Credentials
import KrakenUi.Guarantees.Authentication

namespace KrakenUi

open Interaction Storage Text

/-!
# Credentials that can be set can be used

A name and a password that a form has set are tried again: at a sign-in with
the same texts, and as the current password of a step-up.  The setters and the
verifiers bring a name into the same form and refuse the same markup.  The
setters accept names that are shorter than the verifiers allow.  Only the
verifiers bound the length of a password, by 256 bytes, so that a longer one is
accepted, stored and never even compared.
-/

namespace Credentials

variable {app : AppState} {state : State} {session : Session} {stored row : Operator}
  {username password : String}

/-- The request was asked to set the texts, and the row is what it stored.  A
change of the own password has no username; it counts for every text that
stands for the name of the account. -/
def Sets (app : AppState) (route : Route) (stored : Operator) (username password : String) :
    Prop :=
  route.credentials = some (username, password) ∨
    (route.ownPassword = some password ∧ signInName app username = stored.username)

/-- The entry stored the row. -/
def Stores (item : Console.Item app) (stored : Operator) : Prop :=
  (Exists fun input => item.seen = ⟨.create input, stored⟩) ∨
  (Exists fun idUser => Exists fun input => Exists fun hash =>
    item.seen = ⟨.update idUser input hash, stored⟩) ∨
  (Exists fun idUser => Exists fun hash => item.seen = ⟨.updatePassword idUser hash, stored⟩)

/-- The row is the account of the stored one, under the same name. -/
structure StillNamed (state : State) (stored row : Operator) : Prop where
  member : row ∈ state.database.operators.rows
  account : row.idUser = stored.idUser
  name : row.username = stored.username

/-- No throttle is in force. -/
def Unthrottled (draw : Draw) : Prop := draw.retryAfter = none

/-- A sign-in with the texts finds the account and has the password verified. -/
def SignsIn (app : AppState) (stored : Operator) (username password : String) : Prop :=
  forall state session row visit csrfToken, StillNamed state stored row ->
    Csrf.verify visit.token csrfToken = true ->
    Issues (M := Console.machine app) Unthrottled
      (.spawnVerify row.idUser row.encryptedPasswordHash password)
      (Auth.loginSubmit app visit ⟨username, password, csrfToken⟩) state session

/-- A step-up on a session of the account has the password verified. -/
def StepsUp (app : AppState) (stored : Operator) (password : String) : Prop :=
  forall state session row mfaCode, row ∈ state.database.operators.rows ->
    row.idUser = stored.idUser ->
    (session.current state).authenticatedUserId = some stored.idUser ->
    Issues (M := Console.machine app) Unthrottled
      (.spawnVerify row.idUser row.encryptedPasswordHash password)
      (StepUp.verify app password mfaCode) state session

/-- The stored row is there and its credentials work.  An edit with a blank
password sets a name only. -/
structure Usable (app : AppState) (database : Database) (stored : Operator)
    (username password : String) : Prop where
  kept : stored ∈ database.operators.rows
  signsIn : SignsIn app stored username password
  stepsUp : isEmpty password = false -> StepsUp app stored password

/-! ## The verifiers -/

theorem issues_step {α : Type} {wanted command : Command} {reply : command.Reply}
    {next : command.Reply -> Handler α} {held : Session}
    (answers : forall draw, Unthrottled draw ->
      Console.perform state session command draw = some (reply, state, held))
    (later : Issues (M := Console.machine app) Unthrottled wanted (next reply) state held) :
    Issues (M := Console.machine app) Unthrottled wanted (call command >>= next) state session :=
  Issues.step (M := Console.machine app) ⟨{}, rfl⟩ answers later

theorem issues_here {α : Type} {wanted : Command} {next : wanted.Reply -> Handler α} :
    Issues (M := Console.machine app) Unthrottled wanted (call wanted >>= next) state session :=
  Issues.here (M := Console.machine app) next

theorem issues_unlocked {α : Type} {wanted : Command} {key : String}
    {next : Option Nat -> Handler α}
    (later : Issues (M := Console.machine app) Unthrottled wanted (next none) state session) :
    Issues (M := Console.machine app) Unthrottled wanted (call (.lockedFor key) >>= next) state
      session := by
  apply issues_step _ later
  intro draw unthrottled
  change some (draw.retryAfter, state, session) = _
  rw [unthrottled]

theorem issues_unretried {α : Type} {wanted : Command} {key : String}
    {next : Option Nat -> Handler α}
    (later : Issues (M := Console.machine app) Unthrottled wanted (next none) state session) :
    Issues (M := Console.machine app) Unthrottled wanted (call (.retryAfter key) >>= next) state
      session := by
  apply issues_step _ later
  intro draw unthrottled
  change some (draw.retryAfter, state, session) = _
  rw [unthrottled]

theorem issues_findByUsername {α : Type} {wanted : Command} {name : String}
    {next : Option Operator -> Handler α}
    (found : (state.database.operators.find fun operator => operator.username = name) = some row)
    (later : Issues (M := Console.machine app) Unthrottled wanted (next (some row)) state session) :
    Issues (M := Console.machine app) Unthrottled wanted (call (.findByUsername name) >>= next)
      state session := by
  apply issues_step _ later
  intro draw _
  rw [← found]
  rfl

theorem issues_findById {α : Type} {wanted : Command} {idUser : Int}
    {next : Option Operator -> Handler α}
    (found : state.database.findOperator idUser = some row)
    (later : Issues (M := Console.machine app) Unthrottled wanted (next (some row)) state session) :
    Issues (M := Console.machine app) Unthrottled wanted (call (.findById idUser) >>= next)
      state session := by
  apply issues_step _ later
  intro draw _
  rw [← found]
  rfl

theorem issues_authenticatedUserId {α : Type} {wanted : Command} {idUser : Int}
    {next : Option Int -> Handler α}
    (authenticated : (session.current state).authenticatedUserId = some idUser)
    (later : Issues (M := Console.machine app) Unthrottled wanted (next (some idUser)) state
      (session.loaded state)) :
    Issues (M := Console.machine app) Unthrottled wanted (Auth.authenticatedUserId >>= next)
      state session := by
  have read : Issues (M := Console.machine app) Unthrottled wanted
      (call .record >>= fun data : SessionData => next data.authenticatedUserId) state session := by
    apply issues_step (fun _ _ => rfl)
    rw [authenticated]
    exact later
  exact read

/-- A sign-in comes to the verification unless it refuses its texts. -/
theorem signsIn_of_bounds (name : signInName app username = stored.username)
    (short : len stored.username ≤ 128) (fits : len password ≤ 256)
    (clean : Sanitize.secretHasRejectedMarkup app.clean password = false) :
    SignsIn app stored username password := by
  intro state session row visit csrfToken named verified
  have found : (state.database.operators.find fun operator =>
      operator.username = signInName app username) = some row :=
    Database.findUsername_eq_some.mpr ⟨named.member, named.name.trans name.symm⟩
  have accepted : ¬ (128 < len (signInName app username) ∨ 256 < len password ∨
      Sanitize.secretHasRejectedMarkup app.clean password = true) := by
    rw [name, clean]
    simp only [Bool.false_eq_true, or_false]
    omega
  unfold Auth.loginSubmit
  rw [verified, if_neg (by simp)]
  apply issues_unlocked
  apply issues_unretried
  apply issues_unlocked
  apply issues_unretried
  change Issues (M := Console.machine app) Unthrottled _
    (Auth.checkPassword app _ _ (signInName app username) password) state session
  unfold Auth.checkPassword
  rw [if_neg accepted]
  apply issues_findByUsername found
  exact issues_here

theorem stepsUp_of_bounds (given : isEmpty password = false) (fits : len password ≤ 256)
    (clean : Sanitize.secretHasRejectedMarkup app.clean password = false) :
    StepsUp app stored password := by
  intro state session row mfaCode member account authenticated
  have found : state.database.findOperator stored.idUser = some row :=
    Database.findOperator_eq_some.mpr ⟨member, account⟩
  have accepted : ¬ (isEmpty password = true ∨ 256 < len password ∨
      Sanitize.secretHasRejectedMarkup app.clean password = true) := by
    rw [given, clean]
    simp only [Bool.false_eq_true, or_false, false_or]
    omega
  unfold StepUp.verify
  apply issues_authenticatedUserId authenticated
  apply issues_findById found
  dsimp only
  rw [if_neg accepted]
  exact issues_here

/-- No password is compared with a stored record. -/
def Uncompared : Command -> Prop
  | .spawnVerify _ _ _ => False
  | _ => True

/-- A long password is refused before the verification. -/
theorem uncompared_checkPassword (ipKey ipUserKey : String) (long : 256 < len password) :
    (Auth.checkPassword app ipKey ipUserKey username password).Only Uncompared := by
  have registered : (Auth.registerLoginFailure ipKey ipUserKey username).Only Uncompared := by
    apply only_step True.intro
    intro _
    apply only_step True.intro
    intro _
    split
    · exact only_value _ _
    · exact only_step True.intro fun _ => only_value _ _
  have refused : 128 < len username ∨ 256 < len password ∨
      Sanitize.secretHasRejectedMarkup app.clean password = true := Or.inr (Or.inl long)
  unfold Auth.checkPassword
  rw [if_pos refused]
  exact registered.bind fun _ => only_value _ _

theorem uncompared_loginSubmit (visit : Visit) (csrfToken : String) (long : 256 < len password) :
    (Auth.loginSubmit app visit ⟨username, password, csrfToken⟩).Only Uncompared := by
  unfold Auth.loginSubmit
  split
  · exact only_value _ _
  apply only_step True.intro
  intro locked
  split
  · exact only_value _ _
  apply only_step True.intro
  intro locked
  split
  · exact only_value _ _
  apply only_step True.intro
  intro locked
  split
  · exact only_value _ _
  apply only_step True.intro
  intro locked
  split
  · exact only_value _ _
  · exact uncompared_checkPassword _ _ long

/-- A token that matches everything. -/
theorem verify_any : Csrf.verify (fun _ => true) "token" = true := by decide

theorem not_signsIn (state : State) (visit : Visit) {csrfToken : String}
    (verified : Csrf.verify visit.token csrfToken = true)
    (long : 256 < len password) (member : stored ∈ state.database.operators.rows) :
    ¬ SignsIn app stored username password := by
  intro signsIn
  have issues := signsIn state ⟨none, none, false⟩ stored visit csrfToken ⟨member, rfl, rfl⟩ verified
  refine Issues.not_of_only (M := Console.machine app) ?_ issues
  apply (uncompared_loginSubmit visit csrfToken long).mono
  intro command uncompared same
  rw [same] at uncompared
  exact uncompared

/-! ## The setters -/

theorem stored_of_stores {item : Console.Item app} (genuine : item.Genuine)
    (stores : Stores item stored) : stored ∈ item.after.database.operators.rows := by
  rcases stores with ⟨input, seen⟩ | ⟨idUser, input, hash, seen⟩ | ⟨idUser, hash, seen⟩
  · rcases Console.performed_of_genuine genuine seen with ⟨draw, held, performed⟩
    exact ((Database.create_spec (Console.commit_some performed).1).2.1 stored).mpr (Or.inr rfl)
  · rcases Console.performed_of_genuine genuine seen with ⟨draw, held, performed⟩
    exact (Database.findOperator_eq_some.mp
      (Database.changeAndLoad_spec (Console.commit_some performed).1).2).1
  · rcases Console.performed_of_genuine genuine seen with ⟨draw, held, performed⟩
    exact (Database.findOperator_eq_some.mp
      (Database.changeAndLoad_spec (Console.commit_some performed).1).2).1

/-- Names that the setters accept are short. -/
theorem len_of_validUsername (valid : Acl.validUsername username = true) : len username ≤ 32 := by
  simp only [Acl.validUsername, Bool.and_eq_true, decide_eq_true_eq] at valid
  exact valid.1.2

/-- The name under which a row is stored. -/
theorem username_of_stores {item : Console.Item app} (genuine : item.Genuine)
    (vetted : Vetted app item.request.route item.seen.command) (stores : Stores item stored) :
    Accepted app item.request.route stored.username ∨
      Exists fun password => item.request.route.ownPassword = some password ∧
        Sanitize.secretHasRejectedMarkup app.clean password = false := by
  rcases stores with ⟨input, seen⟩ | ⟨idUser, input, hash, seen⟩ | ⟨idUser, hash, seen⟩
  · rcases Console.performed_of_genuine genuine seen with ⟨draw, held, performed⟩
    rw [seen] at vetted
    rw [(Database.create_spec (Console.commit_some performed).1).1]
    exact Or.inl vetted
  · rcases Console.performed_of_genuine genuine seen with ⟨draw, held, performed⟩
    rw [seen] at vetted
    rcases Database.changeAndLoad_row (Console.commit_some performed).1 with ⟨old, -, -, same⟩
    rw [same]
    exact Or.inl vetted
  · rw [seen] at vetted
    exact Or.inr vetted

/-- The route that sets a name sets no password alone, and the other way round. -/
theorem credentials_of_ownPassword {route : Route} {password : String}
    (own : route.ownPassword = some password) : route.credentials = none := by
  cases route <;> first | rfl | cases own

/-- The texts of a stored row passed the checks of their route. -/
theorem checked_of_stores {item : Console.Item app} (genuine : item.Genuine)
    (vetted : Vetted app item.request.route item.seen.command) (stores : Stores item stored)
    (sets : Sets app item.request.route stored username password) :
    signInName app username = stored.username ∧
      Sanitize.secretHasRejectedMarkup app.clean password = false := by
  rcases username_of_stores genuine vetted stores with
    ⟨rawUsername, rawPassword, offered, name, -, clean⟩ | ⟨rawPassword, own, clean⟩
  · rcases sets with same | ⟨own, -⟩
    · rw [offered] at same
      cases same
      exact ⟨name.symm, clean⟩
    · rw [credentials_of_ownPassword own] at offered
      cases offered
  · rcases sets with offered | ⟨same, name⟩
    · rw [credentials_of_ownPassword own] at offered
      cases offered
    · rw [own] at same
      cases same
      exact ⟨name, clean⟩

/-- In every run, what a setter has stored can be used exactly if the password
has at most 256 bytes. -/
theorem set_credentials_usable_iff {state : State} (accepted : state.database.NamesAccepted)
    {config : Config (Console.machine app)}
    (reached : Reaches (Console.service app) anyCommand (Config.idle state) config)
    {item : Console.Item app} (member : item ∈ config.world.log) (stores : Stores item stored)
    (sets : Sets app item.request.route stored username password) :
    Usable app item.after.database stored username password ↔ len password ≤ 256 := by
  have recorded := ((Console.growth app).journal_lasting (Console.service app) anyCommand state
    config reached).1
  have genuine := recorded.genuine item member
  have kept := stored_of_stores genuine stores
  constructor
  · intro usable
    by_contra long
    exact not_signsIn item.after ⟨none, "", fun _ => true⟩ verify_any (by omega) kept
      usable.signsIn
  · intro fits
    have vetted : Vetted app item.request.route item.seen.command :=
      (Console.growth app).requested_of_log vetted_service reached member
    rcases checked_of_stores genuine vetted stores sets with ⟨name, clean⟩
    rcases reached.state_after rfl member with ⟨earlier, reachedEarlier, same⟩
    have valid : Acl.validUsername stored.username = true := by
      apply namesAccepted_reached accepted reachedEarlier
      rw [same]
      exact kept
    have short := len_of_validUsername valid
    constructor
    · exact kept
    · exact signsIn_of_bounds name (by omega) fits clean
    · intro given
      exact stepsUp_of_bounds given fits clean

end Credentials
namespace Sample

def bootstrapped : AppState := { app with firstTimeToken := some "bootstrap" }

def vacant : State where
  database := Database.empty
  sessions := SessionStore.empty
  now := 1000
  known := []

def registration (password : String) : FirstTimeForm :=
  ⟨"root", "owner@example", password, "admin", "bootstrap", true, false⟩

theorem acceptsRegistration_of_password {password : String}
    (clean : Sanitize.secretHasRejectedMarkup id password = false)
    (named : Password.accepts password "root" = true)
    (addressed : Password.accepts password "owner" = true) :
    Setup.acceptsRegistration bootstrapped (registration password) = true := by
  have username : toAsciiLowercase (Sanitize.plainText bootstrapped.clean
      (registration password).username) = "root" := by
    change toAsciiLowercase (Sanitize.plainText id "root") = "root"
    decide
  have email : toAsciiLowercase (Sanitize.plainText bootstrapped.clean
      (registration password).email) = "owner@example" := by
    change toAsciiLowercase (Sanitize.plainText id "owner@example") = "owner@example"
    decide
  have role : toAsciiLowercase (Sanitize.plainText bootstrapped.clean
      (registration password).userType) = "admin" := by
    change toAsciiLowercase (Sanitize.plainText id "admin") = "admin"
    decide
  have owner : firstPart '@' "owner@example" = "owner" := by decide
  have unmarked : Sanitize.secretHasRejectedMarkup bootstrapped.clean
      (registration password).password = false := clean
  have valid : (Acl.validUsername "root" && Acl.validEmail "owner@example") = true := by decide
  simp only [Setup.acceptsRegistration, username, email, role, owner, unmarked, valid,
    decide_true, Bool.not_false, Bool.and_self, Bool.true_and]
  exact Bool.and_eq_true_iff.mpr ⟨named, addressed⟩

/-- The program of the registration. -/
theorem firstTime_accepts {password : String}
    (accepts : Setup.acceptsRegistration bootstrapped (registration password) = true) :
    Setup.firstTime bootstrapped (registration password) =
      Program.call (S := console) .count fun operators : Nat =>
        if 0 < operators then .done (.status 410 "first_time was already consumed")
        else .call (.create ⟨"root", "owner@example", "admin", password⟩) fun _ =>
          .done (.status 201 "initial administrator created; endpoint is now closed") := by
  have refusal : Setup.tokenRefusal bootstrapped (registration password).token = none := by
    change Setup.tokenRefusal bootstrapped "bootstrap" = none
    decide
  have username : toAsciiLowercase (Sanitize.plainText bootstrapped.clean
      (registration password).username) = "root" := by
    change toAsciiLowercase (Sanitize.plainText id "root") = "root"
    decide
  have email : toAsciiLowercase (Sanitize.plainText bootstrapped.clean
      (registration password).email) = "owner@example" := by
    change toAsciiLowercase (Sanitize.plainText id "owner@example") = "owner@example"
    decide
  unfold Setup.firstTime
  rw [refusal, accepts, username, email]
  rfl

theorem service_registration {password : String}
    (accepts : Setup.acceptsRegistration bootstrapped (registration password) = true) :
    Console.service bootstrapped ⟨visit none, .firstTime (registration password)⟩ =
      Program.call (S := console) .count fun operators : Nat =>
        if 0 < operators then .done ()
        else .call (.create ⟨"root", "owner@example", "admin", password⟩) fun _ => .done () := by
  change (Setup.firstTime bootstrapped (registration password) >>= fun _ => pure ()) = _
  rw [firstTime_accepts accepts, Program.call_bind]
  apply congrArg (Program.call (S := console) .count)
  funext operators
  split <;> rfl

/-- A run that registers the first administrator. -/
theorem registered {password : String}
    (accepts : Setup.acceptsRegistration bootstrapped (registration password) = true) :
    Exists fun config => Exists fun item => Exists fun stored =>
      Reaches (Console.service bootstrapped) anyCommand (Config.idle vacant) config ∧
        item ∈ config.world.log ∧ Credentials.Stores item stored ∧
        Credentials.Sets bootstrapped item.request.route stored "root" password := by
  have idle : Reaches (Console.service bootstrapped) anyCommand (Config.idle vacant)
      (Config.idle vacant) := Reaches.here
  have accepted := idle.next (Action.accept (M := Console.machine bootstrapped)
    ⟨visit none, .firstTime (registration password)⟩) (Config.meets_anyCommand _ _) rfl
  rw [service_registration accepts] at accepted
  have counted := accepted.step 0 ({} : Draw) rfl rfl
  have created := counted.step 0 ({} : Draw) rfl rfl
  exact ⟨_, _, _, created, List.mem_cons_self, Or.inl ⟨_, rfl⟩, Or.inl rfl⟩

/-- A password of 257 bytes. -/
def longPassword : String := String.ofList ("More-Than-14!".toList ++ List.replicate 244 'x')

set_option maxRecDepth 100000 in
theorem len_longPassword : len longPassword = 257 := by
  unfold len longPassword
  rw [String.toList_ofList]
  decide

set_option maxRecDepth 100000 in
theorem longPassword_clean : Sanitize.secretHasRejectedMarkup id longPassword = false := by
  have delimiters : (longPassword.toList.contains '<' || longPassword.toList.contains '>') =
      false := by
    unfold longPassword
    rw [String.toList_ofList]
    decide
  unfold Sanitize.secretHasRejectedMarkup
  dsimp only
  rw [delimiters, Bool.false_and]

theorem length_longPassword : longPassword.toList.length = 257 := by
  unfold longPassword
  rw [String.toList_ofList, List.length_append, List.length_replicate]
  rfl

set_option maxRecDepth 100000 in
theorem characterClasses_longPassword : Password.characterClasses longPassword = 4 := by
  have characters : longPassword.toList = "More-Than-14!".toList ++ List.replicate 244 'x' :=
    String.toList_ofList
  unfold Password.characterClasses
  rw [characters]
  decide

set_option maxRecDepth 100000 in
theorem lower_longPassword : (toAsciiLowercase longPassword).toList =
    "more-than-14!".toList ++ List.replicate 244 'x' := by
  unfold toAsciiLowercase longPassword
  rw [String.toList_ofList, String.toList_ofList, List.map_append, List.map_replicate]
  rfl

/-- A long password that does not contain the identity. -/
theorem longPassword_accepts {identity : String}
    (absent : ¬ (toAsciiLowercase identity).toList <:+:
      "more-than-14!".toList ++ List.replicate 244 'x') :
    Password.accepts longPassword identity = true := by
  have apart : contains (toAsciiLowercase longPassword) (toAsciiLowercase identity) = false := by
    unfold contains
    rw [lower_longPassword]
    exact decide_eq_false absent
  have long : ¬ longPassword.toList.length < Password.minimumPasswordLength := by
    rw [length_longPassword]
    decide
  have mixed : ¬ Password.characterClasses longPassword < 3 := by
    rw [characterClasses_longPassword]
    decide
  exact Password.accepts_of_checks long mixed apart

set_option maxRecDepth 100000 in
theorem longPassword_accepted :
    Setup.acceptsRegistration bootstrapped (registration longPassword) = true :=
  acceptsRegistration_of_password longPassword_clean (longPassword_accepts (by decide))
    (longPassword_accepts (by decide))

set_option maxRecDepth 100000 in
theorem set_credentials_usable_registered :
    Exists fun config => Exists fun item => Exists fun stored =>
      Reaches (Console.service bootstrapped) anyCommand (Config.idle vacant) config ∧
        item ∈ config.world.log ∧
        Credentials.Usable bootstrapped item.after.database stored "root"
          "More-Than-14!Characters9." := by
  have accepts : Setup.acceptsRegistration bootstrapped
      (registration "More-Than-14!Characters9.") = true := by decide
  rcases registered accepts with ⟨config, item, stored, reached, member, stores, sets⟩
  exact ⟨config, item, stored, reached, member,
    (Credentials.set_credentials_usable_iff Database.namesAccepted_empty reached member stores
      sets).mpr (by decide)⟩

/-- An administrator registers with a password of 257 bytes and cannot sign in. -/
theorem long_password_locked_out :
    ¬ forall config, Reaches (Console.service bootstrapped) anyCommand (Config.idle vacant) config ->
      forall item, item ∈ config.world.log -> forall stored username password,
        Credentials.Stores item stored ->
        Credentials.Sets bootstrapped item.request.route stored username password ->
        Credentials.Usable bootstrapped item.after.database stored username password := by
  intro usable
  rcases registered longPassword_accepted with ⟨config, item, stored, reached, member, stores, sets⟩
  have works := usable config reached item member stored "root" longPassword stores sets
  have long : 256 < len longPassword := by
    rw [len_longPassword]
    decide
  exact Credentials.not_signsIn item.after (visit none) Credentials.verify_any long works.kept
    works.signsIn

end Sample
end KrakenUi
