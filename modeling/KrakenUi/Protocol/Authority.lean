import KrakenUi.Guarantees.Authentication
import KrakenUi.Protocol.Handlers
import KrakenUi.Protocol.Privilege

namespace KrakenUi

open Interaction

/-!
# On whose authority a request acts

A privileged command needs three things in the journal of its request: the guard
compared the stored epoch and role of an account with the session, the current
password from the form was accepted for a record of that account read by this
very request, and the last look at the second factor of the account found it off or
consumed a code.  A new password of one's own needs no second factor, and confirming
an enrolment needs the guard alone.

The bootstrap has no session.  It needs a direct connection from the machine itself,
the token, a registration that passes every check, and a count of zero operators.
-/

namespace Route

/-- The current password that a form repeats. -/
def currentPassword : Route -> Option String
  | insertUserAction form => some form.currentPassword
  | deleteUserAction form => some form.currentPassword
  | updateUserAction form => some form.currentPassword
  | startUpdate form => some form.currentPassword
  | updatePasswordAction form => some form.currentPassword
  | mfaEnroll form => some form.currentPassword
  | mfaDisable form => some form.currentPassword
  | mfaRegenerate form => some form.currentPassword
  | _ => none

end Route

namespace Console

open Privilege

variable {app : AppState} {flight after : Flight app} {idUser : Int} {α : Type}
  {allowedRoles : List OperatorRole}

/-- The guard let the account through with one of these roles. -/
def Empowered (items : List (Item app)) (idUser : Int) (allowedRoles : List OperatorRole) :
    Prop :=
  Exists fun item => item ∈ items ∧ Passed item idUser ∧
    Exists fun operator => Exists fun role =>
      item.seen = ⟨.findById idUser, some operator⟩ ∧ operator.role = some role ∧
        role ∈ allowedRoles

/-- The password was accepted for a record of the account that was read before. -/
def Reconfirmed (items : List (Item app)) (idUser : Int) (password : String) : Prop :=
  Exists fun operator => Exists fun verification : PasswordVerification =>
    (Exists fun item => item ∈ items ∧ Reads item operator) ∧ operator.idUser = idUser ∧
      Saw items (.spawnVerify idUser operator.encryptedPasswordHash password) (.ok verification) ∧
      verification.valid = true

/-- The current password of the form was accepted for the account. -/
def PasswordRepeated (flight : Flight app) (idUser : Int) : Prop :=
  Exists fun password => flight.request.route.currentPassword = some password ∧
    Reconfirmed flight.own idUser password

/-- The guard and the step-up have both been passed for the account. -/
structure Cleared (flight : Flight app) (allowedRoles : List OperatorRole) (idUser : Int) :
    Prop where
  empowered : Empowered flight.own idUser allowedRoles
  repeated : PasswordRepeated flight idUser
  stepped : SteppedUp flight.own idUser

/-- What a registration stores. -/
def registrant (app : AppState) (form : FirstTimeForm) : NewOperator :=
  ⟨Text.toAsciiLowercase (Sanitize.plainText app.clean form.username),
    Text.toAsciiLowercase (Sanitize.plainText app.clean form.email), OperatorRole.admin.asStr,
    form.password⟩

/-- What the bootstrap looks at before it creates the first account. -/
def Bootstraps (flight : Flight app) (input : NewOperator) : Prop :=
  Exists fun form => flight.request.route = .firstTime form ∧ input = registrant app form ∧
    form.loopback = true ∧ form.forwardingHeaders = false ∧
    Setup.tokenRefusal app form.token = none ∧ Setup.acceptsRegistration app form = true ∧
    Saw flight.own .count 0

/-- What has to stand in the journal before each command. -/
def Authorised (flight : Flight app) : Command -> Prop
  | .create input => Bootstraps flight input ∨ Exists fun actor => Cleared flight [.admin] actor
  | .update _ _ _ | .deleteById _ | .startSourceUpdate =>
      Exists fun actor => Cleared flight [.admin] actor
  | .updatePassword idUser _ =>
      Empowered flight.own idUser OperatorRole.all ∧ PasswordRepeated flight idUser
  | .beginEnrollment idUser _ | .disable idUser | .regenerateRecoveryCodes idUser =>
      Cleared flight OperatorRole.all idUser
  | .confirmEnrollment _ idUser _ => Empowered flight.own idUser OperatorRole.all
  | _ => True

def authority (app : AppState) : Contract (machine app) where
  Permitted := Authorised
  Settled := fun _ => True

/-! ## Facts that stay -/

theorem Empowered.mono {items more : List (Item app)}
    (empowered : Empowered items idUser allowedRoles) (subset : items ⊆ more) :
    Empowered more idUser allowedRoles := by
  rcases empowered with ⟨item, member, passed⟩
  exact ⟨item, subset member, passed⟩

theorem Reconfirmed.mono {items more : List (Item app)} {password : String}
    (reconfirmed : Reconfirmed items idUser password) (subset : items ⊆ more) :
    Reconfirmed more idUser password := by
  rcases reconfirmed with ⟨operator, verification, ⟨item, member, reads⟩, owner, verified, valid⟩
  exact ⟨operator, verification, ⟨item, subset member, reads⟩, owner, verified.mono subset, valid⟩

theorem Cleared.onward (cleared : Cleared flight allowedRoles idUser)
    (onward : Onward flight after) : Cleared after allowedRoles idUser where
  empowered := cleared.empowered.mono onward.subset
  repeated := by
    rcases cleared.repeated with ⟨password, given, reconfirmed⟩
    exact ⟨password, by rw [onward.request]; exact given, reconfirmed.mono onward.subset⟩
  stepped := onward.steppedUp cleared.stepped

/-- A request that has passed the guard of its route. -/
structure Admitted (flight : Flight app) (route : Route) (allowedRoles : List OperatorRole)
    (idUser : Int) : Prop where
  route : flight.request.route = route
  acting : Acting flight idUser
  empowered : Empowered flight.own idUser allowedRoles

theorem Admitted.onward {route : Route} (admitted : Admitted flight route allowedRoles idUser)
    (onward : Onward flight after) : Admitted after route allowedRoles idUser where
  route := by rw [onward.request]; exact admitted.route
  acting := admitted.acting.onward onward
  empowered := admitted.empowered.mono onward.subset

/-! ## Rules -/

theorem authorised_of_unprivileged {command : Command} (flight : Flight app)
    (unprivileged : Unprivileged command) : Authorised flight command := by
  cases command <;> first | exact True.intro | exact unprivileged.elim

theorem keeps_unprivileged {program : Handler α} (unprivileged : program.Only Unprivileged)
    (flight : Flight app) : Keeps (authority app) program flight (fun _ _ => True) := by
  apply Keeps.only (fun _ _ => True) (fun _ => True.intro) (fun _ _ => True.intro) _ _
    unprivileged flight
  · intro flight command harmless
    exact authorised_of_unprivileged flight harmless
  · intros
    exact True.intro

/-- A plain program without privilege goes on for the same account. -/
theorem authorised_onward {program : Handler α} (plain : program.Only Plain)
    (unprivileged : program.Only Unprivileged) (flight : Flight app) :
    Keeps (authority app) program flight (fun _ after => Onward flight after) :=
  ((keeps_plain plain flight).recall (keeps_unprivileged unprivileged flight)).mono
    fun _ _ both => both.1

/-- The rule for a plain command in front of a program. -/
theorem authorised_plainly {command : Command} {rest : command.Reply -> Handler α}
    {post : α -> Flight app -> Prop} (plain : Plain command) (unprivileged : Unprivileged command)
    (next : forall reply after, flight.Follows after command reply -> Onward flight after ->
      Keeps (authority app) (rest reply) after post) :
    Keeps (authority app) (call command >>= rest) flight post := by
  refine Keeps.call (authorised_of_unprivileged flight unprivileged) ?_
  intro reply after follows
  exact next reply after follows (onward_of_plain follows plain)

/-- The rule for reading the record again: the reply is known. -/
theorem authorised_again {data : SessionData} {rest : SessionData -> Handler α}
    {post : α -> Flight app -> Prop} (loaded : flight.held.data = some data)
    (next : forall after, after.held.data = some data -> Onward flight after ->
      Keeps (authority app) (rest data) after post) :
    Keeps (authority app) (call .record >>= rest) flight post := by
  refine authorised_plainly rfl True.intro ?_
  intro reply after follows onward
  rcases record_again loaded follows with ⟨rfl, held⟩
  exact next after (by rw [held]; exact loaded) onward

/-- The rule for a command at the front whose follow-up has no privilege. -/
theorem authorised_finally {command : Command} {rest : command.Reply -> Handler α}
    (permitted : Authorised flight command)
    (unprivileged : forall reply, (rest reply).Only Unprivileged) :
    Keeps (authority app) (call command >>= rest) flight (fun _ _ => True) := by
  refine Keeps.call permitted ?_
  intro reply after _
  exact keeps_unprivileged (unprivileged reply) after

/-! ## The guard -/

/-- The guard reads one row, and answers with its role. -/
theorem role_of_returns {guarding : List (Item app)} {role : OperatorRole} {operator : Operator}
    {item : Item app}
    (returned : (Auth.authorizedRole app).Returns (guarding.reverse.map Entry.seen) (some role))
    (member : item ∈ guarding) (read : item.seen = ⟨.findById idUser, some operator⟩) :
    operator.role = some role := by
  rcases authorizedRole_returns returned with
      ⟨first, second, third, fourth, now, account, row, timestamp, tail, transcript, -, -, -, -,
      stored, rotated⟩
  rcases rotate_returns rotated with ⟨fifth, writes, rfl, harmless⟩
  have seen : item.seen ∈ guarding.reverse.map Entry.seen :=
    List.mem_map_of_mem (List.mem_reverse.mpr member)
  rw [transcript, read] at seen
  simp only [List.mem_cons] at seen
  rcases seen with same | same | same | same | same | same | same | writing
  · cases same
  · cases same
  · cases same
  · cases same
  · cases same
  · cases same
    exact stored
  · cases same
  · rcases harmless _ writing with cycle | insert
    · cases cycle
    · cases insert

/-- A guarded handler only has to be authorised for a request that has passed. -/
theorem authorised_guard {next : Handler Response} (fresh : flight.own = [])
    (guarded : flight.request.route.signsIn = false)
    (inner : forall (after : Flight app) idUser,
      Admitted after flight.request.route allowedRoles idUser ->
        Keeps (authority app) next after (fun _ _ => True)) :
    Keeps (authority app) (Routes.guard app allowedRoles next) flight (fun _ _ => True) := by
  refine (keeps_authorizedRole.returns.recall
    (keeps_unprivileged unprivileged_authorizedRole flight)).bind ?_
  rintro role after ⟨⟨⟨request, through⟩, segment, own, returned⟩, -⟩
  cases role with
  | none => exact Keeps.pure True.intro
  | some role =>
  rw [fresh, List.append_nil] at own
  rcases through rfl with ⟨-, idUser, identified, passing⟩
  dsimp only
  split
  · rename_i allowed
    apply inner after idUser
    refine ⟨by rw [request], ⟨by rw [request]; exact guarded, identified, passing⟩, ?_⟩
    rcases passing with ⟨item, member, passed⟩
    rcases passed with ⟨operator, data, seen, rest⟩
    refine ⟨item, member, ⟨operator, data, seen, rest⟩, operator, role, seen, ?_, allowed⟩
    rw [own] at member
    exact role_of_returns returned member seen
  · exact Keeps.pure True.intro

/-! ## The step-up -/

/-- The row that a step-up returns was read, and the password was accepted for it. -/
theorem stepUp_returns {currentPassword mfaCode : String} {transcript : List (Observation console)}
    {operator : Operator}
    (returned : (StepUp.verify app currentPassword mfaCode).Returns transcript
      (.verified operator)) :
    Exists fun account => Exists fun verification : PasswordVerification =>
      (⟨.findById account, some operator⟩ : Observation console) ∈ transcript ∧
        (⟨.spawnVerify operator.idUser operator.encryptedPasswordHash currentPassword,
          .ok verification⟩ : Observation console) ∈ transcript ∧
        verification.valid = true := by
  rcases @returns_step _ .record _ _ _ returned with ⟨data, rest₁, rfl, named⟩
  dsimp only at named
  cases owner : data.authenticatedUserId with
  | none =>
      rw [owner] at named
      cases ((Program.returns_pure _ _ _).mp named).2
  | some account =>
  rw [owner] at named
  rcases @returns_step _ (.findById account) _ _ _ named with ⟨found, rest₂, rfl, checked⟩
  change Option Operator at found
  cases found with
  | none => cases ((Program.returns_pure _ _ _).mp checked).2
  | some row =>
  dsimp only at checked
  split at checked
  · cases ((Program.returns_pure _ _ _).mp checked).2
  rcases @returns_step _ (.spawnVerify _ _ _) _ _ _ checked with ⟨answer, rest₃, rfl, judged⟩
  change Except String PasswordVerification at answer
  cases answer with
  | error message =>
      unfold raise at judged
      rcases (Program.returns_call _ _ _ _).mp judged with ⟨never, -⟩
      exact never.elim
  | ok verification =>
  dsimp only at judged
  split at judged
  · cases ((Program.returns_pure _ _ _).mp judged).2
  rename_i valid
  rw [Bool.not_eq_true', Bool.not_eq_false] at valid
  -- Whatever follows returns the row that was read.
  have finished : forall {transcript : List (Observation console)},
      (StepUp.finish row).Returns transcript (.verified operator) -> operator = row := by
    intro transcript finishing
    rcases (Program.returns_bind _ _ _ _).mp finishing with ⟨_, _, _, _, _, marking⟩
    rcases (Program.returns_bind _ _ _ _).mp marking with ⟨_, _, _, _, _, freshly⟩
    rcases (Program.returns_bind _ _ _ _).mp freshly with ⟨_, _, fresh, _, _, ended⟩
    split at ended
    · have same := ((Program.returns_pure _ _ _).mp ended).2
      cases same
      rfl
    · cases ((Program.returns_pure _ _ _).mp ended).2
  have same : operator = row := by
    rcases (Program.returns_bind _ _ _ _).mp judged with ⟨_, _, enabled, _, _, settled⟩
    split at settled
    · split at settled
      · cases ((Program.returns_pure _ _ _).mp settled).2
      rcases (Program.returns_bind _ _ _ _).mp settled with ⟨_, _, accepted, _, _, ended⟩
      split at ended
      · cases ((Program.returns_pure _ _ _).mp ended).2
      · exact finished ended
    · exact finished settled
  subst same
  exact ⟨account, verification, by simp, by simp, valid⟩

/-- The rule for handlers that start with a step-up and have no privilege when it
is refused. -/
theorem authorised_afterStepUp {currentPassword mfaCode : String} {route : Route}
    {next : StepUpOutcome -> Handler α} (admitted : Admitted flight route allowedRoles idUser)
    (given : route.currentPassword = some currentPassword)
    (unauthorized : (next .unauthorized).Only Unprivileged)
    (rejected : forall message, (next (.rejected message)).Only Unprivileged)
    (verified : forall operator after, operator.idUser = idUser ->
      Cleared after allowedRoles idUser ->
        Keeps (authority app) (next (.verified operator)) after (fun _ _ => True)) :
    Keeps (authority app) (StepUp.verify app currentPassword mfaCode >>= next) flight
      (fun _ _ => True) := by
  refine ((keeps_stepUp admitted.acting currentPassword mfaCode).returns.recall
    (keeps_unprivileged (unprivileged_stepUp _ _) flight)).bind ?_
  rintro outcome after ⟨⟨⟨request, acting, passed⟩, segment, own, returned⟩, -⟩
  cases outcome with
  | unauthorized => exact keeps_unprivileged unauthorized after
  | rejected message => exact keeps_unprivileged (rejected message) after
  | verified operator =>
      rcases passed operator rfl with ⟨owner, stepped⟩
      rcases stepUp_returns returned with ⟨account, verification, read, checked, valid⟩
      have kept : flight.own ⊆ after.own := by
        rw [own]
        exact List.subset_append_right _ _
      have saw : forall observed : Observation console,
          observed ∈ segment.reverse.map Entry.seen ->
            Exists fun item : Item app => item ∈ after.own ∧ item.seen = observed := by
        intro observed among
        rcases List.mem_map.mp among with ⟨item, member, seen⟩
        refine ⟨item, ?_, seen⟩
        rw [own]
        exact List.mem_append_left _ (List.mem_reverse.mp member)
      refine verified operator after owner ⟨admitted.empowered.mono kept, ?_, stepped⟩
      refine ⟨currentPassword, by rw [request, admitted.route]; exact given, operator,
        verification, ?_, owner, ?_, valid⟩
      · rcases saw _ read with ⟨item, member, seen⟩
        exact ⟨item, member, Or.inr (Or.inl ⟨account, seen⟩)⟩
      · rw [owner] at checked
        exact saw _ checked

end Console
end KrakenUi
