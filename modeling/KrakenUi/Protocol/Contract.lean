import KrakenUi.Controllers.Routes

namespace KrakenUi

open Interaction

/-!
# What the handlers have in hand

The handlers never look at the shared state between two calls; what they know
is what they have read.  This module says which facts a request must have in
its own journal before it performs a sensitive command.  The facts name replies
the request got, never the state behind them, so they stay true while others
run.

An account is signed in on a session by a request that has checked the
password, or by one that has found a fresh marker of such a check and consumed
a second factor.  Elsewhere the identity keys of a session are only rewritten with
the account they already name.
-/

namespace Route

/-- The two routes that may sign an account in. -/
def signsIn : Route -> Bool
  | loginSubmit _ | mfaVerify _ => true
  | _ => false

end Route

namespace Command

/-- The writes that make or mark an identity. -/
def marksIdentity : Command -> Bool
  | insert (.authenticatedUserId _) | insert (.authenticatedAt _)
  | insert (.mfaPendingUserId _) | insert (.mfaPendingAt _) => true
  | _ => false

/-- The write that names the account of a session. -/
def namesAccount : Command -> Bool
  | insert (.authenticatedUserId _) => true
  | _ => false

/-- The write that names the account of a pending marker. -/
def marksPending : Command -> Bool
  | insert (.mfaPendingUserId _) => true
  | _ => false

/-- The commands that look at the second factor of an account or use it. -/
def looksAtFactor : Command -> Bool
  | totpRow _ | consumeTotpStep _ _ _ | consumeRecoveryCodeRow _ _ => true
  | _ => false

end Command

namespace Console

variable {app : AppState}

/-- A request of the console and the entries of its journal. -/
abbrev Flight (app : AppState) := InFlight (machine app)

abbrev Item (app : AppState) := Entry (machine app)

/-- The entry got a row of `operators` from the database. -/
def Reads (item : Item app) (operator : Operator) : Prop :=
  (Exists fun username => item.seen = ⟨.findByUsername username, some operator⟩) ∨
  (Exists fun idUser => item.seen = ⟨.findById idUser, some operator⟩) ∨
  (Exists fun idUser => Exists fun input => Exists fun hash =>
    item.seen = ⟨.update idUser input hash, operator⟩) ∨
  (Exists fun idUser => Exists fun hash => item.seen = ⟨.updatePassword idUser hash, operator⟩)

/-- A row of the account with this epoch has been read. -/
def EpochRead (items : List (Item app)) (idUser version : Int) : Prop :=
  Exists fun item => item ∈ items ∧
    Exists fun operator => Reads item operator ∧ operator.idUser = idUser ∧
      operator.authzVersion = version

/-- The password of the form was accepted for the stored record of the account. -/
def PasswordAccepted (items : List (Item app)) (form : LoginForm) (idUser : Int) : Prop :=
  Exists fun username => Exists fun operator => Exists fun verification : PasswordVerification =>
    Saw items (.findByUsername username) (some operator) ∧ operator.idUser = idUser ∧
      Saw items (.spawnVerify idUser operator.encryptedPasswordHash form.password)
        (.ok verification) ∧
      verification.valid = true

/-- The record replaces the one for which a password of the account was accepted. -/
def Rehashed (items : List (Item app)) (idUser : Int) (replacement : String) : Prop :=
  Exists fun username => Exists fun operator => Exists fun password =>
    Saw items (.findByUsername username) (some operator) ∧ operator.idUser = idUser ∧
      Saw items (.spawnVerify idUser operator.encryptedPasswordHash password)
        (.ok ⟨true, some replacement⟩)

/-- The record was made for a new password of the account. -/
def Encrypted (items : List (Item app)) (idUser : Int) (record : String) : Prop :=
  Exists fun password => Saw items (.spawnEncrypt idUser password) record

/-- Two-factor of the account was read as on, or as off. -/
def EnabledRead (items : List (Item app)) (idUser : Int) (enabled : Bool) : Prop :=
  Exists fun row : Option TotpRow => Saw items (.totpRow idUser) row ∧
    row.any TotpRow.isConfirmed = enabled

/-- A code of the account was consumed by this entry. -/
def SecondFactor (item : Item app) (idUser : Int) : Prop :=
  (Exists fun idTotp => Exists fun step => item.seen = ⟨.consumeTotpStep idTotp idUser step, true⟩) ∨
  (Exists fun idCode => item.seen = ⟨.consumeRecoveryCodeRow idUser idCode, true⟩)

/-- `verify_login_code` returned true for the account. -/
def Verified (items : List (Item app)) (idUser : Int) : Prop :=
  Exists fun code => Exists fun newer => Exists fun segment => Exists fun older =>
    items = newer ++ segment ++ older ∧
      (OperatorMfaRepository.verifyLoginCode app idUser code).Returns
        (segment.reverse.map Entry.seen) true

/-- A pending marker of the account was found, and it was fresh. -/
def FreshMarker (items : List (Item app)) (idUser : Int) : Prop :=
  Exists fun data : SessionData => Exists fun startedAt => Exists fun now : Int =>
    Saw items .record data ∧ data.mfaPendingUserId = some idUser ∧
      data.mfaPendingAt = some startedAt ∧ Saw items .now now ∧
      Auth.saturatingSub now startedAt ≤ Auth.mfaPendingTtlSeconds

/-- The request may sign the account in. -/
def Proven (flight : Flight app) (idUser : Int) : Prop :=
  match flight.request.route with
  | .loginSubmit form =>
      PasswordAccepted flight.own form idUser ∧ EnabledRead flight.own idUser false
  | .mfaVerify _ => FreshMarker flight.own idUser ∧ Verified flight.own idUser
  | _ => False

/-- The loaded session names the account. -/
def Identified (flight : Flight app) (idUser : Int) : Prop :=
  Exists fun data => flight.held.data = some data ∧ data.authenticatedUserId = some idUser

/-- The guard compared the stored epoch of the account with the session's. -/
def Passed (item : Item app) (idUser : Int) : Prop :=
  Exists fun operator => Exists fun data : SessionData =>
    item.seen = ⟨.findById idUser, some operator⟩ ∧ operator.idUser = idUser ∧
      item.held.data = some data ∧ data.authenticatedUserId = some idUser ∧
      data.authenticatedAuthzVersion = some operator.authzVersion

def Guarded (items : List (Item app)) (idUser : Int) : Prop :=
  Exists fun item => item ∈ items ∧ Passed item idUser

/-- Nothing that makes or marks an identity has been written. -/
abbrev Calm (items : List (Item app)) : Prop := Without Command.marksIdentity items

/-- Two-factor of the account was found off by this entry. -/
def FoundOff (item : Item app) (idUser : Int) : Prop :=
  Exists fun row : Option TotpRow => item.seen = ⟨.totpRow idUser, row⟩ ∧
    row.any TotpRow.isConfirmed = false

/-- The newest entry that looked at the second factor. -/
def LastLook (items : List (Item app)) (look : Item app) : Prop :=
  Exists fun newer => Exists fun older => items = newer ++ look :: older ∧
    Without Command.looksAtFactor newer

/-- The last look found two-factor off. -/
def Unenrolled (items : List (Item app)) (idUser : Int) : Prop :=
  Exists fun look => LastLook items look ∧ FoundOff look idUser

/-- The last look found two-factor off, or it consumed a code. -/
def SteppedUp (items : List (Item app)) (idUser : Int) : Prop :=
  Exists fun look => LastLook items look ∧ (FoundOff look idUser ∨ SecondFactor look idUser)

/-- The request has not signed anyone in, or it has finished doing so. -/
def Finished (flight : Flight app) : Prop :=
  Calm flight.own ∨
    (Without Command.marksPending flight.own ∧
      Exists fun timestamp => Saw flight.own (.insert (.authenticatedAt timestamp)) ()) ∨
    (Without Command.namesAccount flight.own ∧
      Exists fun timestamp => Saw flight.own (.insert (.mfaPendingAt timestamp)) ())

/-- The facts that go with each command. -/
def Permitted (flight : Flight app) : Command -> Prop
  | .insert (.authenticatedUserId idUser) =>
      if flight.request.route.signsIn then
        flight.held.id = none ∧ flight.held.data.isSome = true ∧ Calm flight.own ∧
          Proven flight idUser
      else Identified flight idUser
  | .insert (.authenticatedAuthzVersion version) =>
      Exists fun idUser => Identified flight idUser ∧ EpochRead flight.own idUser version ∧
        (flight.request.route.signsIn = false -> Guarded flight.own idUser)
  | .insert (.authenticatedAt timestamp) =>
      flight.request.route.signsIn = true ∧ flight.held.id = none ∧
        Saw flight.own .now timestamp ∧
        Exists fun idUser => Exists fun version => Exists fun data =>
          flight.held.data = some data ∧ data.authenticatedUserId = some idUser ∧
            data.authenticatedAuthzVersion = some version ∧
            Saw flight.own (.insert (.authenticatedUserId idUser)) () ∧ Proven flight idUser ∧
            EpochRead flight.own idUser version
  | .insert (.mfaPendingUserId idUser) =>
      flight.held.id = none ∧ flight.held.data.isSome = true ∧ Calm flight.own ∧
        Exists fun form => flight.request.route = .loginSubmit form ∧
          PasswordAccepted flight.own form idUser ∧ EnabledRead flight.own idUser true
  | .insert (.mfaPendingAt timestamp) =>
      flight.held.id = none ∧ Saw flight.own .now timestamp ∧
        Exists fun form => Exists fun idUser => Exists fun data =>
          flight.request.route = .loginSubmit form ∧ flight.held.data = some data ∧
            data.mfaPendingUserId = some idUser ∧
            Saw flight.own (.insert (.mfaPendingUserId idUser)) () ∧
            PasswordAccepted flight.own form idUser ∧ EnabledRead flight.own idUser true
  | .deleteById idUser =>
      Exists fun actor => Identified flight actor ∧ actor ≠ idUser
  | .update idUser input hash =>
      (Exists fun actor => Identified flight actor ∧
        (actor ≠ idUser ∨ input.operatorType = OperatorRole.admin.asStr)) ∧
        forall record, hash = some record -> Encrypted flight.own idUser record
  | .updatePassword idUser record => Encrypted flight.own idUser record
  | .storeEncryptedPassword idUser replacement => Rehashed flight.own idUser replacement
  | .beginEnrollment idUser _ => Unenrolled flight.own idUser
  | .disable idUser => SteppedUp flight.own idUser
  | _ => True

/-- The contract of the console's handlers. -/
def contract (app : AppState) : Contract (machine app) where
  Permitted := Permitted
  Settled := fun flight => flight.request.route.signsIn = true -> Finished flight

end Console
end KrakenUi
