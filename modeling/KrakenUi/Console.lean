import KrakenUi.Interaction.Journal
import KrakenUi.Models.Evolution
import KrakenUi.Models.SessionStore

namespace KrakenUi

open Interaction

/-!
# The console as a machine

The commands of the handlers: reads and committed transactions of the
repositories, calls of the session library, calls of the password service, the
clock, the throttles.  `Console.perform` gives each of them its meaning on the
shared state and on the session that the request holds.

The session library works on a copy.  The first access loads the record of the
presented id, once; reading and writing keys works on the copy; `cycle_id` and
`flush` delete the stored row at once and leave the request without an id.  When
the response is sent, a modified copy is saved, under the id it still has or
through `create` under a fresh one.

What the environment decides comes as a draw: random bytes and ciphertexts,
the verdict on a password, the answers of the throttles, fresh session ids.  A
command that the environment makes fail has no result, and its request can
only be dropped.
-/

/-- What the handlers take from configuration and from libraries. -/
structure AppState where
  /-- The HTML sanitiser without allowed tags. -/
  clean : String -> String
  /-- `decrypt_secret`: owner, domain and ciphertext. -/
  decryptSecret : Int -> String -> String -> Option String
  /-- The value of a base32 secret at each time step, if the secret is valid. -/
  totpValue : String -> Option (Nat -> Nat)
  /-- The provisioning URI of a secret for a label and an issuer. -/
  otpauthUri : String -> String -> String -> String
  adminSessionTimeLimitSeconds : Nat
  sessionTimeoutSeconds : Int
  firstTimeToken : Option String
  debugAssertions : Bool

structure PasswordVerification where
  valid : Bool
  replacementRecord : Option String
  deriving DecidableEq

inductive Command where
  | fail (message : String)
  | now
  | findByUsername (username : String)
  | findById (idUser : Int)
  | findByEmail (email : String)
  | count
  | create (input : NewOperator)
  | update (idUser : Int) (input : UpdateOperator) (encryptedPasswordHash : Option String)
  | updatePassword (idUser : Int) (encryptedPasswordHash : String)
  | storeEncryptedPassword (idUser : Int) (encryptedPasswordHash : String)
  | recordAuthenticationTimestamp (idUser : Int) (column : AuthenticationColumn)
  | deleteById (idUser : Int)
  | totpRow (idUser : Int)
  | beginEnrollment (idUser : Int) (encryptedSecret : String)
  | confirmEnrollment (idTotp idUser step : Int)
  | disable (idUser : Int)
  | regenerateRecoveryCodes (idUser : Int)
  | consumeTotpStep (idTotp idUser step : Int)
  | unusedRecoveryCodes (idUser : Int)
  | consumeRecoveryCodeRow (idUser idCode : Int)
  | remainingRecoveryCount (idUser : Int)
  | randomSecret
  | encryptSecret (idUser : Int) (domain plaintext : String)
  | spawnEncrypt (idUser : Int) (password : String)
  | spawnVerify (idUser : Int) (encryptedPasswordHash password : String)
  | spawnDummy (password : String)
  | record
  | insert (value : SessionValue)
  | remove (key : PendingKey)
  | cycleId
  | flush
  | sessionId
  | deleteByUserId (idUser : Int)
  | deleteByUserIdExcept (idUser : Int) (keep : SessionId)
  | lockedFor (key : String)
  | retryAfter (key : String)
  | recordFailure (key : String)
  | recordSuccess (key : String)
  | noteFailure (username : String)
  | startSourceUpdate
  deriving DecidableEq

namespace Command

/-- What each command answers. -/
abbrev Reply : Command -> Type
  | fail _ => Empty
  | now => Int
  | findByUsername _ | findById _ | findByEmail _ => Option Operator
  | count => Nat
  | create _ | update _ _ _ | updatePassword _ _ => Operator
  | storeEncryptedPassword _ _ | recordAuthenticationTimestamp _ _ => Unit
  | deleteById _ => Nat
  | totpRow _ => Option TotpRow
  | beginEnrollment _ _ | disable _ => Unit
  | confirmEnrollment _ _ _ | regenerateRecoveryCodes _ => Option (List String)
  | consumeTotpStep _ _ _ | consumeRecoveryCodeRow _ _ => Bool
  | unusedRecoveryCodes _ => List RecoveryCode
  | remainingRecoveryCount _ => Nat
  | randomSecret | encryptSecret _ _ _ | spawnEncrypt _ _ => String
  | spawnVerify _ _ _ => Except String PasswordVerification
  | spawnDummy _ => Unit
  | record => SessionData
  | insert _ | remove _ | cycleId | flush => Unit
  | sessionId => Option SessionId
  | deleteByUserId _ | deleteByUserIdExcept _ _ => Unit
  | lockedFor _ | retryAfter _ => Option Nat
  | recordFailure _ | recordSuccess _ => Unit
  | noteFailure _ | startSourceUpdate => Bool

end Command

/-- The handlers' calls. -/
abbrev console : Signature := ⟨Command, Command.Reply⟩

abbrev Handler := Program console

/-- The shared state.  `known` lists every session id that has been issued or
presented so far. -/
structure State where
  database : Database
  sessions : SessionStore
  now : Int
  known : List SessionId

/-- The session object of one request: its id, the loaded copy, and whether
the copy was changed. -/
structure Session where
  id : Option SessionId
  data : Option SessionData
  modified : Bool

/-- The environment's part of a command. -/
structure Draw where
  text : String := ""
  minted : List Database.MintedCode := []
  verification : Except String PasswordVerification := .ok ⟨true, none⟩
  retryAfter : Option Nat := none
  flag : Bool := true
  sessionId : SessionId := 0

namespace Session

/-- The stored record of the presented id, unless it is missing or expired. -/
def stored (session : Session) (state : State) : Option Record :=
  session.id.bind (state.sessions.load state.now)

/-- The place the first access copies from. -/
def source (session : Session) (state : State) : Option SessionId :=
  match session.data with
  | some _ => none
  | none => (session.stored state).map Record.id

/-- The data of the copy, loading it first if necessary. -/
def current (session : Session) (state : State) : SessionData :=
  match session.data with
  | some data => data
  | none =>
      match session.stored state with
      | some record => record.data
      | none => {}

theorem current_of_data {session : Session} {data : SessionData} (state : State)
    (loaded : session.data = some data) : session.current state = data := by
  rw [current, loaded]

/-- The id after the first access: an id without a record is given up. -/
def heldId (session : Session) (state : State) : Option SessionId :=
  match session.data with
  | some _ => session.id
  | none => (session.stored state).map Record.id

/-- The session once its record has been loaded. -/
def loaded (session : Session) (state : State) : Session :=
  { session with id := session.heldId state, data := some (session.current state) }

/-- Writing a value that is already there does not count as a change. -/
def insert (session : Session) (state : State) (value : SessionValue) : Session :=
  let data := session.current state
  { id := session.heldId state
    data := some (data.insert value)
    modified := session.modified || decide (data.insert value ≠ data) }

def remove (session : Session) (state : State) (key : PendingKey) : Session :=
  { id := session.heldId state
    data := some ((session.current state).remove key)
    modified := true }

/-- The copy survives, without an id. -/
def cycled (session : Session) (state : State) : Session :=
  { id := none, data := some (session.current state), modified := true }

/-- Nothing survives. -/
def flushed : Session :=
  { id := none, data := some {}, modified := true }

end Session

namespace State

def forget (state : State) (id : Option SessionId) : State :=
  match id with
  | none => state
  | some id => { state with sessions := state.sessions.delete id }

end State

namespace Console

/-- A transaction with a result. -/
def commit {command : Command} (state : State) (session : Session)
    (result : Option (command.Reply × Database)) : Option (command.Reply × State × Session) :=
  result.map fun outcome => (outcome.1, { state with database := outcome.2 }, session)

/-- A transaction without a result. -/
def commitUnit (state : State) (session : Session) (result : Option Database) :
    Option (Unit × State × Session) :=
  result.map fun database => ((), { state with database := database }, session)

def perform (state : State) (session : Session) (command : Command) (draw : Draw) :
    Option (command.Reply × State × Session) :=
  let database := state.database
  match command with
  | .fail _ => none
  | .now => some (state.now, state, session)
  | .findByUsername username =>
      some (database.operators.find fun operator => operator.username = username, state, session)
  | .findById idUser => some (database.findOperator idUser, state, session)
  | .findByEmail email =>
      some (database.operators.find fun operator => operator.email = email, state, session)
  | .count => some (database.operators.rows.length, state, session)
  | .create input => commit state session (database.create state.now input draw.text)
  | .update idUser input hash =>
      commit state session (database.update state.now idUser input hash)
  | .updatePassword idUser hash =>
      commit state session (database.updatePassword state.now idUser hash)
  | .storeEncryptedPassword idUser hash =>
      commitUnit state session (database.storeEncryptedPassword state.now idUser hash)
  | .recordAuthenticationTimestamp idUser column =>
      commitUnit state session (database.recordAuthenticationTimestamp state.now idUser column)
  | .deleteById idUser => commit state session (some (database.deleteById idUser))
  | .totpRow idUser => some (database.totpRow idUser, state, session)
  | .beginEnrollment idUser encryptedSecret =>
      commitUnit state session (database.beginEnrollment state.now idUser encryptedSecret)
  | .confirmEnrollment idTotp idUser step =>
      commit state session (database.confirmEnrollment state.now idTotp idUser step draw.minted)
  | .disable idUser => commitUnit state session (database.disable state.now idUser)
  | .regenerateRecoveryCodes idUser =>
      commit state session (database.regenerateRecoveryCodes state.now idUser draw.minted)
  | .consumeTotpStep idTotp idUser step =>
      commit state session (database.consumeTotpStep idTotp idUser step)
  | .unusedRecoveryCodes idUser => some (database.unusedRecoveryCodes idUser, state, session)
  | .consumeRecoveryCodeRow idUser idCode =>
      commit state session (database.consumeRecoveryCodeRow state.now idUser idCode)
  | .remainingRecoveryCount idUser =>
      some (database.remainingRecoveryCount idUser, state, session)
  | .randomSecret => some (draw.text, state, session)
  | .encryptSecret _ _ _ => some (draw.text, state, session)
  | .spawnEncrypt _ _ => some (draw.text, state, session)
  | .spawnVerify _ _ _ => some (draw.verification, state, session)
  | .spawnDummy _ => some ((), state, session)
  | .record => some (session.current state, state, session.loaded state)
  | .insert value => some ((), state, session.insert state value)
  | .remove key => some ((), state, session.remove state key)
  | .cycleId => some ((), state.forget (session.heldId state), session.cycled state)
  | .flush => some ((), state.forget session.id, Session.flushed)
  | .sessionId => some (session.id, state, session)
  | .deleteByUserId idUser =>
      -- A failed revocation is logged and the handler carries on.
      if draw.flag then
        some ((), { state with sessions := state.sessions.deleteByUserId idUser }, session)
      else some ((), state, session)
  | .deleteByUserIdExcept idUser keep =>
      if draw.flag then
        some ((), { state with sessions := state.sessions.deleteByUserIdExcept idUser keep },
          session)
      else some ((), state, session)
  | .lockedFor _ => some (draw.retryAfter, state, session)
  | .retryAfter _ => some (draw.retryAfter, state, session)
  | .recordFailure _ => some ((), state, session)
  | .recordSuccess _ => some ((), state, session)
  | .noteFailure _ => some (draw.flag, state, session)
  | .startSourceUpdate => some (draw.flag, state, session)

section Replies

variable {state next : State} {session held : Session} {draw : Draw}

theorem perform_record {reply : SessionData}
    (performed : perform state session .record draw = some (reply, next, held)) :
    reply = session.current state ∧ next = state ∧ held = session.loaded state := by
  have parts : some (session.current state, state, session.loaded state) =
    some (reply, next, held) := performed
  simp only [Option.some.injEq, Prod.mk.injEq] at parts
  exact ⟨parts.1.symm, parts.2.1.symm, parts.2.2.symm⟩

theorem perform_insert {value : SessionValue} {reply : Unit}
    (performed : perform state session (.insert value) draw = some (reply, next, held)) :
    next = state ∧ held = session.insert state value := by
  have parts : some ((), state, session.insert state value) = some (reply, next, held) := performed
  simp only [Option.some.injEq, Prod.mk.injEq] at parts
  exact ⟨parts.2.1.symm, parts.2.2.symm⟩

theorem perform_remove {key : PendingKey} {reply : Unit}
    (performed : perform state session (.remove key) draw = some (reply, next, held)) :
    next = state ∧ held = session.remove state key := by
  have parts : some ((), state, session.remove state key) = some (reply, next, held) := performed
  simp only [Option.some.injEq, Prod.mk.injEq] at parts
  exact ⟨parts.2.1.symm, parts.2.2.symm⟩

theorem perform_cycleId {reply : Unit}
    (performed : perform state session .cycleId draw = some (reply, next, held)) :
    next = state.forget (session.heldId state) ∧ held = session.cycled state := by
  have parts : some ((), state.forget (session.heldId state), session.cycled state) =
    some (reply, next, held) := performed
  simp only [Option.some.injEq, Prod.mk.injEq] at parts
  exact ⟨parts.2.1.symm, parts.2.2.symm⟩

theorem perform_flush {reply : Unit}
    (performed : perform state session .flush draw = some (reply, next, held)) :
    next = state.forget session.id ∧ held = Session.flushed := by
  have parts : some ((), state.forget session.id, Session.flushed) = some (reply, next, held) :=
    performed
  simp only [Option.some.injEq, Prod.mk.injEq] at parts
  exact ⟨parts.2.1.symm, parts.2.2.symm⟩

theorem perform_now {reply : Int}
    (performed : perform state session .now draw = some (reply, next, held)) :
    reply = state.now ∧ next = state := by
  have parts : some (state.now, state, session) = some (reply, next, held) := performed
  simp only [Option.some.injEq, Prod.mk.injEq] at parts
  exact ⟨parts.1.symm, parts.2.1.symm⟩

theorem perform_findById {idUser : Int} {reply : Option Operator}
    (performed : perform state session (.findById idUser) draw = some (reply, next, held)) :
    reply = state.database.findOperator idUser ∧ next = state := by
  have parts : some (state.database.findOperator idUser, state, session) =
    some (reply, next, held) := performed
  simp only [Option.some.injEq, Prod.mk.injEq] at parts
  exact ⟨parts.1.symm, parts.2.1.symm⟩

theorem perform_totpRow {idUser : Int} {reply : Option TotpRow}
    (performed : perform state session (.totpRow idUser) draw = some (reply, next, held)) :
    reply = state.database.totpRow idUser ∧ next = state := by
  have parts : some (state.database.totpRow idUser, state, session) =
    some (reply, next, held) := performed
  simp only [Option.some.injEq, Prod.mk.injEq] at parts
  exact ⟨parts.1.symm, parts.2.1.symm⟩

theorem perform_unusedRecoveryCodes {idUser : Int} {reply : List RecoveryCode}
    (performed : perform state session (.unusedRecoveryCodes idUser) draw =
      some (reply, next, held)) :
    reply = state.database.unusedRecoveryCodes idUser ∧ next = state := by
  have parts : some (state.database.unusedRecoveryCodes idUser, state, session) =
    some (reply, next, held) := performed
  simp only [Option.some.injEq, Prod.mk.injEq] at parts
  exact ⟨parts.1.symm, parts.2.1.symm⟩

/-- A transaction with a result stores the database it returns. -/
theorem commit_some {command : Command} {result : Option (command.Reply × Database)}
    {reply : command.Reply}
    (performed : commit state session result = some (reply, next, held)) :
    result = some (reply, next.database) ∧ next = { state with database := next.database } ∧
      held = session := by
  rcases Option.map_eq_some_iff.mp performed with ⟨outcome, stored, same⟩
  simp only [Prod.mk.injEq] at same
  rcases same with ⟨rfl, rfl, rfl⟩
  exact ⟨stored, rfl, rfl⟩

theorem perform_deleteById {idUser : Int} {reply : Nat}
    (performed : perform state session (.deleteById idUser) draw = some (reply, next, held)) :
    next.database = state.database.deleteOperator idUser := by
  have removed := (commit_some performed).1
  simp only [Database.deleteById, Option.some.injEq, Prod.mk.injEq] at removed
  exact removed.2.symm

theorem commitUnit_some {result : Option Database} {reply : Unit}
    (performed : commitUnit state session result = some (reply, next, held)) :
    result = some next.database ∧ next = { state with database := next.database } ∧
      held = session := by
  rcases Option.map_eq_some_iff.mp performed with ⟨outcome, stored, same⟩
  simp only [Prod.mk.injEq] at same
  rcases same with ⟨-, rfl, rfl⟩
  exact ⟨stored, rfl, rfl⟩

end Replies

/-- The commands whose first use loads the record. -/
def accessesRecord : Command -> Bool
  | .record | .insert _ | .remove _ | .cycleId => true
  | _ => false

def fetches (state : State) (session : Session) (command : Command) : Option SessionId :=
  if accessesRecord command then session.source state else none

/-- An era begins where a session is authenticated. -/
def landmark : Command -> Bool
  | .insert (.authenticatedAt _) => true
  | _ => false

/-- The end of a request: nothing, `save`, or `create` under a fresh id. -/
def close (app : AppState) (state : State) (session : Session) (draw : Draw) :
    Option (State × Option SessionId) :=
  match session.data with
  | none => some (state, none)
  | some data =>
      if !session.modified || (session.id.isNone && data.isEmpty) then some (state, none)
      else
        let expiry := state.now + app.sessionTimeoutSeconds
        match session.id with
        | some id =>
            some ({ state with sessions := state.sessions.upsert ⟨id, data, expiry⟩ }, some id)
        | none =>
            let id := draw.sessionId
            if id ∈ state.known ∨ state.sessions.idExists id = true then none
            else some (
              { state with
                sessions := (state.sessions.deleteExpired state.now).upsert ⟨id, data, expiry⟩
                known := id :: state.known },
              some id)

/-- A new request presents the id of its cookie, if it has one. -/
def accept (state : State) (cookie : Option SessionId) : State × Session :=
  ({ state with known := cookie.toList ++ state.known }, ⟨cookie, none, false⟩)

/-- Only time passes by itself. -/
def happen (state : State) (seconds : Nat) : Option State :=
  some { state with now := state.now + seconds }

/-- The machine for a kind of requests and the cookies they carry. -/
abbrev semantics (app : AppState) (Request : Type) (cookie : Request -> Option SessionId) :
    Semantics console where
  State := State
  Held := Session
  Request := Request
  Draw := Draw
  Event := Nat
  Place := SessionId
  placeEq := inferInstance
  accept := fun state request => accept state (cookie request)
  perform := perform
  fetches := fetches
  landmark := landmark
  close := close app
  happen := happen

end Console
end KrakenUi
