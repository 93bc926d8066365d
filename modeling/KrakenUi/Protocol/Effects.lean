import KrakenUi.Protocol.Contract

namespace KrakenUi

open Interaction

/-!
# What a command can change

The shared state has four parts.  Only committed transactions change the
database, commands can only remove rows from the session store, and neither the
clock nor the list of known ids moves while a command is performed.  Rows of the
store are written when a request ends, and time passes between commands.

Everything that only goes one way is collected in `State.Later`.  It is the
direction of time for the journal.
-/

namespace Command

/-- The transactions of the two repositories. -/
def writesDatabase : Command -> Bool
  | create _ | update _ _ _ | updatePassword _ _ | storeEncryptedPassword _ _
  | recordAuthenticationTimestamp _ _ | deleteById _ | beginEnrollment _ _
  | confirmEnrollment _ _ _ | disable _ | regenerateRecoveryCodes _ | consumeTotpStep _ _ _
  | consumeRecoveryCodeRow _ _ => true
  | _ => false

/-- The transactions that do not only change `operators`. -/
def writesFactors : Command -> Bool
  | deleteById _ | beginEnrollment _ _ | confirmEnrollment _ _ _ | disable _
  | regenerateRecoveryCodes _ | consumeTotpStep _ _ _ | consumeRecoveryCodeRow _ _ => true
  | _ => false

end Command

namespace State

/-- The rows of the store are rows of an earlier store. -/
def Fewer (before after : SessionStore) : Prop :=
  forall id row, after.row id = some row -> before.row id = some row

theorem fewer_keepWhere (store : SessionStore) (kept : SessionId -> SessionRow -> Bool) :
    Fewer store (store.keepWhere kept) :=
  fun _ _ found => (SessionStore.row_keepWhere.mp found).1

theorem fewer_forget (state : State) (id : Option SessionId) :
    Fewer state.sessions (state.forget id).sessions := by
  cases id with
  | none => exact fun _ _ found => found
  | some id => exact fewer_keepWhere _ _

@[simp] theorem forget_database (state : State) (id : Option SessionId) :
    (state.forget id).database = state.database := by cases id <;> rfl

@[simp] theorem forget_now (state : State) (id : Option SessionId) :
    (state.forget id).now = state.now := by cases id <;> rfl

@[simp] theorem forget_known (state : State) (id : Option SessionId) :
    (state.forget id).known = state.known := by cases id <;> rfl

/-- A state that can come after another one. -/
structure Later (before after : State) : Prop where
  database : before.database.Later after.database
  now : before.now ≤ after.now
  known : before.known ⊆ after.known

namespace Later

theorem refl (state : State) : Later state state :=
  ⟨Database.Later.refl _, Int.le_refl _, List.Subset.refl _⟩

theorem trans {first second third : State} (one : Later first second) (two : Later second third) :
    Later first third :=
  ⟨one.database.trans two.database, Int.le_trans one.now two.now,
    List.Subset.trans one.known two.known⟩

end Later
end State

namespace Console

variable {state next : State} {session held : Session} {command : Command}
  {reply : command.Reply} {draw : Draw}

/-- The clock and the known ids stay, and the store only loses rows. -/
theorem perform_frame (performed : perform state session command draw = some (reply, next, held)) :
    next.now = state.now ∧ next.known = state.known ∧
      State.Fewer state.sessions next.sessions := by
  have same : forall {result : State}, result = { state with database := result.database } ->
      result.now = state.now ∧ result.known = state.known ∧
        State.Fewer state.sessions result.sessions := by
    intro result equal
    rw [equal]
    exact ⟨rfl, rfl, fun _ _ found => found⟩
  cases command with
  | fail _ => cases performed
  | create _ | update _ _ _ | updatePassword _ _ | deleteById _ | confirmEnrollment _ _ _
  | regenerateRecoveryCodes _ | consumeTotpStep _ _ _ | consumeRecoveryCodeRow _ _ =>
      exact same (commit_some performed).2.1
  | storeEncryptedPassword _ _ | recordAuthenticationTimestamp _ _ | beginEnrollment _ _
  | disable _ => exact same (commitUnit_some performed).2.1
  | cycleId =>
      rw [(perform_cycleId performed).1]
      exact ⟨state.forget_now _, state.forget_known _, state.fewer_forget _⟩
  | flush =>
      rw [(perform_flush performed).1]
      exact ⟨state.forget_now _, state.forget_known _, state.fewer_forget _⟩
  | deleteByUserId _ | deleteByUserIdExcept _ _ =>
      simp only [perform] at performed
      split at performed
      · cases performed
        exact ⟨rfl, rfl, State.fewer_keepWhere _ _⟩
      · cases performed
        exact ⟨rfl, rfl, fun _ _ found => found⟩
  | _ =>
      cases performed
      exact ⟨rfl, rfl, fun _ _ found => found⟩

/-- Only the transactions change the database. -/
theorem perform_database (reads : command.writesDatabase = false)
    (performed : perform state session command draw = some (reply, next, held)) :
    next.database = state.database := by
  cases command with
  | fail _ => cases performed
  | create _ | update _ _ _ | updatePassword _ _ | deleteById _ | confirmEnrollment _ _ _
  | regenerateRecoveryCodes _ | consumeTotpStep _ _ _ | consumeRecoveryCodeRow _ _
  | storeEncryptedPassword _ _ | recordAuthenticationTimestamp _ _ | beginEnrollment _ _
  | disable _ => cases reads
  | cycleId =>
      rw [(perform_cycleId performed).1]
      exact state.forget_database _
  | flush =>
      rw [(perform_flush performed).1]
      exact state.forget_database _
  | deleteByUserId _ | deleteByUserIdExcept _ _ =>
      simp only [perform] at performed
      split at performed <;> (cases performed; rfl)
  | _ =>
      cases performed
      rfl

/-- The second factors stay as they are while operators are created and edited. -/
theorem perform_factors (spares : command.writesFactors = false)
    (performed : perform state session command draw = some (reply, next, held)) :
    next.database.totp = state.database.totp ∧
      next.database.recoveryCodes = state.database.recoveryCodes := by
  cases writes : command.writesDatabase with
  | false =>
      rw [perform_database writes performed]
      exact ⟨rfl, rfl⟩
  | true =>
      cases command with
      | create input => exact (Database.create_spec (commit_some performed).1).2.2.2
      | update idUser input hash =>
          have changed := (Database.changeAndLoad_spec (commit_some performed).1).1
          exact (Database.changeOperator_spec changed).2.2
      | updatePassword idUser hash =>
          have changed := (Database.changeAndLoad_spec (commit_some performed).1).1
          exact (Database.changeOperator_spec changed).2.2
      | storeEncryptedPassword idUser hash =>
          have changed := Database.storeEncryptedPassword_spec (commitUnit_some performed).1
          exact (Database.changeOperator_spec changed).2.2
      | recordAuthenticationTimestamp idUser column =>
          exact (Database.changeOperator_spec (commitUnit_some performed).1).2.2
      | deleteById _ | beginEnrollment _ _ | confirmEnrollment _ _ _ | disable _
      | regenerateRecoveryCodes _ | consumeTotpStep _ _ _ | consumeRecoveryCodeRow _ _ =>
          cases spares
      | _ => cases writes

/-- Every command moves the database forward. -/
theorem later_database
    (performed : perform state session command draw = some (reply, next, held)) :
    state.database.Later next.database := by
  cases writes : command.writesDatabase with
  | false =>
      rw [perform_database writes performed]
      exact Database.Later.refl _
  | true =>
      cases command with
      | create input => exact Database.later_create (commit_some performed).1
      | update idUser input hash =>
          refine Database.later_changeAndLoad (commit_some performed).1 ?_
          intro operator
          simp only [Database.edited]
          omega
      | updatePassword idUser hash =>
          refine Database.later_changeAndLoad (commit_some performed).1 ?_
          intro operator
          simp only
          omega
      | storeEncryptedPassword idUser hash =>
          exact Database.later_changeOperator
            (Database.storeEncryptedPassword_spec (commitUnit_some performed).1)
            fun operator => Int.le_refl _
      | recordAuthenticationTimestamp idUser column =>
          refine Database.later_changeOperator (commitUnit_some performed).1 ?_
          intro operator
          cases column <;> exact Int.le_refl _
      | deleteById idUser =>
          have removed := perform_deleteById performed
          rw [removed]
          exact Database.later_deleteOperator _ idUser
      | beginEnrollment idUser secret =>
          exact Database.later_beginEnrollment (commitUnit_some performed).1
      | confirmEnrollment idTotp idUser step =>
          exact Database.later_confirmEnrollment (commit_some performed).1
      | disable idUser => exact Database.later_disable (commitUnit_some performed).1
      | regenerateRecoveryCodes idUser =>
          exact Database.later_regenerateRecoveryCodes (commit_some performed).1
      | consumeTotpStep idTotp idUser step =>
          exact Database.later_consumeTotpStep (commit_some performed).1
      | consumeRecoveryCodeRow idUser idCode =>
          exact Database.later_consumeRecoveryCodeRow (commit_some performed).1
      | _ => cases writes

theorem later_perform (performed : perform state session command draw = some (reply, next, held)) :
    state.Later next := by
  rcases perform_frame performed with ⟨now, known, -⟩
  exact ⟨later_database performed, Int.le_of_eq now.symm, by rw [known]; exact List.Subset.refl _⟩

/-! ## The end of a request -/

section Close

variable {app : AppState} {place : Option SessionId}

/-- The record a request writes when it ends, and where. -/
def Saves (app : AppState) (state : State) (session : Session) (next : State) (id : SessionId) :
    Prop :=
  Exists fun data => session.data = some data ∧
    next.database = state.database ∧ next.now = state.now ∧ next.known = id :: state.known ∧
      id ∉ state.known ∧ session.id = none ∧
      forall other row, next.sessions.row other = some row ->
        (other = id ∧ row.record = ⟨id, data, state.now + app.sessionTimeoutSeconds⟩ ∧
          row.userId = data.authenticatedUserId.getD 0) ∨
        (other ≠ id ∧ state.sessions.row other = some row)

/-- The record a request saves under the id it holds. -/
def Rewrites (app : AppState) (state : State) (session : Session) (next : State)
    (id : SessionId) : Prop :=
  Exists fun data => session.data = some data ∧ session.id = some id ∧
    next.database = state.database ∧ next.now = state.now ∧ next.known = state.known ∧
      forall other row, next.sessions.row other = some row ->
        (other = id ∧ row.record = ⟨id, data, state.now + app.sessionTimeoutSeconds⟩ ∧
          row.userId = data.authenticatedUserId.getD 0) ∨
        (other ≠ id ∧ state.sessions.row other = some row)

/-- The three ways a request can end. -/
theorem close_cases (closed : close app state session draw = some (next, place)) :
    (place = none ∧ next = state) ∨
      (Exists fun id => place = some id ∧ Rewrites app state session next id) ∨
      (Exists fun id => place = some id ∧ Saves app state session next id) := by
  have written : forall {store : SessionStore} {record : Record} {other : SessionId}
      {row : SessionRow}, (store.upsert record).row other = some row ->
      (other = record.id ∧ row.record = record ∧ row.userId = record.authenticatedUserId) ∨
        (other ≠ record.id ∧ store.row other = some row) := by
    intro store record other row found
    rw [SessionStore.row_upsert] at found
    by_cases same : other = record.id
    · rw [if_pos same] at found
      cases found
      exact Or.inl ⟨same, rfl, rfl⟩
    · rw [if_neg same] at found
      exact Or.inr ⟨same, found⟩
  rcases session with ⟨id, loaded, modified⟩
  unfold close at closed
  cases loaded with
  | none =>
      simp only [Option.some.injEq, Prod.mk.injEq] at closed
      exact Or.inl ⟨closed.2.symm, closed.1.symm⟩
  | some data =>
      dsimp only at closed
      split at closed
      · simp only [Option.some.injEq, Prod.mk.injEq] at closed
        exact Or.inl ⟨closed.2.symm, closed.1.symm⟩
      · cases id with
        | some id =>
            simp only [Option.some.injEq, Prod.mk.injEq] at closed
            rcases closed with ⟨rfl, rfl⟩
            exact Or.inr (Or.inl ⟨id, rfl, data, rfl, rfl, rfl, rfl, rfl,
              fun other row found => written found⟩)
        | none =>
            dsimp only at closed
            split at closed
            · cases closed
            · rename_i fresh
              simp only [Option.some.injEq, Prod.mk.injEq] at closed
              rcases closed with ⟨rfl, rfl⟩
              refine Or.inr (Or.inr ⟨draw.sessionId, rfl, data, rfl, rfl, rfl, rfl,
                fun known => fresh (Or.inl known), rfl, ?_⟩)
              intro other row found
              rcases written found with new | ⟨different, old⟩
              · exact Or.inl new
              · exact Or.inr ⟨different, State.fewer_keepWhere _ _ other row old⟩

/-- The end of a request writes no table of the database. -/
theorem close_database (closed : close app state session draw = some (next, place)) :
    next.database = state.database := by
  rcases close_cases closed with ⟨-, rfl⟩ | ⟨id, -, data, -, -, database, -⟩ |
    ⟨id, -, data, -, database, -⟩
  · rfl
  · exact database
  · exact database

theorem later_close (closed : close app state session draw = some (next, place)) :
    state.Later next := by
  rcases close_cases closed with ⟨-, rfl⟩ | ⟨id, -, data, -, -, database, now, known, -⟩ |
    ⟨id, -, data, -, database, now, known, -⟩
  · exact State.Later.refl _
  · refine ⟨?_, Int.le_of_eq now.symm, ?_⟩
    · rw [database]
      exact Database.Later.refl _
    · rw [known]
      exact List.Subset.refl _
  · refine ⟨?_, Int.le_of_eq now.symm, ?_⟩
    · rw [database]
      exact Database.Later.refl _
    · rw [known]
      exact List.subset_cons_self _ _

end Close

theorem later_accept (state : State) (cookie : Option SessionId) :
    state.Later (accept state cookie).1 :=
  ⟨Database.Later.refl _, Int.le_refl _, List.subset_append_right _ _⟩

theorem later_happen {seconds : Nat} (happened : happen state seconds = some next) :
    state.Later next := by
  cases happened
  exact ⟨Database.Later.refl _, by simp only; omega, List.Subset.refl _⟩

/-- The direction of time of the console, whatever its requests are. -/
def direction (app : AppState) (Visitor : Type) (cookie : Visitor -> Option SessionId) :
    Growth (semantics app Visitor cookie) where
  Later := State.Later
  refl := State.Later.refl
  trans := State.Later.trans
  accept := fun state request => later_accept state (cookie request)
  perform := later_perform
  close := later_close
  happen := later_happen

abbrev growth (app : AppState) : Growth (machine app) :=
  direction app Request fun request => request.visit.cookie

/-! ## Invariants of the database -/

/-- What holds of the stored tables, whoever is at work. -/
def storing (app : AppState) (holds : Database -> Prop) : Invariant (machine app) where
  Sound := fun world => holds world.state.database
  Fits := fun _ _ => True

/-- Only the commands can break an invariant of the database. -/
theorem storing_kept {app : AppState} {holds : Database -> Prop}
    {contract : Contract (machine app)} {allowed : Condition (machine app)}
    (step : forall (world : World (machine app)) (flight : Flight app) (command : Command)
      (draw : Draw) (reply : command.Reply) (after : State) (held : Session),
      holds world.state.database -> contract.Permitted flight command ->
      allowed world flight command ->
      perform world.state flight.held command draw = some (reply, after, held) ->
      holds after.database) :
    Invariant.trivial.Kept (storing app holds) contract allowed where
  accept := fun _ _ _ _ sound => ⟨sound, True.intro, fun _ _ _ => True.intro⟩
  execute := by
    intro world flight command draw reply after held _ _ sound _ permitted meets performed _ _
    exact ⟨step world flight command draw reply after held sound permitted meets performed,
      True.intro, fun _ _ _ => True.intro⟩
  close := by
    intro world flight draw after place _ _ sound _ _ closed _
    refine ⟨?_, fun _ _ _ => True.intro⟩
    show holds after.database
    rw [close_database closed]
    exact sound
  happen := by
    intro world event after _ sound happened _
    cases happened
    exact ⟨sound, fun _ _ _ => True.intro⟩

/-! ## What an entry says about the state it found -/

section Readings

variable {app : AppState} {Visitor : Type} {cookie : Visitor -> Option SessionId}
  {item : Entry (semantics app Visitor cookie)}

theorem performed_of_genuine (genuine : item.Genuine) {command : Command} {reply : command.Reply}
    (seen : item.seen = ⟨command, reply⟩) :
    Exists fun draw => Exists fun held =>
      perform item.before item.held command draw = some (reply, item.after, held) := by
  rcases genuine with ⟨held, draw, performed⟩
  rw [seen] at performed
  exact ⟨draw, held, performed⟩

theorem clock_read {now : Int} (genuine : item.Genuine) (seen : item.seen = ⟨.now, now⟩) :
    item.before.now = now := by
  rcases performed_of_genuine genuine seen with ⟨draw, held, performed⟩
  exact (perform_now performed).1.symm

theorem operator_read {idUser : Int} {operator : Option Operator} (genuine : item.Genuine)
    (seen : item.seen = ⟨.findById idUser, operator⟩) :
    item.before.database.findOperator idUser = operator := by
  rcases performed_of_genuine genuine seen with ⟨draw, held, performed⟩
  exact (perform_findById performed).1.symm

theorem totp_read {idUser : Int} {row : Option TotpRow} (genuine : item.Genuine)
    (seen : item.seen = ⟨.totpRow idUser, row⟩) : item.before.database.totpRow idUser = row := by
  rcases performed_of_genuine genuine seen with ⟨draw, held, performed⟩
  exact (perform_totpRow performed).1.symm

end Readings
end Console
end KrakenUi
