import KrakenUi.Protocol.Effects

namespace KrakenUi

open Interaction Storage

/-!
# What a command makes of an account

A row of `operators` comes from the row of the same number before the command,
or the command created the account.  Of the old row the password record and the
authorization epoch matter: the record is replaced by three transactions, and
the epoch rises with each change of the account's authority.
-/

namespace Command

/-- The password record that the command stores for the account. -/
def recordFor : Command -> Int -> Option String
  | update idUser _ hash, account => if idUser = account then hash else none
  | updatePassword idUser hash, account | storeEncryptedPassword idUser hash, account =>
      if idUser = account then some hash else none
  | _, _ => none

/-- The committed command opens a new epoch of the account. -/
def opensEpoch : (command : Command) -> command.Reply -> Int -> Bool
  | update idUser _ _, _, account | updatePassword idUser _, _, account
  | disable idUser, _, account => idUser = account
  | confirmEnrollment _ idUser _, codes, account | regenerateRecoveryCodes idUser, codes, account =>
      idUser = account && Option.isSome codes
  | _, _, _ => false

/-- The name that an edit gives to the account. -/
def nameFor : Command -> Int -> Option String
  | update idUser input _, account => if idUser = account then some input.username else none
  | _, _ => none

/-- The role that an edit gives to the account. -/
def roleFor : Command -> Int -> Option String
  | update idUser input _, account => if idUser = account then some input.operatorType else none
  | _, _ => none

end Command

/-- The new row of an account after a command, as far as it matters. -/
structure Operator.Descends (command : Command) (reply : command.Reply) (old new : Operator) :
    Prop where
  key : old.idUser = new.idUser
  record : new.encryptedPasswordHash =
    (command.recordFor new.idUser).getD old.encryptedPasswordHash
  epoch : new.authzVersion =
    old.authzVersion + if command.opensEpoch reply new.idUser then 1 else 0

namespace Command

variable {command : Command} {account : Int}

theorem recordFor_of_reads (reads : command.writesDatabase = false) :
    command.recordFor account = none := by
  cases command <;> first | rfl | cases reads

theorem opensEpoch_of_reads {reply : command.Reply} (reads : command.writesDatabase = false) :
    command.opensEpoch reply account = false := by
  cases command <;> first | rfl | cases reads

/-- Only an edit gives the account a role. -/
theorem roleFor_of_unedited
    (unedited : forall input hash, command ≠ .update account input hash) :
    command.roleFor account = none := by
  cases command with
  | update idUser input hash =>
      rw [roleFor, if_neg]
      rintro rfl
      exact unedited input hash rfl
  | _ => rfl

end Command

namespace Operator

variable {command : Command} {reply : command.Reply} {operator : Operator}

/-- A row that the command does not touch. -/
theorem Descends.same (record : command.recordFor operator.idUser = none)
    (epoch : command.opensEpoch reply operator.idUser = false) :
    Descends command reply operator operator where
  key := rfl
  record := by rw [record, Option.getD_none]
  epoch := by
    rw [epoch]
    exact (Int.add_zero _).symm

end Operator

/-- A change that the command makes by primary key. -/
structure Command.Edits (command : Command) (reply : command.Reply) (idUser : Int)
    (change : Operator -> Operator) : Prop where
  descends : forall old : Operator, old.idUser = idUser ->
    Operator.Descends command reply old (change old)
  elsewhere : forall account, idUser ≠ account ->
    command.recordFor account = none ∧ command.opensEpoch reply account = false
  name : forall old : Operator, old.idUser = idUser ->
    (change old).username = (command.nameFor idUser).getD old.username
  role : forall old : Operator, old.idUser = idUser ->
    (change old).operatorType = (command.roleFor idUser).getD old.operatorType

/-- What a command makes of the table of operators. -/
inductive Command.Turns (command : Command) (reply : command.Reply) (before after : Database) :
    Prop
  | kept (same : after.operators = before.operators)
      (record : forall account, command.recordFor account = none)
      (epoch : forall account, command.opensEpoch reply account = false)
  | created {input : NewOperator} {operator : Operator} (creates : command = .create input)
      (numbered : operator.idUser = before.operators.sequence + 1)
      (named : operator.username = input.username)
      (members : forall row, row ∈ after.operators.rows ↔
        row ∈ before.operators.rows ∨ row = operator)
  | edited {idUser : Int} {change : Operator -> Operator} (edits : command.Edits reply idUser change)
      (members : forall row, row ∈ after.operators.rows ↔
        Exists fun old => old ∈ before.operators.rows ∧
          (if old.idUser = idUser then change old else old) = row)
  | deleted {idUser : Int} (deletes : command = .deleteById idUser)
      (members : forall row, row ∈ after.operators.rows ↔
        row ∈ before.operators.rows ∧ row.idUser ≠ idUser)

namespace Console

variable {state next : State} {session held : Session} {command : Command}
  {reply : command.Reply} {draw : Draw} {operator : Operator}

/-- Most commands leave the operators alone, and the others touch one account. -/
theorem turns_perform (performed : perform state session command draw = some (reply, next, held)) :
    command.Turns reply state.database next.database := by
  cases writes : command.writesDatabase with
  | false =>
      exact .kept (by rw [perform_database writes performed])
        (fun _ => Command.recordFor_of_reads writes) (fun _ => Command.opensEpoch_of_reads writes)
  | true =>
      cases command with
      | create input =>
          rcases Database.create_spec (commit_some performed).1 with ⟨shape, members, -⟩
          exact .created rfl (by rw [shape]) (by rw [shape]) members
      | update idUser input hash =>
          have changed := (Database.changeAndLoad_spec (commit_some performed).1).1
          refine .edited ⟨?_, ?_, ?_, ?_⟩ (Database.changeOperator_spec changed).1
          · rintro old rfl
            constructor <;> simp [Database.edited, Command.recordFor, Command.opensEpoch]
          · intro account different
            simp [Command.recordFor, Command.opensEpoch, different]
          · intro old _
            simp [Database.edited, Command.nameFor]
          · intro old _
            simp [Database.edited, Command.roleFor]
      | updatePassword idUser hash =>
          have changed := (Database.changeAndLoad_spec (commit_some performed).1).1
          refine .edited ⟨?_, ?_, ?_, ?_⟩
            (Database.changeOperator_spec changed).1
          · rintro old rfl
            constructor <;> simp [Command.recordFor, Command.opensEpoch]
          · intro account different
            simp [Command.recordFor, Command.opensEpoch, different]
          · exact fun _ _ => rfl
          · exact fun _ _ => rfl
      | storeEncryptedPassword idUser hash =>
          have changed := Database.storeEncryptedPassword_spec (commitUnit_some performed).1
          refine .edited ⟨?_, ?_, ?_, ?_⟩
            (Database.changeOperator_spec changed).1
          · rintro old rfl
            constructor <;> simp [Command.recordFor, Command.opensEpoch]
          · intro account different
            simp [Command.recordFor, Command.opensEpoch, different]
          · exact fun _ _ => rfl
          · exact fun _ _ => rfl
      | recordAuthenticationTimestamp idUser column =>
          refine .edited ⟨?_, fun _ _ => ⟨rfl, rfl⟩, ?_, ?_⟩
            (Database.changeOperator_spec (commitUnit_some performed).1).1
          · intro old _
            cases column <;> exact ⟨rfl, rfl, (Int.add_zero _).symm⟩
          · intro old _
            cases column <;> rfl
          · intro old _
            cases column <;> rfl
      | deleteById idUser =>
          have removed := perform_deleteById performed
          rw [removed]
          refine .deleted rfl fun row => ?_
          rw [Database.deleteOperator, AutoTable.mem_deleteWhere, decide_eq_false_iff_not]
      | beginEnrollment idUser secret =>
          exact .kept (Database.beginEnrollment_spec (commitUnit_some performed).1).2.1
            (fun _ => rfl) (fun _ => rfl)
      | confirmEnrollment idTotp idUser step =>
          have transaction := (commit_some performed).1
          change Option (List String) at reply
          cases reply with
          | none =>
              refine .kept ?_ (fun _ => rfl) ?_
              · rw [Database.confirmEnrollment_none transaction]
              · simp [Command.opensEpoch]
          | some codes =>
              rcases Database.confirmEnrollment_some transaction with
                  ⟨-, activated, flagged, updated, flag, replaced⟩
              have members := (Database.changeOperator_spec flag).1
              rw [(Database.updateTotp_some updated).2.1,
                ← (Database.replaceRecoveryCodes_spec replaced).2.2.2.1] at members
              refine .edited ⟨?_, ?_, ?_, ?_⟩ members
              · rintro old rfl
                constructor <;> simp [Command.recordFor, Command.opensEpoch]
              · intro account different
                simp [Command.recordFor, Command.opensEpoch, different]
              · exact fun _ _ => rfl
              · exact fun _ _ => rfl
      | disable idUser =>
          have members := (Database.changeOperator_spec
            (Database.disable_spec (commitUnit_some performed).1).1).1
          refine .edited ⟨?_, ?_, ?_, ?_⟩ members
          · rintro old rfl
            constructor <;> simp [Command.recordFor, Command.opensEpoch]
          · intro account different
            simp [Command.recordFor, Command.opensEpoch, different]
          · exact fun _ _ => rfl
          · exact fun _ _ => rfl
      | regenerateRecoveryCodes idUser =>
          have transaction := (commit_some performed).1
          change Option (List String) at reply
          cases reply with
          | none =>
              refine .kept ?_ (fun _ => rfl) ?_
              · rw [Database.regenerateRecoveryCodes_none transaction]
              · simp [Command.opensEpoch]
          | some codes =>
              rcases Database.regenerateRecoveryCodes_some transaction with
                  ⟨-, replaced, stored, bumped⟩
              have members := (Database.changeOperator_spec bumped).1
              rw [(Database.replaceRecoveryCodes_spec stored).2.2.2.1] at members
              refine .edited ⟨?_, ?_, ?_, ?_⟩ members
              · rintro old rfl
                constructor <;> simp [Command.recordFor, Command.opensEpoch]
              · intro account different
                simp [Command.recordFor, Command.opensEpoch, different]
              · exact fun _ _ => rfl
              · exact fun _ _ => rfl
      | consumeTotpStep idTotp idUser step =>
          rcases Database.consumeTotpStep_spec (commit_some performed).1 with ⟨updated, -⟩
          exact .kept (Database.updateTotp_some updated).2.1 (fun _ => rfl) (fun _ => rfl)
      | consumeRecoveryCodeRow idUser idCode =>
          rcases Database.consumeRecoveryCodeRow_spec (commit_some performed).1 with ⟨updated, -⟩
          exact .kept (Database.updateCodes_some updated).2.1 (fun _ => rfl) (fun _ => rfl)
      | _ => cases writes

/-- A stored row descends from a row before the command, or its number is new. -/
theorem row_before (performed : perform state session command draw = some (reply, next, held))
    (member : operator ∈ next.database.operators.rows) :
    (Exists fun old => old ∈ state.database.operators.rows ∧
        Operator.Descends command reply old operator) ∨
      (state.database.operators.sequence < operator.idUser ∧
        command.recordFor operator.idUser = none) := by
  cases turns_perform performed with
  | kept same record epoch =>
      rw [same] at member
      exact Or.inl ⟨operator, member, Operator.Descends.same (record _) (epoch _)⟩
  | created creates numbered named members =>
      subst creates
      rcases (members operator).mp member with old | rfl
      · exact Or.inl ⟨operator, old, Operator.Descends.same rfl rfl⟩
      · refine Or.inr ⟨?_, rfl⟩
        rw [numbered]
        exact Int.lt_succ _
  | @edited idUser change edits members =>
      rcases (members operator).mp member with ⟨old, oldMember, image⟩
      refine Or.inl ⟨old, oldMember, ?_⟩
      by_cases selected : old.idUser = idUser
      · rw [if_pos selected] at image
        rw [← image]
        exact edits.descends old selected
      · rw [if_neg selected] at image
        rw [← image]
        rcases edits.elsewhere old.idUser (Ne.symm selected) with ⟨record, epoch⟩
        exact Operator.Descends.same record epoch
  | deleted deletes members =>
      subst deletes
      exact Or.inl ⟨operator, ((members operator).mp member).1, Operator.Descends.same rfl rfl⟩

end Console
end KrakenUi
