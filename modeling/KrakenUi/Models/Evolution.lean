import KrakenUi.Models.OperatorMfaRepository

namespace KrakenUi

open Storage

/-!
# How the database grows

Whatever the console commits, some things only go one way.  An operator's
authorization epoch never falls.  A TOTP row keeps its owner and its sealed
secret, a confirmed row stays confirmed and its last used step never falls.
A recovery code that has been used stays used.  Numbers of deleted rows are
not issued again.

`Database.Later` collects this for the three tables, and every transaction of
the two repositories respects it.
-/

namespace Operator

def Become (old new : Operator) : Prop := old.authzVersion ≤ new.authzVersion

theorem Become.refl (operator : Operator) : Become operator operator := Int.le_refl _

theorem Become.trans {first second third : Operator} (one : Become first second)
    (two : Become second third) : Become first third := Int.le_trans one two

end Operator

namespace TotpRow

def Become (old new : TotpRow) : Prop :=
  new.idUser = old.idUser ∧ new.encryptedSecret = old.encryptedSecret ∧
    (old.confirmed ≠ 0 -> new.confirmed = old.confirmed ∧ old.lastUsedStep ≤ new.lastUsedStep)

theorem Become.refl (row : TotpRow) : Become row row :=
  ⟨rfl, rfl, fun _ => ⟨rfl, Int.le_refl _⟩⟩

theorem Become.trans {first second third : TotpRow} (one : Become first second)
    (two : Become second third) : Become first third := by
  rcases one with ⟨owner, secret, steps⟩
  rcases two with ⟨owner', secret', steps'⟩
  refine ⟨owner'.trans owner, secret'.trans secret, ?_⟩
  intro confirmed
  rcases steps confirmed with ⟨same, lower⟩
  rcases steps' (by rw [same]; exact confirmed) with ⟨same', lower'⟩
  exact ⟨same'.trans same, Int.le_trans lower lower'⟩

end TotpRow

namespace RecoveryCode

def Become (old new : RecoveryCode) : Prop :=
  new.idUser = old.idUser ∧ new.encryptedCode = old.encryptedCode ∧ (old.used ≠ 0 -> new.used ≠ 0)

theorem Become.refl (row : RecoveryCode) : Become row row := ⟨rfl, rfl, id⟩

theorem Become.trans {first second third : RecoveryCode} (one : Become first second)
    (two : Become second third) : Become first third :=
  ⟨two.1.trans one.1, two.2.1.trans one.2.1, fun used => two.2.2 (one.2.2 used)⟩

end RecoveryCode

namespace Database

structure Later (before after : Database) : Prop where
  operators : AutoTable.Evolves Operator.Become before.operators after.operators
  totp : AutoTable.Evolves TotpRow.Become before.totp after.totp
  recoveryCodes : AutoTable.Evolves RecoveryCode.Become before.recoveryCodes after.recoveryCodes

namespace Later

theorem refl (database : Database) : Later database database where
  operators := AutoTable.Evolves.refl Operator.Become.refl _
  totp := AutoTable.Evolves.refl TotpRow.Become.refl _
  recoveryCodes := AutoTable.Evolves.refl RecoveryCode.Become.refl _

theorem trans {first second third : Database} (one : Later first second)
    (two : Later second third) : Later first third where
  operators := AutoTable.Evolves.trans (@Operator.Become.trans) one.operators two.operators
  totp := AutoTable.Evolves.trans (@TotpRow.Become.trans) one.totp two.totp
  recoveryCodes :=
    AutoTable.Evolves.trans (@RecoveryCode.Become.trans) one.recoveryCodes two.recoveryCodes

end Later

/-- A statement that only concerns `operators`. -/
theorem later_of_operators {before after : Database}
    (operators : AutoTable.Evolves Operator.Become before.operators after.operators)
    (totp : after.totp = before.totp) (codes : after.recoveryCodes = before.recoveryCodes) :
    Later before after where
  operators := operators
  totp := by rw [totp]; exact (Later.refl before).totp
  recoveryCodes := by rw [codes]; exact (Later.refl before).recoveryCodes

theorem later_of_totp {before after : Database}
    (totp : AutoTable.Evolves TotpRow.Become before.totp after.totp)
    (operators : after.operators = before.operators)
    (codes : after.recoveryCodes = before.recoveryCodes) : Later before after where
  operators := by rw [operators]; exact (Later.refl before).operators
  totp := totp
  recoveryCodes := by rw [codes]; exact (Later.refl before).recoveryCodes

theorem later_of_codes {before after : Database}
    (codes : AutoTable.Evolves RecoveryCode.Become before.recoveryCodes after.recoveryCodes)
    (operators : after.operators = before.operators) (totp : after.totp = before.totp) :
    Later before after where
  operators := by rw [operators]; exact (Later.refl before).operators
  totp := by rw [totp]; exact (Later.refl before).totp
  recoveryCodes := codes

section Statements

variable {database after : Database} {now idUser idTotp step idCode : Int}

theorem later_changeOperator {change : Operator -> Operator}
    {numbered : forall operator, (change operator).idUser = operator.idUser}
    (changed : database.changeOperator idUser change numbered = some after)
    (rises : forall operator, operator.authzVersion ≤ (change operator).authzVersion) :
    Later database after := by
  rcases updateOperators_some changed with ⟨updated, totp, codes⟩
  exact later_of_operators
    (AutoTable.evolves_updateWhere Operator.Become.refl updated fun row _ _ => rises row)
    totp codes

theorem later_changeAndLoad {change : Operator -> Operator}
    {numbered : forall operator, (change operator).idUser = operator.idUser} {operator : Operator}
    (changed : database.changeAndLoad idUser change numbered = some (operator, after))
    (rises : forall operator, operator.authzVersion ≤ (change operator).authzVersion) :
    Later database after :=
  later_changeOperator (changeAndLoad_spec changed).1 rises

theorem later_create {input : NewOperator} {hash : String} {operator : Operator}
    (created : database.create now input hash = some (operator, after)) : Later database after := by
  rcases create_spec created with ⟨shape, members, sequence, totp, codes⟩
  refine later_of_operators ⟨by omega, ?_⟩ totp codes
  intro row member issued
  rcases (members row).mp member with old | rfl
  · exact ⟨row, old, rfl, Operator.Become.refl row⟩
  · rw [shape] at issued
    change database.operators.sequence + 1 ≤ database.operators.sequence at issued
    omega

theorem later_deleteTotp (database : Database) (idUser : Int) :
    Later database (database.deleteTotp idUser) :=
  later_of_totp (AutoTable.evolves_deleteWhere TotpRow.Become.refl _ _) rfl rfl

theorem later_deleteCodes (database : Database) (idUser : Int) :
    Later database (database.deleteCodes idUser) :=
  later_of_codes (AutoTable.evolves_deleteWhere RecoveryCode.Become.refl _ _) rfl rfl

theorem later_deleteOperator (database : Database) (idUser : Int) :
    Later database (database.deleteOperator idUser) where
  operators := AutoTable.evolves_deleteWhere Operator.Become.refl _ _
  totp := AutoTable.evolves_deleteWhere TotpRow.Become.refl _ _
  recoveryCodes := AutoTable.evolves_deleteWhere RecoveryCode.Become.refl _ _

theorem later_beginEnrollment {encryptedSecret : String}
    (begun : database.beginEnrollment now idUser encryptedSecret = some after) :
    Later database after := by
  rcases insertTotp_some begun with ⟨inserted, operators, codes⟩
  exact (later_deleteTotp database idUser).trans
    (later_of_totp (AutoTable.evolves_insert TotpRow.Become.refl inserted) operators codes)

theorem later_insertCodes {minted : List MintedCode}
    (inserted : database.insertCodes now idUser minted = some after) : Later database after := by
  induction minted generalizing database with
  | nil =>
      cases inserted
      exact Later.refl _
  | cons head tail inductionHypothesis =>
      rcases insertCodes_cons_some inserted with ⟨middle, first, others⟩
      rcases insertCode_some first with ⟨appended, operators, totp⟩
      exact (later_of_codes (AutoTable.evolves_insert RecoveryCode.Become.refl appended)
        operators totp).trans (inductionHypothesis others)

theorem later_replaceRecoveryCodes {minted : List MintedCode} {codes : List String}
    (replaced : database.replaceRecoveryCodes now idUser minted = some (codes, after)) :
    Later database after := by
  rcases replaceRecoveryCodes_some replaced with ⟨-, -, inserted⟩
  exact (later_deleteCodes database idUser).trans (later_insertCodes inserted)

theorem later_setOperatorFlag {enabled : Bool}
    (flagged : database.setOperatorFlag now idUser enabled = some after) : Later database after :=
  later_changeOperator flagged fun operator => by simp only; omega

theorem later_confirmEnrollment {minted : List MintedCode} {codes : Option (List String)}
    (confirmed : database.confirmEnrollment now idTotp idUser step minted = some (codes, after)) :
    Later database after := by
  cases codes with
  | none =>
      rw [confirmEnrollment_none confirmed]
      exact Later.refl database
  | some codes =>
      rcases confirmEnrollment_some confirmed with ⟨-, activated, flagged, updated, flag, replaced⟩
      rcases updateTotp_some updated with ⟨changed, operators, same⟩
      have activation : Later database activated := by
        refine later_of_totp (AutoTable.evolves_updateWhere TotpRow.Become.refl changed ?_)
          operators same
        intro row _ selected
        refine ⟨rfl, rfl, ?_⟩
        intro active
        exact absurd (pendingRow_iff.mp selected).2.2 active
      exact (activation.trans (later_setOperatorFlag flag)).trans
        (later_replaceRecoveryCodes replaced)

theorem later_disable (disabled : database.disable now idUser = some after) :
    Later database after :=
  ((later_deleteTotp database idUser).trans (later_deleteCodes _ idUser)).trans
    (later_setOperatorFlag disabled)

theorem later_regenerateRecoveryCodes {minted : List MintedCode} {codes : Option (List String)}
    (regenerated : database.regenerateRecoveryCodes now idUser minted = some (codes, after)) :
    Later database after := by
  cases codes with
  | none =>
      rw [regenerateRecoveryCodes_none regenerated]
      exact Later.refl database
  | some codes =>
      rcases regenerateRecoveryCodes_some regenerated with ⟨-, replaced, stored, bumped⟩
      refine (later_replaceRecoveryCodes stored).trans (later_changeOperator bumped ?_)
      intro operator
      simp only
      omega

theorem later_consumeTotpStep {accepted : Bool}
    (consumed : database.consumeTotpStep idTotp idUser step = some (accepted, after)) :
    Later database after := by
  rcases consumeTotpStep_spec consumed with ⟨updated, -⟩
  rcases updateTotp_some updated with ⟨changed, operators, codes⟩
  refine later_of_totp (AutoTable.evolves_updateWhere TotpRow.Become.refl changed ?_) operators codes
  intro row _ selected
  rcases freshRow_iff.mp selected with ⟨-, -, confirmed, older⟩
  exact ⟨rfl, rfl, fun _ => ⟨rfl, Int.le_of_lt older⟩⟩

theorem later_consumeRecoveryCodeRow {accepted : Bool}
    (consumed : database.consumeRecoveryCodeRow now idUser idCode = some (accepted, after)) :
    Later database after := by
  rcases consumeRecoveryCodeRow_spec consumed with ⟨updated, -⟩
  rcases updateCodes_some updated with ⟨changed, operators, totp⟩
  refine later_of_codes (AutoTable.evolves_updateWhere RecoveryCode.Become.refl changed ?_)
    operators totp
  intro row _ _
  exact ⟨rfl, rfl, fun _ => Int.one_ne_zero⟩

end Statements
end Database
end KrakenUi
