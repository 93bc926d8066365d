import KrakenUi.Models.Operator

namespace KrakenUi

open Storage

/-!
# The console database

The two tables of the second factor refer to `operators` with cascading
deletes, and foreign keys are switched on for every connection.  A `Database`
carries both references as fields.  The statements below are the only way to
change one: an insertion without an owner fails, and deleting an operator
takes its rows along.
-/

structure Database where
  operators : AutoTable Operator.schema
  totp : AutoTable TotpRow.schema
  recoveryCodes : AutoTable RecoveryCode.schema
  totpOwned : forall row, row ∈ totp.rows ->
    Exists fun operator => operator ∈ operators.rows ∧ operator.idUser = row.idUser
  codesOwned : forall row, row ∈ recoveryCodes.rows ->
    Exists fun operator => operator ∈ operators.rows ∧ operator.idUser = row.idUser

namespace Database

/-- The database right after its schema has been initialised. -/
def empty : Database where
  operators := AutoTable.empty
  totp := AutoTable.empty
  recoveryCodes := AutoTable.empty
  totpOwned := fun _ member => absurd member List.not_mem_nil
  codesOwned := fun _ member => absurd member List.not_mem_nil

def findOperator (database : Database) (idUser : Int) : Option Operator :=
  database.operators.find fun operator => operator.idUser = idUser

/-- The TOTP row of an operator; there is at most one. -/
def totpRow (database : Database) (idUser : Int) : Option TotpRow :=
  database.totp.find fun row => row.idUser = idUser

/-- Two-factor is on exactly when a confirmed row is stored. -/
def isEnabled (database : Database) (idUser : Int) : Bool :=
  (database.totpRow idUser).any TotpRow.isConfirmed

/-- `UPDATE operators`.  It cannot renumber a row. -/
def updateOperators (database : Database) (selected : Operator -> Bool)
    (change : Operator -> Operator)
    (numbered : forall operator, (change operator).idUser = operator.idUser) : Option Database :=
  match updated : database.operators.updateWhere selected change numbered with
  | none => none
  | some operators =>
      have owned : forall idUser,
          (Exists fun operator => operator ∈ database.operators.rows ∧ operator.idUser = idUser) ->
          Exists fun operator => operator ∈ operators.rows ∧ operator.idUser = idUser := by
        rintro idUser ⟨operator, member, same⟩
        refine ⟨if selected operator then change operator else operator, ?_, ?_⟩
        · exact (AutoTable.mem_updateWhere updated).mpr ⟨operator, member, rfl⟩
        · split
          · rw [numbered, same]
          · exact same
      some { database with
        operators := operators
        totpOwned := fun row member => owned _ (database.totpOwned row member)
        codesOwned := fun row member => owned _ (database.codesOwned row member) }

/-- `INSERT INTO operators` with the defaults of the remaining columns. -/
def insertOperator (database : Database) (now : Int)
    (username email operatorType encryptedPasswordHash : String) : Option Database :=
  match inserted : database.operators.insert
      (fun idUser => ⟨idUser, username, email, operatorType, encryptedPasswordHash, 0, 0, none,
        none, now, now⟩) (fun _ => rfl) with
  | none => none
  | some operators =>
      have owned : forall idUser,
          (Exists fun operator => operator ∈ database.operators.rows ∧ operator.idUser = idUser) ->
          Exists fun operator => operator ∈ operators.rows ∧ operator.idUser = idUser := by
        rintro idUser ⟨operator, member, same⟩
        exact ⟨operator, (AutoTable.mem_insert inserted).mpr (Or.inl member), same⟩
      some { database with
        operators := operators
        totpOwned := fun row member => owned _ (database.totpOwned row member)
        codesOwned := fun row member => owned _ (database.codesOwned row member) }

/-- `DELETE FROM operators` together with the cascade. -/
def deleteOperator (database : Database) (idUser : Int) : Database where
  operators := database.operators.deleteWhere fun operator => operator.idUser = idUser
  totp := database.totp.deleteWhere fun row => row.idUser = idUser
  recoveryCodes := database.recoveryCodes.deleteWhere fun row => row.idUser = idUser
  totpOwned := by
    intro row member
    rcases AutoTable.mem_deleteWhere.mp member with ⟨old, different⟩
    rcases database.totpOwned row old with ⟨operator, operatorMember, same⟩
    refine ⟨operator, AutoTable.mem_deleteWhere.mpr ⟨operatorMember, ?_⟩, same⟩
    rw [same]
    exact different
  codesOwned := by
    intro row member
    rcases AutoTable.mem_deleteWhere.mp member with ⟨old, different⟩
    rcases database.codesOwned row old with ⟨operator, operatorMember, same⟩
    refine ⟨operator, AutoTable.mem_deleteWhere.mpr ⟨operatorMember, ?_⟩, same⟩
    rw [same]
    exact different

def updateTotp (database : Database) (selected : TotpRow -> Bool) (change : TotpRow -> TotpRow)
    (numbered : forall row, (change row).idTotp = row.idTotp)
    (owner : forall row, (change row).idUser = row.idUser) : Option Database :=
  match updated : database.totp.updateWhere selected change numbered with
  | none => none
  | some totp => some { database with
      totp := totp
      totpOwned := by
        intro row member
        rcases (AutoTable.mem_updateWhere updated).mp member with ⟨old, oldMember, rfl⟩
        rcases database.totpOwned old oldMember with ⟨operator, operatorMember, same⟩
        refine ⟨operator, operatorMember, ?_⟩
        split
        · rw [owner, same]
        · exact same }

/-- A pending enrollment row for an existing operator. -/
def insertTotp (database : Database) (now idUser : Int) (encryptedSecret : String) :
    Option Database :=
  if owned : Exists fun operator =>
      operator ∈ database.operators.rows ∧ operator.idUser = idUser then
    match inserted : database.totp.insert
        (fun idTotp => ⟨idTotp, idUser, encryptedSecret, 0, now, none, 0⟩) (fun _ => rfl) with
    | none => none
    | some totp => some { database with
        totp := totp
        totpOwned := by
          intro row member
          rcases (AutoTable.mem_insert inserted).mp member with old | rfl
          · exact database.totpOwned row old
          · exact owned }
  else none

def deleteTotp (database : Database) (idUser : Int) : Database :=
  { database with
    totp := database.totp.deleteWhere fun row => row.idUser = idUser
    totpOwned := fun row member => database.totpOwned row (AutoTable.mem_deleteWhere.mp member).1 }

def updateCodes (database : Database) (selected : RecoveryCode -> Bool)
    (change : RecoveryCode -> RecoveryCode)
    (numbered : forall row, (change row).idCode = row.idCode)
    (owner : forall row, (change row).idUser = row.idUser) : Option Database :=
  match updated : database.recoveryCodes.updateWhere selected change numbered with
  | none => none
  | some codes => some { database with
      recoveryCodes := codes
      codesOwned := by
        intro row member
        rcases (AutoTable.mem_updateWhere updated).mp member with ⟨old, oldMember, rfl⟩
        rcases database.codesOwned old oldMember with ⟨operator, operatorMember, same⟩
        refine ⟨operator, operatorMember, ?_⟩
        split
        · rw [owner, same]
        · exact same }

def insertCode (database : Database) (now idUser : Int) (encryptedCode : String) :
    Option Database :=
  if owned : Exists fun operator =>
      operator ∈ database.operators.rows ∧ operator.idUser = idUser then
    match inserted : database.recoveryCodes.insert
        (fun idCode => ⟨idCode, idUser, encryptedCode, 0, now, none⟩) (fun _ => rfl) with
    | none => none
    | some codes => some { database with
        recoveryCodes := codes
        codesOwned := by
          intro row member
          rcases (AutoTable.mem_insert inserted).mp member with old | rfl
          · exact database.codesOwned row old
          · exact owned }
  else none

def deleteCodes (database : Database) (idUser : Int) : Database :=
  { database with
    recoveryCodes := database.recoveryCodes.deleteWhere fun row => row.idUser = idUser
    codesOwned := fun row member => database.codesOwned row (AutoTable.mem_deleteWhere.mp member).1 }

/-!
## What each statement leaves alone
-/

section Statements

variable {database after : Database}

theorem updateOperators_some {selected : Operator -> Bool} {change : Operator -> Operator}
    {numbered : forall operator, (change operator).idUser = operator.idUser}
    (updated : database.updateOperators selected change numbered = some after) :
    database.operators.updateWhere selected change numbered = some after.operators ∧
      after.totp = database.totp ∧ after.recoveryCodes = database.recoveryCodes := by
  unfold updateOperators at updated
  split at updated
  · cases updated
  · cases updated
    rename_i changed
    exact ⟨changed, rfl, rfl⟩

theorem insertOperator_some {now : Int} {username email operatorType hash : String}
    (inserted : database.insertOperator now username email operatorType hash = some after) :
    after.operators.rows = database.operators.rows ++
        [⟨database.operators.sequence + 1, username, email, operatorType, hash, 0, 0, none, none,
          now, now⟩] ∧
      after.operators.sequence = database.operators.sequence + 1 ∧
      after.totp = database.totp ∧ after.recoveryCodes = database.recoveryCodes := by
  unfold insertOperator at inserted
  split at inserted
  · cases inserted
  · cases inserted
    rename_i appended
    rcases AutoTable.insert_some appended with ⟨rows, sequence⟩
    exact ⟨rows, sequence, rfl, rfl⟩

theorem updateTotp_some {selected : TotpRow -> Bool} {change : TotpRow -> TotpRow}
    {numbered : forall row, (change row).idTotp = row.idTotp}
    {owner : forall row, (change row).idUser = row.idUser}
    (updated : database.updateTotp selected change numbered owner = some after) :
    database.totp.updateWhere selected change numbered = some after.totp ∧
      after.operators = database.operators ∧ after.recoveryCodes = database.recoveryCodes := by
  unfold updateTotp at updated
  split at updated
  · cases updated
  · cases updated
    rename_i changed
    exact ⟨changed, rfl, rfl⟩

theorem insertTotp_some {now idUser : Int} {encryptedSecret : String}
    (inserted : database.insertTotp now idUser encryptedSecret = some after) :
    database.totp.insert (fun idTotp => ⟨idTotp, idUser, encryptedSecret, 0, now, none, 0⟩)
        (fun _ => rfl) = some after.totp ∧
      after.operators = database.operators ∧ after.recoveryCodes = database.recoveryCodes := by
  unfold insertTotp at inserted
  split at inserted
  · split at inserted
    · cases inserted
    · cases inserted
      rename_i appended
      exact ⟨appended, rfl, rfl⟩
  · cases inserted

theorem updateCodes_some {selected : RecoveryCode -> Bool} {change : RecoveryCode -> RecoveryCode}
    {numbered : forall row, (change row).idCode = row.idCode}
    {owner : forall row, (change row).idUser = row.idUser}
    (updated : database.updateCodes selected change numbered owner = some after) :
    database.recoveryCodes.updateWhere selected change numbered = some after.recoveryCodes ∧
      after.operators = database.operators ∧ after.totp = database.totp := by
  unfold updateCodes at updated
  split at updated
  · cases updated
  · cases updated
    rename_i changed
    exact ⟨changed, rfl, rfl⟩

theorem insertCode_some {now idUser : Int} {encryptedCode : String}
    (inserted : database.insertCode now idUser encryptedCode = some after) :
    database.recoveryCodes.insert (fun idCode => ⟨idCode, idUser, encryptedCode, 0, now, none⟩)
        (fun _ => rfl) = some after.recoveryCodes ∧
      after.operators = database.operators ∧ after.totp = database.totp := by
  unfold insertCode at inserted
  split at inserted
  · split at inserted
    · cases inserted
    · cases inserted
      rename_i appended
      exact ⟨appended, rfl, rfl⟩
  · cases inserted

end Statements

/-- One operator has at most one TOTP row, so the query finds it. -/
theorem totpRow_eq_some {database : Database} {idUser : Int} {row : TotpRow} :
    database.totpRow idUser = some row ↔ row ∈ database.totp.rows ∧ row.idUser = idUser := by
  constructor
  · intro found
    exact ⟨AutoTable.find_mem found, by simpa using AutoTable.find_selected found⟩
  · rintro ⟨member, same⟩
    rcases database.totp.find_isSome (fun row => row.idUser = idUser) member (by simpa using same)
        with ⟨other, found⟩
    have owner : other.idUser = idUser := by simpa using AutoTable.find_selected found
    have equal : other = row :=
      database.totp.exclusive (fun first second => by simp [TotpRow.schema, eq_comm])
        (AutoTable.find_mem found) member (by simp [TotpRow.schema, owner, same])
    rw [← equal]
    exact found

theorem findOperator_eq_some {database : Database} {idUser : Int} {operator : Operator} :
    database.findOperator idUser = some operator ↔
      operator ∈ database.operators.rows ∧ operator.idUser = idUser := by
  constructor
  · intro found
    exact ⟨AutoTable.find_mem found, by simpa using AutoTable.find_selected found⟩
  · rintro ⟨member, same⟩
    rcases database.operators.find_isSome (fun operator => operator.idUser = idUser) member
        (by simpa using same) with ⟨other, found⟩
    have owner : other.idUser = idUser := by simpa using AutoTable.find_selected found
    have equal : other = operator :=
      database.operators.unique (AutoTable.find_mem found) member (owner.trans same.symm)
    rw [← equal]
    exact found

/-- Names are unique, so a name finds its row. -/
theorem findUsername_eq_some {database : Database} {username : String} {operator : Operator} :
    (database.operators.find fun operator => operator.username = username) = some operator ↔
      operator ∈ database.operators.rows ∧ operator.username = username := by
  constructor
  · intro found
    exact ⟨AutoTable.find_mem found, by simpa using AutoTable.find_selected found⟩
  · rintro ⟨member, same⟩
    rcases database.operators.find_isSome (fun operator => operator.username = username) member
        (by simpa using same) with ⟨other, found⟩
    have name : other.username = username := by simpa using AutoTable.find_selected found
    have equal : other = operator :=
      database.operators.exclusive (fun first second => by simp [Operator.schema, eq_comm])
        (AutoTable.find_mem found) member (by simp [Operator.schema, name, same])
    rw [← equal]
    exact found

theorem isEnabled_iff {database : Database} {idUser : Int} :
    database.isEnabled idUser = true ↔
      Exists fun row => row ∈ database.totp.rows ∧ row.idUser = idUser ∧ row.confirmed ≠ 0 := by
  unfold isEnabled
  constructor
  · intro enabled
    cases found : database.totpRow idUser with
    | none =>
        rw [found] at enabled
        cases enabled
    | some row =>
        rw [found] at enabled
        rcases totpRow_eq_some.mp found with ⟨member, owner⟩
        exact ⟨row, member, owner, by simpa [TotpRow.isConfirmed] using enabled⟩
  · rintro ⟨row, member, owner, confirmed⟩
    rw [totpRow_eq_some.mpr ⟨member, owner⟩]
    simpa [TotpRow.isConfirmed] using confirmed

end Database
end KrakenUi
