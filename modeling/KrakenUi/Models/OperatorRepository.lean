import KrakenUi.Models.Database

namespace KrakenUi

open Storage

/-!
# Transactions on operators

Each committed transaction of the operator repository is one function from
the stored database to the next one.  A result of `none` is a transaction that
fails and is rolled back.  SQLite has one writer at a time, so a committed
transaction is a single step of every interleaving.

All changes of an existing row go through `changeOperator`, the update by
primary key, and its lemma is the only place that looks inside the table.
-/

/-- What the controllers pass to create an account. -/
structure NewOperator where
  username : String
  email : String
  operatorType : String
  password : String
  deriving DecidableEq

/-- What the controllers pass to edit an account. -/
structure UpdateOperator where
  username : String
  email : String
  operatorType : String
  password : Option String
  deriving DecidableEq

/-- The two audit columns of `record_authentication_timestamp`. -/
inductive AuthenticationColumn where
  | authenticatedAt
  | reauthenticatedAt
  deriving DecidableEq

namespace Database

/-- `UPDATE operators SET … WHERE id_user = ?`. -/
def changeOperator (database : Database) (idUser : Int) (change : Operator -> Operator)
    (numbered : forall operator, (change operator).idUser = operator.idUser) : Option Database :=
  database.updateOperators (fun operator => operator.idUser = idUser) change numbered

/-- A change followed by reading the changed row in the same transaction. -/
def changeAndLoad (database : Database) (idUser : Int) (change : Operator -> Operator)
    (numbered : forall operator, (change operator).idUser = operator.idUser) :
    Option (Operator × Database) :=
  match database.changeOperator idUser change numbered with
  | none => none
  | some after => (after.findOperator idUser).map fun operator => (operator, after)

/-- The row is inserted first, because its number is part of the sealed hash. -/
def create (database : Database) (now : Int) (input : NewOperator)
    (encryptedPasswordHash : String) : Option (Operator × Database) :=
  match database.insertOperator now input.username input.email input.operatorType
      "transaction-pending" with
  | none => none
  | some pending =>
      pending.changeAndLoad pending.operators.sequence
        (fun operator => { operator with encryptedPasswordHash := encryptedPasswordHash })
        (fun _ => rfl)

/-- The row after an edit.  Every edit opens a new authorization epoch. -/
def edited (now : Int) (input : UpdateOperator) (encryptedPasswordHash : Option String)
    (operator : Operator) : Operator :=
  { operator with
    username := input.username
    email := input.email
    operatorType := input.operatorType
    encryptedPasswordHash := encryptedPasswordHash.getD operator.encryptedPasswordHash
    updatedAt := now
    authzVersion := operator.authzVersion + 1 }

def update (database : Database) (now idUser : Int) (input : UpdateOperator)
    (encryptedPasswordHash : Option String) : Option (Operator × Database) :=
  database.changeAndLoad idUser (edited now input encryptedPasswordHash) (fun _ => rfl)

def updatePassword (database : Database) (now idUser : Int) (encryptedPasswordHash : String) :
    Option (Operator × Database) :=
  database.changeAndLoad idUser
    (fun operator => { operator with
      encryptedPasswordHash := encryptedPasswordHash
      updatedAt := now
      authzVersion := operator.authzVersion + 1 })
    (fun _ => rfl)

/-- The write of `update_encrypted_password`, which keeps the epoch.  The ORM
reports an update that finds no row as an error. -/
def storeEncryptedPassword (database : Database) (now idUser : Int)
    (encryptedPasswordHash : String) : Option Database :=
  (database.changeAndLoad idUser
    (fun operator => { operator with
      encryptedPasswordHash := encryptedPasswordHash
      updatedAt := now })
    (fun _ => rfl)).map Prod.snd

def recordAuthenticationTimestamp (database : Database) (now idUser : Int)
    (column : AuthenticationColumn) : Option Database :=
  database.changeOperator idUser
    (fun operator => match column with
      | .authenticatedAt => { operator with authenticatedAt := some now }
      | .reauthenticatedAt => { operator with reauthenticatedAt := some now })
    (fun _ => by cases column <;> rfl)

/-- The number of deleted rows and what is left. -/
def deleteById (database : Database) (idUser : Int) : Nat × Database :=
  (database.operators.count fun operator => operator.idUser = idUser,
    database.deleteOperator idUser)

/-!
## Specifications
-/

section Specifications

variable {database after : Database} {now idUser : Int}

/-- The operators after a change by primary key, row by row. -/
theorem changeOperator_spec {change : Operator -> Operator}
    {numbered : forall operator, (change operator).idUser = operator.idUser}
    (changed : database.changeOperator idUser change numbered = some after) :
    (forall operator, operator ∈ after.operators.rows ↔
        Exists fun old => old ∈ database.operators.rows ∧
          (if old.idUser = idUser then change old else old) = operator) ∧
      after.operators.sequence = database.operators.sequence ∧
      after.totp = database.totp ∧ after.recoveryCodes = database.recoveryCodes := by
  rcases updateOperators_some changed with ⟨updated, totp, codes⟩
  refine ⟨?_, (AutoTable.updateWhere_some updated).2, totp, codes⟩
  intro operator
  rw [AutoTable.mem_updateWhere updated]
  simp only [decide_eq_true_eq]

theorem changeAndLoad_spec {change : Operator -> Operator}
    {numbered : forall operator, (change operator).idUser = operator.idUser} {operator : Operator}
    (changed : database.changeAndLoad idUser change numbered = some (operator, after)) :
    database.changeOperator idUser change numbered = some after ∧
      after.findOperator idUser = some operator := by
  unfold changeAndLoad at changed
  cases stored : database.changeOperator idUser change numbered with
  | none =>
      rw [stored] at changed
      cases changed
  | some result =>
      rw [stored] at changed
      rcases Option.map_eq_some_iff.mp changed with ⟨loaded, found, same⟩
      cases same
      exact ⟨rfl, found⟩

/-- The loaded row is the changed row. -/
theorem changeAndLoad_row {change : Operator -> Operator}
    {numbered : forall operator, (change operator).idUser = operator.idUser} {operator : Operator}
    (changed : database.changeAndLoad idUser change numbered = some (operator, after)) :
    Exists fun old => old ∈ database.operators.rows ∧ old.idUser = idUser ∧
      operator = change old := by
  rcases changeAndLoad_spec changed with ⟨stored, found⟩
  rcases findOperator_eq_some.mp found with ⟨member, owner⟩
  rcases ((changeOperator_spec stored).1 operator).mp member with ⟨old, oldMember, image⟩
  by_cases same : old.idUser = idUser
  · rw [if_pos same] at image
    exact ⟨old, oldMember, same, image.symm⟩
  · rw [if_neg same] at image
    rw [image] at same
    exact absurd owner same

theorem storeEncryptedPassword_spec {hash : String}
    (stored : database.storeEncryptedPassword now idUser hash = some after) :
    database.changeOperator idUser
      (fun operator => { operator with encryptedPasswordHash := hash, updatedAt := now })
      (fun _ => rfl) = some after := by
  rcases Option.map_eq_some_iff.mp stored with ⟨result, changed, rfl⟩
  exact (changeAndLoad_spec changed).1

/-- A created operator is new, has the default columns and is the only change. -/
theorem create_spec {input : NewOperator} {hash : String} {operator : Operator}
    (created : database.create now input hash = some (operator, after)) :
    operator = ⟨database.operators.sequence + 1, input.username, input.email, input.operatorType,
        hash, 0, 0, none, none, now, now⟩ ∧
      (forall row, row ∈ after.operators.rows ↔ row ∈ database.operators.rows ∨ row = operator) ∧
      after.operators.sequence = database.operators.sequence + 1 ∧
      after.totp = database.totp ∧ after.recoveryCodes = database.recoveryCodes := by
  unfold create at created
  split at created
  · cases created
  · rename_i pending inserted
    rcases insertOperator_some inserted with ⟨rows, sequence, pendingTotp, pendingCodes⟩
    have stored := (changeAndLoad_spec created).1
    rcases changeOperator_spec stored with ⟨members, sequence', totp, codes⟩
    rcases changeAndLoad_row created with ⟨old, oldMember, oldKey, image⟩
    have older : forall row, row ∈ database.operators.rows ->
        row.idUser ≠ pending.operators.sequence := by
      intro row member same
      have bound : row.idUser ≤ database.operators.sequence := database.operators.bounded row member
      omega
    have shape : operator = ⟨database.operators.sequence + 1, input.username, input.email,
        input.operatorType, hash, 0, 0, none, none, now, now⟩ := by
      rw [rows, List.mem_append, List.mem_singleton] at oldMember
      rcases oldMember with stale | rfl
      · exact absurd oldKey (older old stale)
      · exact image
    refine ⟨shape, ?_, sequence'.trans sequence, totp.trans pendingTotp, codes.trans pendingCodes⟩
    intro row
    rw [members]
    constructor
    · rintro ⟨source, sourceMember, rfl⟩
      rw [rows, List.mem_append, List.mem_singleton] at sourceMember
      rcases sourceMember with stale | rfl
      · rw [if_neg (older source stale)]
        exact Or.inl stale
      · rw [if_pos sequence.symm, shape]
        exact Or.inr rfl
    · rintro (stale | rfl)
      · refine ⟨row, ?_, if_neg (older row stale)⟩
        rw [rows]
        exact List.mem_append_left _ stale
      · have fresh : (⟨database.operators.sequence + 1, input.username, input.email,
            input.operatorType, "transaction-pending", 0, 0, none, none, now, now⟩ : Operator) ∈
              pending.operators.rows := by
          rw [rows]
          exact List.mem_append_right _ (List.mem_singleton.mpr rfl)
        refine ⟨_, fresh, ?_⟩
        rw [if_pos sequence.symm]
        exact shape.symm

end Specifications
end Database
end KrakenUi
