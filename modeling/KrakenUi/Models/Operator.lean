import KrakenUi.Storage.AutoTable
import KrakenUi.Text

namespace KrakenUi

open Storage

/-!
# Operators and their second factor

The three tables of the console's own database, row by row.  A timestamp
column holds formatted text in the source; here it holds the second that the
text was made from.  The `CHECK` on roles and the unique columns are part of
the schemas.
-/

/-- The console roles stored in the `type` column. -/
inductive OperatorRole where
  | admin
  | operator
  | auditor
  deriving DecidableEq

namespace OperatorRole

def all : List OperatorRole := [admin, operator, auditor]

def parse (value : String) : Option OperatorRole :=
  if value = "admin" then some admin
  else if value = "operator" then some operator
  else if value = "auditor" then some auditor
  else none

def asStr : OperatorRole -> String
  | admin => "admin"
  | operator => "operator"
  | auditor => "auditor"

def canUseConsole (_ : OperatorRole) : Bool := true

def canAdminister (role : OperatorRole) : Bool := decide (role = admin)

def canManageRules (role : OperatorRole) : Bool := decide (role = admin ∨ role = operator)

@[simp] theorem parse_asStr (role : OperatorRole) : parse role.asStr = some role := by
  cases role <;> decide

/-- The stored text determines the role and the other way round. -/
theorem parse_eq_some {value : String} {role : OperatorRole} :
    parse value = some role ↔ value = role.asStr := by
  constructor
  · intro parsed
    unfold parse at parsed
    split at parsed
    · cases parsed
      assumption
    · split at parsed
      · cases parsed
        assumption
      · split at parsed
        · cases parsed
          assumption
        · cases parsed
  · rintro rfl
    exact parse_asStr role

end OperatorRole

/-- A row of `operators`. -/
structure Operator where
  idUser : Int
  username : String
  email : String
  operatorType : String
  encryptedPasswordHash : String
  mfaEnabled : Int
  authzVersion : Int
  authenticatedAt : Option Int
  reauthenticatedAt : Option Int
  createdAt : Int
  updatedAt : Int
  deriving DecidableEq

namespace Operator

def role (operator : Operator) : Option OperatorRole :=
  OperatorRole.parse operator.operatorType

def schema : Schema Operator where
  key := idUser
  clash := fun first second =>
    first.username = second.username || first.email = second.email
  check := fun operator => (OperatorRole.parse operator.operatorType).isSome

end Operator

/-- A row of `operator_mfa_totp`. -/
structure TotpRow where
  idTotp : Int
  idUser : Int
  encryptedSecret : String
  confirmed : Int
  createdAt : Int
  confirmedAt : Option Int
  lastUsedStep : Int
  deriving DecidableEq

namespace TotpRow

def isConfirmed (row : TotpRow) : Bool := decide (row.confirmed ≠ 0)

def schema : Schema TotpRow where
  key := idTotp
  clash := fun first second => first.idUser = second.idUser
  check := fun _ => true

end TotpRow

/-- A row of `operator_mfa_recovery_codes`. -/
structure RecoveryCode where
  idCode : Int
  idUser : Int
  encryptedCode : String
  used : Int
  createdAt : Int
  usedAt : Option Int
  deriving DecidableEq

namespace RecoveryCode

def schema : Schema RecoveryCode where
  key := idCode
  clash := fun _ _ => false
  check := fun _ => true

end RecoveryCode
end KrakenUi
