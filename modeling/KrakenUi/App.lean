import KrakenUi.Models.Evolution
import KrakenUi.Security.Sanitize

namespace KrakenUi

open Storage

/-!
# What the process does before it serves

A console without an account named `admin` creates one when it starts, from the
password in its environment.  The check is by name: an installation whose
administrators are called otherwise gets the account as well.
-/

namespace App

/-- The two variables that describe the account. -/
structure AdminEnvironment where
  adminPassword : Option String
  adminEmail : Option String

/-- Why a start is given up.  The repository has its own errors. -/
inductive StartError where
  | bail (message : String)
  | repository
  deriving DecidableEq

/-- The account a start creates. -/
def administrator (environment : AdminEnvironment) (password : String) : NewOperator :=
  ⟨"admin", environment.adminEmail.getD "admin@localhost.invalid", "admin", password⟩

/-- `record` is what the password service seals the password into. -/
def bootstrapAdministrator (clean : String -> String) (environment : AdminEnvironment)
    (now : Int) (record : String) (database : Database) : Except StartError Database :=
  match database.operators.find fun operator => operator.username = "admin" with
  | some _ => .ok database
  | none =>
      match environment.adminPassword with
      | none => .ok database
      | some password =>
          if Sanitize.secretHasRejectedMarkup clean password then
            .error (.bail "KRAKEN_UI_ADMIN_PASSWORD contains rejected markup")
          else if !Password.accepts password "admin" then
            .error (.bail "KRAKEN_UI_ADMIN_PASSWORD does not satisfy the password policy")
          else
            match database.create now (administrator environment password) record with
            | none => .error .repository
            | some created => .ok created.2

/-- What a start can do to the tables. -/
inductive Boots (clean : String -> String) (environment : AdminEnvironment) (now : Int)
    (record : String) (database : Database) : Database -> Prop where
  | unchanged (present : (Exists fun operator => operator ∈ database.operators.rows ∧
      operator.username = "admin") ∨ environment.adminPassword = none) :
      Boots clean environment now record database database
  | created {password : String} {operator : Operator} {after : Database}
      (absent : forall operator, operator ∈ database.operators.rows ->
        operator.username ≠ "admin")
      (given : environment.adminPassword = some password)
      (plain : Sanitize.secretHasRejectedMarkup clean password = false)
      (accepted : Password.accepts password "admin" = true)
      (committed : database.create now (administrator environment password) record =
        some (operator, after)) :
      Boots clean environment now record database after

variable {clean : String -> String} {environment : AdminEnvironment} {now : Int}
  {record : String} {database after : Database}

theorem boots_of_ok
    (started : bootstrapAdministrator clean environment now record database = .ok after) :
    Boots clean environment now record database after := by
  unfold bootstrapAdministrator at started
  cases found : database.operators.find fun operator => operator.username = "admin" with
  | some operator =>
      rw [found] at started
      cases started
      have named := AutoTable.find_selected found
      exact .unchanged (Or.inl ⟨operator, AutoTable.find_mem found, of_decide_eq_true named⟩)
  | none =>
      rw [found] at started
      cases given : environment.adminPassword with
      | none =>
          rw [given] at started
          cases started
          exact .unchanged (Or.inr given)
      | some password =>
          rw [given] at started
          dsimp only at started
          split at started
          · cases started
          · rename_i plain
            split at started
            · cases started
            · rename_i accepted
              split at started
              · cases started
              · rename_i created committed
                cases started
                refine .created ?_ given (Bool.eq_false_of_not_eq_true plain) ?_ committed
                · intro operator member named
                  have other := AutoTable.find_none.mp found operator member
                  exact of_decide_eq_false other named
                · cases held : Password.accepts password "admin" with
                  | true => rfl
                  | false =>
                      rw [held] at accepted
                      exact absurd rfl accepted

theorem later_boots (boots : Boots clean environment now record database after) :
    database.Later after := by
  cases boots with
  | unchanged present => exact Database.Later.refl _
  | created absent given plain accepted committed => exact Database.later_create committed

/-- After a start with a password there is an account named `admin`. -/
theorem named_boots (boots : Boots clean environment now record database after)
    {password : String} (given : environment.adminPassword = some password) :
    Exists fun operator => operator ∈ after.operators.rows ∧ operator.username = "admin" := by
  cases boots with
  | unchanged present =>
      rcases present with named | missing
      · exact named
      · rw [missing] at given
        cases given
  | created absent given' plain accepted committed =>
      rcases Database.create_spec committed with ⟨shape, members, -⟩
      exact ⟨_, (members _).mpr (Or.inr rfl), by rw [shape]; rfl⟩

end App
end KrakenUi
