import KrakenUi.Models.OperatorRepository

namespace KrakenUi

open Storage Text

/-!
# Transactions on the second factor

The committed transactions of the MFA repository and the two conditional
updates that consume a TOTP step and a recovery code.  A transaction that is
rolled back on purpose, because a guarded update found nothing, leaves the
database as it was and says so in its result.

The time steps follow `verify_totp_code`: a code is compared at the present
second and at one period to either side, in that order, and the first match
names the step.  What `otpauth` computes for a step is a parameter.
-/

namespace Mfa

/-- The TOTP step in seconds. -/
def totpPeriod : Int := 30

def totpDomain : String := "totp"

def recoveryDomain : String := "mfa_recovery"

def recoveryCodeCount : Nat := 10

def recoveryAlphabet : List Char := "ABCDEFGHJKLMNPQRSTUVWXYZ23456789".toList

/-- Ten random bytes as ten symbols with a separator in the middle. -/
def generateRecoveryCode (bytes : List Nat) : String :=
  String.ofList (bytes.zipIdx.flatMap fun entry =>
    let symbol := recoveryAlphabet.getD (entry.1 % recoveryAlphabet.length) 'A'
    if entry.2 = 5 then ['-', symbol] else [symbol])

/-- Separators and case do not matter in a recovery code. -/
def normalizeRecovery (input : String) : String :=
  String.ofList ((input.toList.filter isAsciiAlphanumeric).map asciiUpper)

/-- The step at which `code` is the value of the secret, tried at the current
second first, then one period earlier, then one period later. -/
def matchingStep (value : Nat -> Nat) (code : Nat) (now : Int) : Option Int :=
  [0, -totpPeriod, totpPeriod].findSome? fun delta =>
    let timestamp := now + delta
    if 0 ≤ timestamp && value (timestamp / totpPeriod).toNat = code then
      some (timestamp / totpPeriod)
    else none

/-- The six digits of a code, after trimming. -/
def parseCode (code : String) : Option Nat :=
  let trimmed := trim code
  if len trimmed ≠ 6 || !trimmed.toList.all isAsciiDigit then none
  else parseU32 trimmed

/-- `verify_totp_code` with the clock reading it makes. -/
def verifyTotpCode (totpValue : String -> Option (Nat -> Nat)) (secretBase32 code : String)
    (now : Int) : Option Int :=
  match parseCode code with
  | none => none
  | some number =>
      match totpValue secretBase32 with
      | none => none
      | some value => matchingStep value number now

/-- A matching step is at most one away from the current one, and the code is
the value of the secret there. -/
theorem matchingStep_some {value : Nat -> Nat} {code : Nat} {now step : Int}
    (matched : matchingStep value code now = some step) :
    value step.toNat = code ∧ 0 ≤ step ∧
      now / totpPeriod - 1 ≤ step ∧ step ≤ now / totpPeriod + 1 := by
  unfold matchingStep at matched
  rcases List.exists_of_findSome?_eq_some matched with ⟨delta, member, found⟩
  simp only [totpPeriod, Option.ite_none_right_eq_some, Bool.and_eq_true, decide_eq_true_eq,
    Option.some.injEq] at found
  rcases found with ⟨⟨nonnegative, value⟩, rfl⟩
  simp only [totpPeriod, List.mem_cons, List.not_mem_nil, or_false] at member ⊢
  refine ⟨of_decide_eq_true value, by omega, ?_⟩
  rcases member with rfl | rfl | rfl <;> omega

end Mfa

namespace Database

/-- The random bytes and the sealed text of one new recovery code. -/
structure MintedCode where
  bytes : List Nat
  sealed : String

/-- `set_operator_flag_in`, which also opens a new epoch. -/
def setOperatorFlag (database : Database) (now idUser : Int) (enabled : Bool) : Option Database :=
  database.changeOperator idUser
    (fun operator => { operator with
      mfaEnabled := if enabled then 1 else 0
      updatedAt := now
      authzVersion := operator.authzVersion + 1 })
    (fun _ => rfl)

def bumpOperatorAuthzVersion (database : Database) (now idUser : Int) : Option Database :=
  database.changeOperator idUser
    (fun operator => { operator with
      updatedAt := now
      authzVersion := operator.authzVersion + 1 })
    (fun _ => rfl)

def insertCodes (database : Database) (now idUser : Int) : List MintedCode -> Option Database
  | [] => some database
  | minted :: rest =>
      match database.insertCode now idUser minted.sealed with
      | none => none
      | some after => after.insertCodes now idUser rest

/-- The new set of codes in plain text, once the old set is gone. -/
def replaceRecoveryCodes (database : Database) (now idUser : Int) (minted : List MintedCode) :
    Option (List String × Database) :=
  if minted.length = Mfa.recoveryCodeCount then
    ((database.deleteCodes idUser).insertCodes now idUser minted).map fun after =>
      (minted.map fun code => Mfa.generateRecoveryCode code.bytes, after)
  else none

def beginEnrollment (database : Database) (now idUser : Int) (encryptedSecret : String) :
    Option Database :=
  (database.deleteTotp idUser).insertTotp now idUser encryptedSecret

/-- The row that the guarded update of `confirm` selects. -/
def pendingRow (idTotp idUser : Int) (row : TotpRow) : Bool :=
  row.idTotp = idTotp && row.idUser = idUser && row.confirmed = 0

/-- The transaction of `confirm`: `none` for the codes is the rollback of a
stale confirmation. -/
def confirmEnrollment (database : Database) (now idTotp idUser step : Int)
    (minted : List MintedCode) : Option (Option (List String) × Database) :=
  if database.totp.count (pendingRow idTotp idUser) ≠ 1 then some (none, database)
  else
    match database.updateTotp (pendingRow idTotp idUser)
        (fun row => { row with confirmed := 1, confirmedAt := some now, lastUsedStep := step })
        (fun _ => rfl) (fun _ => rfl) with
    | none => none
    | some activated =>
        match activated.setOperatorFlag now idUser true with
        | none => none
        | some flagged =>
            (flagged.replaceRecoveryCodes now idUser minted).map fun result =>
              (some result.1, result.2)

def disable (database : Database) (now idUser : Int) : Option Database :=
  ((database.deleteTotp idUser).deleteCodes idUser).setOperatorFlag now idUser false

/-- `none` for the codes when no row with `confirmed = 1` is stored. -/
def regenerateRecoveryCodes (database : Database) (now idUser : Int) (minted : List MintedCode) :
    Option (Option (List String) × Database) :=
  match database.totp.find fun row => row.idUser = idUser && row.confirmed = 1 with
  | none => some (none, database)
  | some _ =>
      match database.replaceRecoveryCodes now idUser minted with
      | none => none
      | some (codes, replaced) =>
          (replaced.bumpOperatorAuthzVersion now idUser).map fun after => (some codes, after)

/-- The row that the guarded update of `consume_totp_step` selects. -/
def freshRow (idTotp idUser step : Int) (row : TotpRow) : Bool :=
  row.idTotp = idTotp && row.idUser = idUser && row.confirmed = 1 && row.lastUsedStep < step

def consumeTotpStep (database : Database) (idTotp idUser step : Int) : Option (Bool × Database) :=
  (database.updateTotp (freshRow idTotp idUser step)
    (fun row => { row with lastUsedStep := step }) (fun _ => rfl) (fun _ => rfl)).map fun after =>
      (decide (database.totp.count (freshRow idTotp idUser step) = 1), after)

def unusedCode (idUser idCode : Int) (row : RecoveryCode) : Bool :=
  row.idCode = idCode && row.idUser = idUser && row.used = 0

def consumeRecoveryCodeRow (database : Database) (now idUser idCode : Int) :
    Option (Bool × Database) :=
  (database.updateCodes (unusedCode idUser idCode)
    (fun row => { row with used := 1, usedAt := some now }) (fun _ => rfl) (fun _ => rfl)).map
      fun after => (decide (database.recoveryCodes.count (unusedCode idUser idCode) = 1), after)

def unusedRecoveryCodes (database : Database) (idUser : Int) : List RecoveryCode :=
  database.recoveryCodes.all fun row => row.idUser = idUser && row.used = 0

def remainingRecoveryCount (database : Database) (idUser : Int) : Nat :=
  database.recoveryCodes.count fun row => row.idUser = idUser && row.used = 0

/-!
## Specifications
-/

section Specifications

variable {database after : Database} {now idUser idTotp step : Int}

theorem beginEnrollment_spec {encryptedSecret : String}
    (begun : database.beginEnrollment now idUser encryptedSecret = some after) :
    (forall row, row ∈ after.totp.rows ↔ (row ∈ database.totp.rows ∧ row.idUser ≠ idUser) ∨
        row = ⟨database.totp.sequence + 1, idUser, encryptedSecret, 0, now, none, 0⟩) ∧
      after.operators = database.operators ∧ after.recoveryCodes = database.recoveryCodes := by
  rcases insertTotp_some begun with ⟨inserted, operators, codes⟩
  refine ⟨?_, operators, codes⟩
  intro row
  rw [AutoTable.mem_insert inserted]
  simp [deleteTotp, AutoTable.deleteWhere]

/-- A first code is inserted, and then the others. -/
theorem insertCodes_cons_some {head : MintedCode} {tail : List MintedCode}
    (inserted : database.insertCodes now idUser (head :: tail) = some after) :
    Exists fun middle => database.insertCode now idUser head.sealed = some middle ∧
      middle.insertCodes now idUser tail = some after := by
  unfold insertCodes at inserted
  cases first : database.insertCode now idUser head.sealed with
  | none =>
      rw [first] at inserted
      cases inserted
  | some middle =>
      rw [first] at inserted
      exact ⟨middle, rfl, inserted⟩

theorem insertCodes_spec {minted : List MintedCode}
    (inserted : database.insertCodes now idUser minted = some after) :
    (forall code, code ∈ database.recoveryCodes.rows -> code ∈ after.recoveryCodes.rows) ∧
      (forall code, code ∈ after.recoveryCodes.rows -> code ∈ database.recoveryCodes.rows ∨
        (code.idUser = idUser ∧ database.recoveryCodes.sequence < code.idCode)) ∧
      database.recoveryCodes.sequence ≤ after.recoveryCodes.sequence ∧
      after.operators = database.operators ∧ after.totp = database.totp := by
  induction minted generalizing database with
  | nil =>
      cases inserted
      exact ⟨fun _ member => member, fun _ member => Or.inl member, Int.le_refl _, rfl, rfl⟩
  | cons head tail inductionHypothesis =>
      rcases insertCodes_cons_some inserted with ⟨middle, first, others⟩
      rcases inductionHypothesis others with ⟨kept, origin, grown, operators, totp⟩
      rcases insertCode_some first with ⟨appended, middleOperators, middleTotp⟩
      have sequence := (AutoTable.insert_some appended).2
      refine ⟨?_, ?_, by omega, operators.trans middleOperators, totp.trans middleTotp⟩
      · intro code member
        exact kept code ((AutoTable.mem_insert appended).mpr (Or.inl member))
      · intro code member
        rcases origin code member with old | ⟨owner, issued⟩
        · rcases (AutoTable.mem_insert appended).mp old with older | rfl
          · exact Or.inl older
          · exact Or.inr ⟨rfl, by simp only; omega⟩
        · exact Or.inr ⟨owner, by omega⟩

/-- The old codes are deleted, and ten new ones are inserted. -/
theorem replaceRecoveryCodes_some {minted : List MintedCode} {codes : List String}
    (replaced : database.replaceRecoveryCodes now idUser minted = some (codes, after)) :
    minted.length = Mfa.recoveryCodeCount ∧
      codes = minted.map (fun code => Mfa.generateRecoveryCode code.bytes) ∧
      (database.deleteCodes idUser).insertCodes now idUser minted = some after := by
  unfold replaceRecoveryCodes at replaced
  split at replaced
  · rename_i complete
    rcases Option.map_eq_some_iff.mp replaced with ⟨stored, inserted, same⟩
    cases same
    exact ⟨complete, rfl, inserted⟩
  · cases replaced

/-- The codes of other operators stay, and the operator only has new ones. -/
theorem replaceRecoveryCodes_spec {minted : List MintedCode} {codes : List String}
    (replaced : database.replaceRecoveryCodes now idUser minted = some (codes, after)) :
    (forall code, code ∈ database.recoveryCodes.rows -> code.idUser ≠ idUser ->
        code ∈ after.recoveryCodes.rows) ∧
      (forall code, code ∈ after.recoveryCodes.rows ->
        (code ∈ database.recoveryCodes.rows ∧ code.idUser ≠ idUser) ∨
        (code.idUser = idUser ∧ database.recoveryCodes.sequence < code.idCode)) ∧
      database.recoveryCodes.sequence ≤ after.recoveryCodes.sequence ∧
      after.operators = database.operators ∧ after.totp = database.totp := by
  rcases replaceRecoveryCodes_some replaced with ⟨-, -, inserted⟩
  rcases insertCodes_spec inserted with ⟨kept, origin, grown, operators, totp⟩
  refine ⟨?_, ?_, grown, operators, totp⟩
  · intro code member other
    exact kept code (AutoTable.mem_deleteWhere.mpr ⟨member, by simpa using other⟩)
  · intro code member
    rcases origin code member with old | new
    · rcases AutoTable.mem_deleteWhere.mp old with ⟨older, other⟩
      exact Or.inl ⟨older, by simpa using other⟩
    · exact Or.inr new

theorem pendingRow_iff {row : TotpRow} :
    pendingRow idTotp idUser row = true ↔
      row.idTotp = idTotp ∧ row.idUser = idUser ∧ row.confirmed = 0 := by
  simp [pendingRow, and_assoc]

theorem freshRow_iff {row : TotpRow} :
    freshRow idTotp idUser step row = true ↔
      row.idTotp = idTotp ∧ row.idUser = idUser ∧ row.confirmed = 1 ∧ row.lastUsedStep < step := by
  simp [freshRow, and_assoc]

theorem unusedCode_iff {idCode : Int} {row : RecoveryCode} :
    unusedCode idUser idCode row = true ↔
      row.idCode = idCode ∧ row.idUser = idUser ∧ row.used = 0 := by
  simp [unusedCode, and_assoc]

/-- A stale confirmation changes nothing. -/
theorem confirmEnrollment_none {minted : List MintedCode}
    (stale : database.confirmEnrollment now idTotp idUser step minted = some (none, after)) :
    after = database := by
  unfold confirmEnrollment at stale
  split at stale
  · cases stale
    rfl
  · split at stale
    · cases stale
    · split at stale
      · cases stale
      · rcases Option.map_eq_some_iff.mp stale with ⟨result, _, same⟩
        cases same

/-- The three tables after a confirmation. -/
theorem confirmEnrollment_some {minted : List MintedCode} {codes : List String}
    (confirmed : database.confirmEnrollment now idTotp idUser step minted =
      some (some codes, after)) :
    (Exists fun row => row ∈ database.totp.rows ∧ pendingRow idTotp idUser row = true) ∧
      (Exists fun activated => Exists fun flagged =>
        database.updateTotp (pendingRow idTotp idUser)
            (fun row => { row with confirmed := 1, confirmedAt := some now, lastUsedStep := step })
            (fun _ => rfl) (fun _ => rfl) = some activated ∧
          activated.setOperatorFlag now idUser true = some flagged ∧
          flagged.replaceRecoveryCodes now idUser minted = some (codes, after)) := by
  unfold confirmEnrollment at confirmed
  split at confirmed
  · cases confirmed
  · rename_i counted
    have selected := (AutoTable.count_eq_one fun row chosen => (pendingRow_iff.mp chosen).1).mp
      (Classical.not_not.mp counted)
    refine ⟨selected, ?_⟩
    split at confirmed
    · cases confirmed
    · rename_i activated updated
      split at confirmed
      · cases confirmed
      · rename_i flagged flag
        rcases Option.map_eq_some_iff.mp confirmed with ⟨result, replaced, same⟩
        cases same
        exact ⟨activated, flagged, updated, flag, replaced⟩

/-- The rows after a confirmation: the pending row is confirmed, the others stay. -/
theorem confirmed_rows {minted : List MintedCode} {codes : List String}
    (confirmed : database.confirmEnrollment now idTotp idUser step minted =
      some (some codes, after)) {row : TotpRow} :
    row ∈ after.totp.rows ↔ Exists fun old => old ∈ database.totp.rows ∧
      (if pendingRow idTotp idUser old then
        { old with confirmed := 1, confirmedAt := some now, lastUsedStep := step }
      else old) = row := by
  rcases confirmEnrollment_some confirmed with ⟨-, activated, flagged, updated, flag, replaced⟩
  have totp : after.totp = activated.totp :=
    (replaceRecoveryCodes_spec replaced).2.2.2.2.trans (changeOperator_spec flag).2.2.1
  rw [totp]
  exact AutoTable.mem_updateWhere (updateTotp_some updated).1

theorem disable_spec (disabled : database.disable now idUser = some after) :
    ((database.deleteTotp idUser).deleteCodes idUser).setOperatorFlag now idUser false =
        some after ∧
      (forall row, row ∈ after.totp.rows ↔ row ∈ database.totp.rows ∧ row.idUser ≠ idUser) ∧
      (forall code, code ∈ after.recoveryCodes.rows ↔
        code ∈ database.recoveryCodes.rows ∧ code.idUser ≠ idUser) := by
  rcases changeOperator_spec disabled with ⟨-, -, totp, codes⟩
  refine ⟨disabled, ?_, ?_⟩
  · intro row
    rw [totp]
    simp [deleteTotp, deleteCodes, AutoTable.deleteWhere]
  · intro code
    rw [codes]
    simp [deleteTotp, deleteCodes, AutoTable.deleteWhere]

theorem regenerateRecoveryCodes_none {minted : List MintedCode}
    (skipped : database.regenerateRecoveryCodes now idUser minted = some (none, after)) :
    after = database := by
  unfold regenerateRecoveryCodes at skipped
  split at skipped
  · cases skipped
    rfl
  · split at skipped
    · cases skipped
    · rcases Option.map_eq_some_iff.mp skipped with ⟨result, _, same⟩
      cases same

theorem regenerateRecoveryCodes_some {minted : List MintedCode} {codes : List String}
    (regenerated : database.regenerateRecoveryCodes now idUser minted = some (some codes, after)) :
    (Exists fun row => row ∈ database.totp.rows ∧ row.idUser = idUser ∧ row.confirmed = 1) ∧
      (Exists fun replaced =>
        database.replaceRecoveryCodes now idUser minted = some (codes, replaced) ∧
          replaced.bumpOperatorAuthzVersion now idUser = some after) := by
  unfold regenerateRecoveryCodes at regenerated
  split at regenerated
  · cases regenerated
  · rename_i row found
    have selected := AutoTable.find_selected found
    simp only [Bool.and_eq_true, decide_eq_true_eq] at selected
    refine ⟨⟨row, AutoTable.find_mem found, selected⟩, ?_⟩
    split at regenerated
    · cases regenerated
    · rename_i fresh replaced stored
      rcases Option.map_eq_some_iff.mp regenerated with ⟨result, bumped, same⟩
      cases same
      exact ⟨replaced, stored, bumped⟩

/-- The reply of the guarded update says whether a row was there. -/
theorem consumeTotpStep_spec {accepted : Bool}
    (consumed : database.consumeTotpStep idTotp idUser step = some (accepted, after)) :
    database.updateTotp (freshRow idTotp idUser step)
        (fun row => { row with lastUsedStep := step }) (fun _ => rfl) (fun _ => rfl) = some after ∧
      (accepted = true ↔
        Exists fun row => row ∈ database.totp.rows ∧ freshRow idTotp idUser step row = true) := by
  rcases Option.map_eq_some_iff.mp consumed with ⟨stored, updated, same⟩
  cases same
  refine ⟨updated, ?_⟩
  rw [decide_eq_true_eq]
  exact AutoTable.count_eq_one fun row chosen => (freshRow_iff.mp chosen).1

theorem consumeRecoveryCodeRow_spec {idCode : Int} {accepted : Bool}
    (consumed : database.consumeRecoveryCodeRow now idUser idCode = some (accepted, after)) :
    database.updateCodes (unusedCode idUser idCode)
        (fun row => { row with used := 1, usedAt := some now }) (fun _ => rfl) (fun _ => rfl) =
          some after ∧
      (accepted = true ↔
        Exists fun row => row ∈ database.recoveryCodes.rows ∧ unusedCode idUser idCode row = true) := by
  rcases Option.map_eq_some_iff.mp consumed with ⟨stored, updated, same⟩
  cases same
  refine ⟨updated, ?_⟩
  rw [decide_eq_true_eq]
  exact AutoTable.count_eq_one fun row chosen => (unusedCode_iff.mp chosen).1

end Specifications
end Database
end KrakenUi
