import KrakenUi.Models.Evolution

namespace KrakenUi

open Storage

/-!
# Agreement of the second-factor tables

Whether two-factor is on is stored three times: as a flag of the operator, as a
confirmed TOTP row, and by the presence of recovery codes.  The login path reads
the row, the user list reads the flag.

Every transaction but one keeps the three in step.  An enrolment replaces the
TOTP row without looking at the flag or at the codes, so it keeps them in step
exactly when no confirmed row is replaced.
-/

namespace Database

/-- A recovery code of the operator is stored, used or not. -/
def HasCodes (database : Database) (idUser : Int) : Prop :=
  Exists fun code => code ∈ database.recoveryCodes.rows ∧ code.idUser = idUser

/-- The three tables agree on an operator. -/
structure AgreesOn (database : Database) (operator : Operator) : Prop where
  flag : operator.mfaEnabled = 1 ↔ database.isEnabled operator.idUser = true
  codes : database.HasCodes operator.idUser -> database.isEnabled operator.idUser = true

/-- The three tables agree. -/
def MfaAgrees (database : Database) : Prop :=
  forall operator, operator ∈ database.operators.rows -> database.AgreesOn operator

/-- What a transaction leaves alone when it is not about this operator. -/
def SameFactor (database after : Database) (idUser : Int) : Prop :=
  after.isEnabled idUser = database.isEnabled idUser ∧
    (after.HasCodes idUser -> database.HasCodes idUser)

variable {database after : Database} {now idUser idTotp step : Int}

theorem mfaAgrees_empty : Database.empty.MfaAgrees :=
  fun _ member => absurd member List.not_mem_nil

/-- Two-factor is on in both databases or in none. -/
theorem isEnabled_eq
    (same : (Exists fun row => row ∈ after.totp.rows ∧ row.idUser = idUser ∧ row.confirmed ≠ 0) ↔
      Exists fun row => row ∈ database.totp.rows ∧ row.idUser = idUser ∧ row.confirmed ≠ 0) :
    after.isEnabled idUser = database.isEnabled idUser := by
  apply Bool.eq_iff_iff.mpr
  rw [isEnabled_iff, isEnabled_iff]
  exact same

theorem isEnabled_of_totp (totp : after.totp = database.totp) :
    after.isEnabled idUser = database.isEnabled idUser := by
  unfold isEnabled totpRow
  rw [totp]

theorem hasCodes_of_codes (codes : after.recoveryCodes = database.recoveryCodes)
    (has : after.HasCodes idUser) : database.HasCodes idUser := by
  unfold HasCodes at has ⊢
  rw [← codes]
  exact has

/-- A row of the later database either agrees by itself or is an old row whose
second factor nobody touched. -/
theorem MfaAgrees.carry (agrees : database.MfaAgrees)
    (each : forall operator, operator ∈ after.operators.rows ->
      (Exists fun old => old ∈ database.operators.rows ∧ operator.idUser = old.idUser ∧
        operator.mfaEnabled = old.mfaEnabled ∧ SameFactor database after old.idUser) ∨
      after.AgreesOn operator) : after.MfaAgrees := by
  intro operator member
  rcases each operator member with ⟨old, oldMember, key, flag, enabled, codes⟩ | alone
  · have before := agrees old oldMember
    constructor
    · rw [flag, key, enabled]
      exact before.flag
    · rw [key, enabled]
      intro has
      exact before.codes (codes has)
  · exact alone

/-! ## Transactions that leave the second factor alone -/

theorem agrees_changeOperator {change : Operator -> Operator}
    {numbered : forall operator, (change operator).idUser = operator.idUser}
    (agrees : database.MfaAgrees)
    (changed : database.changeOperator idUser change numbered = some after)
    (kept : forall operator, (change operator).mfaEnabled = operator.mfaEnabled) :
    after.MfaAgrees := by
  rcases changeOperator_spec changed with ⟨members, -, totp, codes⟩
  apply agrees.carry
  intro operator member
  rcases (members operator).mp member with ⟨old, oldMember, image⟩
  left
  refine ⟨old, oldMember, ?_, ?_, isEnabled_of_totp totp, hasCodes_of_codes codes⟩
  · rw [← image]
    split
    · exact numbered old
    · rfl
  · rw [← image]
    split
    · exact kept old
    · rfl

theorem agrees_create {input : NewOperator} {hash : String} {operator : Operator}
    (agrees : database.MfaAgrees)
    (created : database.create now input hash = some (operator, after)) : after.MfaAgrees := by
  rcases create_spec created with ⟨shape, members, -, totp, codes⟩
  have unowned : forall owner, owner ∈ database.operators.rows ->
      owner.idUser ≠ operator.idUser := by
    intro owner member same
    have bound : owner.idUser ≤ database.operators.sequence :=
      database.operators.bounded owner member
    rw [same, shape] at bound
    simp only at bound
    omega
  apply agrees.carry
  intro row member
  rcases (members row).mp member with old | rfl
  · left
    exact ⟨row, old, rfl, rfl, isEnabled_of_totp totp, hasCodes_of_codes codes⟩
  -- Nothing in the other tables can belong to a number that is new.
  · right
    have off : database.isEnabled row.idUser = false := by
      apply Bool.eq_false_iff.mpr
      intro enabled
      rcases isEnabled_iff.mp enabled with ⟨factor, factorMember, owner, -⟩
      rcases database.totpOwned factor factorMember with ⟨holder, holderMember, same⟩
      exact unowned holder holderMember (same.trans owner)
    constructor
    · rw [isEnabled_of_totp totp, off, shape]
      simp
    · intro has
      rcases hasCodes_of_codes codes has with ⟨code, codeMember, owner⟩
      rcases database.codesOwned code codeMember with ⟨holder, holderMember, same⟩
      exact absurd (same.trans owner) (unowned holder holderMember)

theorem agrees_deleteOperator (agrees : database.MfaAgrees) (idUser : Int) :
    (database.deleteOperator idUser).MfaAgrees := by
  apply agrees.carry
  intro operator member
  rcases AutoTable.mem_deleteWhere.mp member with ⟨old, different⟩
  left
  refine ⟨operator, old, rfl, rfl, ?_, ?_⟩
  · apply isEnabled_eq
    constructor
    · rintro ⟨row, rowMember, owner, confirmed⟩
      exact ⟨row, (AutoTable.mem_deleteWhere.mp rowMember).1, owner, confirmed⟩
    · rintro ⟨row, rowMember, owner, confirmed⟩
      refine ⟨row, AutoTable.mem_deleteWhere.mpr ⟨rowMember, ?_⟩, owner, confirmed⟩
      rw [owner]
      exact different
  · rintro ⟨code, codeMember, owner⟩
    exact ⟨code, (AutoTable.mem_deleteWhere.mp codeMember).1, owner⟩

/-! ## Codes that are used up -/

theorem agrees_consumeTotpStep {accepted : Bool} (agrees : database.MfaAgrees)
    (consumed : database.consumeTotpStep idTotp idUser step = some (accepted, after)) :
    after.MfaAgrees := by
  rcases consumeTotpStep_spec consumed with ⟨updated, -⟩
  rcases updateTotp_some updated with ⟨changed, operators, codes⟩
  apply agrees.carry
  intro operator member
  rw [operators] at member
  left
  refine ⟨operator, member, rfl, rfl, ?_, hasCodes_of_codes codes⟩
  apply isEnabled_eq
  constructor
  · rintro ⟨row, rowMember, owner, confirmed⟩
    rcases (AutoTable.mem_updateWhere changed).mp rowMember with ⟨old, oldMember, rfl⟩
    refine ⟨old, oldMember, ?_, ?_⟩
    · split at owner <;> exact owner
    · split at confirmed <;> exact confirmed
  · rintro ⟨row, rowMember, owner, confirmed⟩
    refine ⟨_, (AutoTable.mem_updateWhere changed).mpr ⟨row, rowMember, rfl⟩, ?_, ?_⟩
    · split <;> exact owner
    · split <;> exact confirmed

theorem agrees_consumeRecoveryCodeRow {idCode : Int} {accepted : Bool}
    (agrees : database.MfaAgrees)
    (consumed : database.consumeRecoveryCodeRow now idUser idCode = some (accepted, after)) :
    after.MfaAgrees := by
  rcases consumeRecoveryCodeRow_spec consumed with ⟨updated, -⟩
  rcases updateCodes_some updated with ⟨changed, operators, totp⟩
  apply agrees.carry
  intro operator member
  rw [operators] at member
  left
  refine ⟨operator, member, rfl, rfl, isEnabled_of_totp totp, ?_⟩
  rintro ⟨code, codeMember, owner⟩
  rcases (AutoTable.mem_updateWhere changed).mp codeMember with ⟨old, oldMember, rfl⟩
  refine ⟨old, oldMember, ?_⟩
  split at owner <;> exact owner

/-! ## Switching two-factor on and off -/

/-- The operators after a change by primary key: the one changed, and others. -/
theorem changed_or_other {change : Operator -> Operator}
    {numbered : forall operator, (change operator).idUser = operator.idUser}
    (changed : database.changeOperator idUser change numbered = some after) {operator : Operator}
    (member : operator ∈ after.operators.rows) :
    (Exists fun old => old ∈ database.operators.rows ∧ old.idUser = idUser ∧
        operator = change old) ∨
      (operator ∈ database.operators.rows ∧ operator.idUser ≠ idUser) := by
  rcases ((changeOperator_spec changed).1 operator).mp member with ⟨old, oldMember, image⟩
  by_cases same : old.idUser = idUser
  · rw [if_pos same] at image
    exact Or.inl ⟨old, oldMember, same, image.symm⟩
  · rw [if_neg same] at image
    rw [← image]
    exact Or.inr ⟨oldMember, same⟩

theorem agrees_disable (agrees : database.MfaAgrees)
    (disabled : database.disable now idUser = some after) : after.MfaAgrees := by
  rcases disable_spec disabled with ⟨changed, totp, codes⟩
  apply agrees.carry
  intro operator member
  rcases changed_or_other changed member with ⟨old, oldMember, rfl, rfl⟩ | ⟨oldMember, different⟩
  · right
    have off : after.isEnabled old.idUser = false := by
      apply Bool.eq_false_iff.mpr
      intro enabled
      rcases isEnabled_iff.mp enabled with ⟨row, rowMember, owner, -⟩
      exact ((totp row).mp rowMember).2 owner
    constructor
    · rw [off]
      simp
    · rintro ⟨code, codeMember, owner⟩
      exact absurd owner ((codes code).mp codeMember).2
  · left
    refine ⟨operator, oldMember, rfl, rfl, ?_, ?_⟩
    · apply isEnabled_eq
      constructor
      · rintro ⟨row, rowMember, owner, confirmed⟩
        exact ⟨row, ((totp row).mp rowMember).1, owner, confirmed⟩
      · rintro ⟨row, rowMember, owner, confirmed⟩
        refine ⟨row, (totp row).mpr ⟨rowMember, ?_⟩, owner, confirmed⟩
        rw [owner]
        exact different
    · rintro ⟨code, codeMember, owner⟩
      exact ⟨code, ((codes code).mp codeMember).1, owner⟩

/-- New codes of one operator do not touch what others have. -/
theorem hasCodes_of_replaced {minted : List MintedCode} {codes : List String} {other : Int}
    (replaced : database.replaceRecoveryCodes now idUser minted = some (codes, after))
    (different : other ≠ idUser) (has : after.HasCodes other) : database.HasCodes other := by
  rcases has with ⟨code, member, owner⟩
  rcases (replaceRecoveryCodes_spec replaced).2.1 code member with ⟨old, -⟩ | ⟨same, -⟩
  · exact ⟨code, old, owner⟩
  · exact absurd (owner.symm.trans same) different

/-- Whoever confirms the pending row is enabled. -/
theorem isEnabled_confirmed {minted : List MintedCode} {codes : List String}
    (confirmed : database.confirmEnrollment now idTotp idUser step minted =
      some (some codes, after)) : after.isEnabled idUser = true := by
  rcases confirmEnrollment_some confirmed with ⟨⟨pending, member, selected⟩, -⟩
  apply isEnabled_iff.mpr
  refine ⟨_, (confirmed_rows confirmed).mpr ⟨pending, member, rfl⟩, ?_, ?_⟩
  · rw [if_pos selected]
    exact (pendingRow_iff.mp selected).2.1
  · rw [if_pos selected]
    exact Int.one_ne_zero

/-- For the others nothing changes. -/
theorem isEnabled_confirmed_other {minted : List MintedCode} {codes : List String} {other : Int}
    (confirmed : database.confirmEnrollment now idTotp idUser step minted =
      some (some codes, after))
    (different : other ≠ idUser) : after.isEnabled other = database.isEnabled other := by
  have unselected : forall row : TotpRow, row.idUser = other ->
      pendingRow idTotp idUser row ≠ true := by
    intro row same chosen
    exact different (same.symm.trans (pendingRow_iff.mp chosen).2.1)
  apply isEnabled_eq
  constructor
  · rintro ⟨row, member, owner, active⟩
    rcases (confirmed_rows confirmed).mp member with ⟨old, oldMember, image⟩
    have same : old.idUser = other := by
      rw [← owner, ← image]
      split <;> rfl
    rw [if_neg (unselected old same)] at image
    rw [image] at oldMember
    exact ⟨row, oldMember, owner, active⟩
  · rintro ⟨row, member, owner, active⟩
    exact ⟨row, (confirmed_rows confirmed).mpr ⟨row, member, if_neg (unselected row owner)⟩,
      owner, active⟩

theorem agrees_confirmEnrollment {minted : List MintedCode} {codes : Option (List String)}
    (agrees : database.MfaAgrees)
    (confirmed : database.confirmEnrollment now idTotp idUser step minted = some (codes, after)) :
    after.MfaAgrees := by
  cases codes with
  | none =>
      rw [confirmEnrollment_none confirmed]
      exact agrees
  | some codes =>
  rcases confirmEnrollment_some confirmed with ⟨-, activated, flagged, updated, flag, replaced⟩
  rcases updateTotp_some updated with ⟨-, operators, sameCodes⟩
  rcases replaceRecoveryCodes_spec replaced with ⟨-, -, -, afterOperators, -⟩
  rcases changeOperator_spec flag with ⟨-, -, -, flaggedCodes⟩
  apply agrees.carry
  intro operator member
  rw [afterOperators] at member
  rcases changed_or_other flag member with ⟨old, oldMember, key, rfl⟩ | ⟨oldMember, different⟩
  · right
    have on : after.isEnabled old.idUser = true := by
      rw [key]
      exact isEnabled_confirmed confirmed
    exact ⟨⟨fun _ => on, fun _ => rfl⟩, fun _ => on⟩
  · left
    rw [operators] at oldMember
    refine ⟨operator, oldMember, rfl, rfl, isEnabled_confirmed_other confirmed different, ?_⟩
    intro has
    exact hasCodes_of_codes (flaggedCodes.trans sameCodes)
      (hasCodes_of_replaced replaced different has)

theorem agrees_regenerateRecoveryCodes {minted : List MintedCode} {codes : Option (List String)}
    (agrees : database.MfaAgrees)
    (regenerated : database.regenerateRecoveryCodes now idUser minted = some (codes, after)) :
    after.MfaAgrees := by
  cases codes with
  | none =>
      rw [regenerateRecoveryCodes_none regenerated]
      exact agrees
  | some codes =>
  rcases regenerateRecoveryCodes_some regenerated with
      ⟨⟨row, rowMember, rowOwner, rowConfirmed⟩, replaced, stored, bumped⟩
  rcases replaceRecoveryCodes_spec stored with ⟨-, -, -, operators, totp⟩
  refine agrees_changeOperator ?_ bumped fun operator => rfl
  apply agrees.carry
  intro operator member
  rw [operators] at member
  by_cases same : operator.idUser = idUser
  · right
    have on : replaced.isEnabled operator.idUser = true := by
      rw [isEnabled_of_totp totp]
      apply isEnabled_iff.mpr
      refine ⟨row, rowMember, rowOwner.trans same.symm, ?_⟩
      rw [rowConfirmed]
      exact Int.one_ne_zero
    refine ⟨?_, fun _ => on⟩
    rw [isEnabled_of_totp totp]
    exact (agrees operator member).flag
  · left
    exact ⟨operator, member, rfl, rfl, isEnabled_of_totp totp, hasCodes_of_replaced stored same⟩

/-! ## The enrolment -/

/-- After an enrolment the operator has a pending row and no other. -/
theorem isEnabled_beginEnrollment {encryptedSecret : String}
    (begun : database.beginEnrollment now idUser encryptedSecret = some after) :
    after.isEnabled idUser = false := by
  apply Bool.eq_false_iff.mpr
  intro enabled
  rcases isEnabled_iff.mp enabled with ⟨row, member, owner, confirmed⟩
  rcases ((beginEnrollment_spec begun).1 row).mp member with ⟨-, different⟩ | rfl
  · exact different owner
  · exact confirmed rfl

/-- An enrolment keeps the tables in step exactly when it replaces no confirmed row. -/
theorem agrees_beginEnrollment {encryptedSecret : String} (agrees : database.MfaAgrees)
    (begun : database.beginEnrollment now idUser encryptedSecret = some after) :
    after.MfaAgrees ↔ database.isEnabled idUser = false := by
  rcases beginEnrollment_spec begun with ⟨rows, operators, codes⟩
  have off := isEnabled_beginEnrollment begun
  constructor
  · intro agreesAfter
    have inserted : Exists fun row => row ∈ after.totp.rows ∧ row.idUser = idUser :=
      ⟨_, (rows _).mpr (Or.inr rfl), rfl⟩
    rcases inserted with ⟨row, member, owner⟩
    rcases after.totpOwned row member with ⟨holder, holderMember, same⟩
    have flagAfter := (agreesAfter holder holderMember).flag
    rw [operators] at holderMember
    have flag := (agrees holder holderMember).flag
    rw [same, owner] at flag flagAfter
    apply Bool.eq_false_iff.mpr
    intro enabled
    rw [flagAfter.mp (flag.mpr enabled)] at off
    cases off
  · intro unconfirmed
    apply agrees.carry
    intro operator member
    rw [operators] at member
    left
    refine ⟨operator, member, rfl, rfl, ?_, hasCodes_of_codes codes⟩
    by_cases same : operator.idUser = idUser
    · rw [same, off, unconfirmed]
    · apply isEnabled_eq
      constructor
      · rintro ⟨row, rowMember, owner, confirmed⟩
        rcases (rows row).mp rowMember with ⟨old, -⟩ | rfl
        · exact ⟨row, old, owner, confirmed⟩
        · exact absurd rfl confirmed
      · rintro ⟨row, rowMember, owner, confirmed⟩
        refine ⟨row, (rows row).mpr (Or.inl ⟨rowMember, ?_⟩), owner, confirmed⟩
        rw [owner]
        exact same

end Database
end KrakenUi
