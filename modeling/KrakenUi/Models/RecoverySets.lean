import KrakenUi.Models.Evolution

namespace KrakenUi

open Storage

/-!
# Sets of recovery codes

The codes of an operator are replaced as a whole.  This module says which rows
a new set consists of, and what each transaction does to the number of codes
that are left: a code that is burned takes one away, a new set or a removed set
starts over, and nothing else counts.  The rows of an operator are therefore at
all times one complete set, or none.
-/

namespace Database

variable {database after : Database} {now idUser idCode other : Int}

/-- The rows of a new set, in the order in which they were minted. -/
theorem insertCodes_rows {minted : List MintedCode}
    (inserted : database.insertCodes now idUser minted = some after) :
    Exists fun fresh : List RecoveryCode =>
      after.recoveryCodes.rows = database.recoveryCodes.rows ++ fresh ∧
        fresh.map RecoveryCode.encryptedCode = minted.map MintedCode.sealed ∧
        forall code, code ∈ fresh -> code.idUser = idUser ∧ code.used = 0 := by
  induction minted generalizing database with
  | nil =>
      cases inserted
      exact ⟨[], (List.append_nil _).symm, rfl, fun _ member => absurd member List.not_mem_nil⟩
  | cons head tail inductionHypothesis =>
      rcases insertCodes_cons_some inserted with ⟨middle, first, others⟩
      rcases inductionHypothesis others with ⟨fresh, rows, sealed, owned⟩
      have appended := (AutoTable.insert_some (insertCode_some first).1).1
      refine ⟨⟨database.recoveryCodes.sequence + 1, idUser, head.sealed, 0, now, none⟩ :: fresh,
        ?_, ?_, ?_⟩
      · rw [rows, appended, List.append_assoc]
        rfl
      · rw [List.map_cons, List.map_cons, sealed]
      · intro code member
        rcases List.mem_cons.mp member with rfl | later
        · exact ⟨rfl, rfl⟩
        · exact owned code later

/-- After a replacement the operator has the ten new codes and no others. -/
theorem replaceRecoveryCodes_rows {minted : List MintedCode} {codes : List String}
    (replaced : database.replaceRecoveryCodes now idUser minted = some (codes, after)) :
    minted.length = Mfa.recoveryCodeCount ∧
      codes = minted.map (fun code => Mfa.generateRecoveryCode code.bytes) ∧
      Exists fun fresh : List RecoveryCode =>
        after.recoveryCodes.rows = (database.deleteCodes idUser).recoveryCodes.rows ++ fresh ∧
          fresh.map RecoveryCode.encryptedCode = minted.map MintedCode.sealed ∧
          forall code, code ∈ fresh -> code.idUser = idUser ∧ code.used = 0 := by
  rcases replaceRecoveryCodes_some replaced with ⟨complete, same, inserted⟩
  exact ⟨complete, same, insertCodes_rows inserted⟩

/-- The codes that can still be used after a replacement. -/
theorem unused_replaced {minted : List MintedCode} {codes : List String}
    (replaced : database.replaceRecoveryCodes now idUser minted = some (codes, after)) :
    (after.unusedRecoveryCodes idUser).map RecoveryCode.encryptedCode =
      minted.map MintedCode.sealed := by
  rcases replaceRecoveryCodes_rows replaced with ⟨-, -, fresh, rows, sealed, owned⟩
  unfold unusedRecoveryCodes AutoTable.all
  rw [rows, List.filter_append, List.filter_eq_nil_iff.mpr, List.nil_append,
    List.filter_eq_self.mpr, sealed]
  · intro code member
    rcases owned code member with ⟨owner, unused⟩
    simp [owner, unused]
  · intro code member
    have different := (AutoTable.mem_deleteWhere.mp member).2
    simp only [decide_eq_false_iff_not] at different
    simp [different]

/-! ## A set that is gone -/

section Issued

variable {row : RecoveryCode}

/-- The codes of an operator after a replacement have numbers of their own. -/
theorem issued_replaced {minted : List MintedCode} {codes : List String}
    (replaced : database.replaceRecoveryCodes now idUser minted = some (codes, after))
    (member : row ∈ after.recoveryCodes.rows) (owner : row.idUser = idUser) :
    database.recoveryCodes.sequence < row.idCode := by
  rcases (replaceRecoveryCodes_spec replaced).2.1 row member with ⟨-, foreign⟩ | ⟨-, issued⟩
  · exact absurd owner foreign
  · exact issued

theorem issued_confirmed {idTotp step : Int} {minted : List MintedCode} {codes : List String}
    (confirmed : database.confirmEnrollment now idTotp idUser step minted =
      some (some codes, after))
    (member : row ∈ after.recoveryCodes.rows) (owner : row.idUser = idUser) :
    database.recoveryCodes.sequence < row.idCode := by
  rcases confirmEnrollment_some confirmed with ⟨-, activated, flagged, updated, flag, replaced⟩
  have codes : flagged.recoveryCodes = database.recoveryCodes :=
    (changeOperator_spec flag).2.2.2.trans (updateTotp_some updated).2.2
  rw [← codes]
  exact issued_replaced replaced member owner

theorem issued_regenerated {minted : List MintedCode} {codes : List String}
    (regenerated : database.regenerateRecoveryCodes now idUser minted = some (some codes, after))
    (member : row ∈ after.recoveryCodes.rows) (owner : row.idUser = idUser) :
    database.recoveryCodes.sequence < row.idCode := by
  rcases regenerateRecoveryCodes_some regenerated with ⟨-, replaced, stored, bumped⟩
  rw [(changeOperator_spec bumped).2.2.2] at member
  exact issued_replaced stored member owner

end Issued

/-! ## How many codes are left -/

theorem remaining_of_codes (same : after.recoveryCodes = database.recoveryCodes) :
    after.remainingRecoveryCount other = database.remainingRecoveryCount other := by
  unfold remainingRecoveryCount
  rw [same]

/-- A code that is burned is one code less for its operator, and for nobody else. -/
theorem remaining_burned
    (consumed : database.consumeRecoveryCodeRow now idUser idCode = some (true, after)) :
    database.remainingRecoveryCount other =
      after.remainingRecoveryCount other + if other = idUser then 1 else 0 := by
  rcases consumeRecoveryCodeRow_spec consumed with ⟨updated, accepted⟩
  rcases updateCodes_some updated with ⟨changed, -, -⟩
  unfold remainingRecoveryCount
  by_cases mine : other = idUser
  · subst mine
    rw [if_pos rfl]
    refine AutoTable.count_updateWhere_one changed ?_ ?_ ?_
    · exact (AutoTable.count_eq_one fun row chosen => (unusedCode_iff.mp chosen).1).mpr
        (accepted.mp rfl)
    · intro row chosen
      rcases unusedCode_iff.mp chosen with ⟨-, owner, unused⟩
      simp [owner, unused]
    · intro row _
      simp
  · rw [if_neg mine, Nat.add_zero]
    refine (AutoTable.count_updateWhere changed ?_).symm
    intro row _ chosen
    rcases unusedCode_iff.mp chosen with ⟨-, owner, -⟩
    have foreign : ¬ idUser = other := fun same => mine same.symm
    simp [owner, foreign]

/-- A code that could not be burned leaves everything as it was. -/
theorem remaining_refused
    (consumed : database.consumeRecoveryCodeRow now idUser idCode = some (false, after)) :
    after.remainingRecoveryCount other = database.remainingRecoveryCount other := by
  rcases consumeRecoveryCodeRow_spec consumed with ⟨updated, accepted⟩
  rcases updateCodes_some updated with ⟨changed, -, -⟩
  unfold remainingRecoveryCount
  apply AutoTable.count_updateWhere changed
  intro row member chosen
  have burned := accepted.mpr ⟨row, member, chosen⟩
  cases burned

theorem remaining_deleteCodes (different : other ≠ idUser) :
    (database.deleteCodes idUser).remainingRecoveryCount other =
      database.remainingRecoveryCount other := by
  apply AutoTable.count_deleteWhere
  intro row counted
  simp only [Bool.and_eq_true, decide_eq_true_eq] at counted
  rw [counted.1]
  exact decide_eq_false different

theorem remaining_replaced {minted : List MintedCode} {codes : List String}
    (replaced : database.replaceRecoveryCodes now idUser minted = some (codes, after))
    (different : other ≠ idUser) :
    after.remainingRecoveryCount other = database.remainingRecoveryCount other := by
  apply Eq.trans _ (remaining_deleteCodes different)
  rcases replaceRecoveryCodes_rows replaced with ⟨-, -, fresh, rows, -, owned⟩
  have foreign : ¬ idUser = other := fun same => different same.symm
  have none : fresh.countP
      (fun row => decide (row.idUser = other) && decide (row.used = 0)) = 0 := by
    apply List.countP_eq_zero.mpr
    intro code member
    simp [(owned code member).1, foreign]
  unfold remainingRecoveryCount AutoTable.count
  rw [rows, List.countP_append, none, Nat.add_zero]

theorem remaining_confirmed {idTotp step : Int} {minted : List MintedCode} {codes : List String}
    (confirmed : database.confirmEnrollment now idTotp idUser step minted =
      some (some codes, after)) (different : other ≠ idUser) :
    after.remainingRecoveryCount other = database.remainingRecoveryCount other := by
  rcases confirmEnrollment_some confirmed with ⟨-, activated, flagged, updated, flag, replaced⟩
  rw [remaining_replaced replaced different]
  exact (remaining_of_codes (changeOperator_spec flag).2.2.2).trans
    (remaining_of_codes (updateTotp_some updated).2.2)

theorem remaining_regenerated {minted : List MintedCode} {codes : List String}
    (regenerated : database.regenerateRecoveryCodes now idUser minted = some (some codes, after))
    (different : other ≠ idUser) :
    after.remainingRecoveryCount other = database.remainingRecoveryCount other := by
  rcases regenerateRecoveryCodes_some regenerated with ⟨-, replaced, stored, bumped⟩
  rw [remaining_of_codes (changeOperator_spec bumped).2.2.2]
  exact remaining_replaced stored different

theorem remaining_disabled (disabled : database.disable now idUser = some after)
    (different : other ≠ idUser) :
    after.remainingRecoveryCount other = database.remainingRecoveryCount other := by
  rw [remaining_of_codes (changeOperator_spec (disable_spec disabled).1).2.2.2,
    remaining_deleteCodes different]
  rfl

theorem remaining_deleteOperator (different : other ≠ idUser) :
    (database.deleteOperator idUser).remainingRecoveryCount other =
      database.remainingRecoveryCount other := by
  apply Eq.trans _ (remaining_deleteCodes different)
  rfl

/-! ## Complete sets -/

/-- The numbers of the stored codes of an operator, used or not. -/
def codeNumbers (database : Database) (idUser : Int) : List Int :=
  (database.recoveryCodes.all fun row => row.idUser = idUser).map RecoveryCode.idCode

/-- The numbers of so many rows that were inserted together. -/
def consecutive (last : Int) (count : Nat) : List Int :=
  (List.range count).map fun place : Nat => last + 1 + (place : Int)

/-- The stored codes of each operator are one complete set. -/
def WholeSets (database : Database) : Prop :=
  forall idUser, database.codeNumbers idUser = [] ∨
    Exists fun last => database.codeNumbers idUser = consecutive last Mfa.recoveryCodeCount

theorem wholeSets_empty : Database.empty.WholeSets := fun _ => Or.inl rfl

theorem consecutive_succ (last : Int) (count : Nat) :
    consecutive last (count + 1) = (last + 1) :: consecutive (last + 1) count := by
  unfold consecutive
  rw [List.range_succ_eq_map, List.map_cons, List.map_map]
  congr 1
  · omega
  · apply List.map_congr_left
    intro place _
    simp only [Function.comp_apply]
    omega

theorem codeNumbers_of_codes (same : after.recoveryCodes = database.recoveryCodes) :
    after.codeNumbers other = database.codeNumbers other := by
  unfold codeNumbers
  rw [same]

theorem codeNumbers_insertCode {encryptedCode : String}
    (inserted : database.insertCode now idUser encryptedCode = some after) :
    after.codeNumbers other = database.codeNumbers other ++
      if other = idUser then [database.recoveryCodes.sequence + 1] else [] := by
  unfold codeNumbers
  rw [AutoTable.all_insert (insertCode_some inserted).1, List.map_append]
  congr 1
  by_cases mine : other = idUser
  · rw [if_pos mine, List.filter_cons, if_pos (decide_eq_true mine.symm)]
    rfl
  · rw [if_neg mine, List.filter_cons,
      if_neg (ne_true_of_eq_false (decide_eq_false fun same => mine same.symm))]
    rfl

/-- The codes of one call get numbers in sequence. -/
theorem codeNumbers_insertCodes {minted : List MintedCode}
    (inserted : database.insertCodes now idUser minted = some after) :
    after.codeNumbers other = database.codeNumbers other ++
      if other = idUser then consecutive database.recoveryCodes.sequence minted.length else [] := by
  induction minted generalizing database with
  | nil =>
      cases inserted
      rw [List.length_nil]
      split
      · exact (List.append_nil _).symm
      · exact (List.append_nil _).symm
  | cons head tail inductionHypothesis =>
      rcases insertCodes_cons_some inserted with ⟨middle, first, others⟩
      have sequence := (AutoTable.insert_some (insertCode_some first).1).2
      rw [inductionHypothesis others, codeNumbers_insertCode first, List.append_assoc, sequence,
        List.length_cons, consecutive_succ]
      congr 1
      split
      · rfl
      · rfl

theorem codeNumbers_deleteCodes :
    (database.deleteCodes idUser).codeNumbers other =
      if other = idUser then [] else database.codeNumbers other := by
  unfold codeNumbers
  split
  · rename_i mine
    subst mine
    have none : (database.deleteCodes other).recoveryCodes.all
        (fun row => row.idUser = other) = [] := by
      apply List.filter_eq_nil_iff.mpr
      intro row member
      rw [(AutoTable.mem_deleteWhere.mp member).2]
      exact Bool.false_ne_true
    rw [none]
    rfl
  · rename_i foreign
    congr 1
    apply AutoTable.all_deleteWhere
    intro row owner
    rw [of_decide_eq_true owner]
    exact decide_eq_false foreign

/-- A replacement is complete, and it concerns one operator only. -/
theorem codeNumbers_replaced {minted : List MintedCode} {codes : List String}
    (replaced : database.replaceRecoveryCodes now idUser minted = some (codes, after)) :
    after.codeNumbers other =
      if other = idUser then
        consecutive database.recoveryCodes.sequence Mfa.recoveryCodeCount
      else database.codeNumbers other := by
  rcases replaceRecoveryCodes_some replaced with ⟨complete, -, inserted⟩
  rw [codeNumbers_insertCodes inserted, codeNumbers_deleteCodes, complete]
  split
  · rfl
  · exact List.append_nil _

theorem wholeSets_of_numbers (whole : database.WholeSets)
    (each : forall other, after.codeNumbers other = [] ∨
      (Exists fun last => after.codeNumbers other = consecutive last Mfa.recoveryCodeCount) ∨
      after.codeNumbers other = database.codeNumbers other) : after.WholeSets := by
  intro other
  rcases each other with gone | fresh | same
  · exact Or.inl gone
  · exact Or.inr fresh
  · rw [same]
    exact whole other

theorem wholeSets_of_codes (whole : database.WholeSets)
    (same : after.recoveryCodes = database.recoveryCodes) : after.WholeSets :=
  wholeSets_of_numbers whole fun _ => Or.inr (Or.inr (codeNumbers_of_codes same))

theorem wholeSets_replaced (whole : database.WholeSets) {minted : List MintedCode}
    {codes : List String}
    (replaced : database.replaceRecoveryCodes now idUser minted = some (codes, after)) :
    after.WholeSets := by
  apply wholeSets_of_numbers whole
  intro other
  rw [codeNumbers_replaced replaced]
  split
  · exact Or.inr (Or.inl ⟨database.recoveryCodes.sequence, rfl⟩)
  · exact Or.inr (Or.inr rfl)

theorem wholeSets_confirmed (whole : database.WholeSets) {idTotp step : Int}
    {minted : List MintedCode} {codes : List String}
    (confirmed : database.confirmEnrollment now idTotp idUser step minted =
      some (some codes, after)) : after.WholeSets := by
  rcases confirmEnrollment_some confirmed with ⟨-, activated, flagged, updated, flag, replaced⟩
  refine wholeSets_replaced (wholeSets_of_codes whole ?_) replaced
  exact (changeOperator_spec flag).2.2.2.trans (updateTotp_some updated).2.2

theorem wholeSets_regenerated (whole : database.WholeSets) {minted : List MintedCode}
    {codes : List String}
    (regenerated : database.regenerateRecoveryCodes now idUser minted = some (some codes, after)) :
    after.WholeSets := by
  rcases regenerateRecoveryCodes_some regenerated with ⟨-, replaced, stored, bumped⟩
  exact wholeSets_of_codes (wholeSets_replaced whole stored) (changeOperator_spec bumped).2.2.2

theorem wholeSets_deleteCodes (whole : database.WholeSets) (idUser : Int) :
    (database.deleteCodes idUser).WholeSets := by
  apply wholeSets_of_numbers whole
  intro other
  rw [codeNumbers_deleteCodes]
  split
  · exact Or.inl rfl
  · exact Or.inr (Or.inr rfl)

/-- Using a code changes neither its number nor its owner. -/
theorem wholeSets_consumed (whole : database.WholeSets) {accepted : Bool}
    (consumed : database.consumeRecoveryCodeRow now idUser idCode = some (accepted, after)) :
    after.WholeSets := by
  rcases consumeRecoveryCodeRow_spec consumed with ⟨updated, -⟩
  refine wholeSets_of_numbers whole fun other => Or.inr (Or.inr ?_)
  unfold codeNumbers
  exact AutoTable.map_all_updateWhere (updateCodes_some updated).1 fun _ => ⟨rfl, rfl⟩

/-- No operator ever has more codes left than one set has. -/
theorem WholeSets.remaining_le (whole : database.WholeSets) (idUser : Int) :
    database.remainingRecoveryCount idUser ≤ Mfa.recoveryCodeCount := by
  have counted : database.remainingRecoveryCount idUser ≤ (database.codeNumbers idUser).length := by
    unfold remainingRecoveryCount codeNumbers AutoTable.count AutoTable.all
    rw [List.length_map, ← List.countP_eq_length_filter]
    apply List.countP_mono_left
    intro row _ both
    exact (Bool.and_eq_true_iff.mp both).1
  apply Nat.le_trans counted
  rcases whole idUser with gone | ⟨last, fresh⟩
  · rw [gone]
    exact Nat.zero_le _
  · rw [fresh, consecutive, List.length_map, List.length_range]

end Database
end KrakenUi
