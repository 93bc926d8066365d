import KrakenUi.Protocol.Steps

namespace KrakenUi

open Interaction

/-!
# The repository programs under the contract

None of the repository methods touches the session.  Most of them are only
known to be quiet.  Two of them also leave something behind that later
commands are allowed by: a code that was consumed, and a row that was read.
-/

namespace Console

variable {app : AppState} {flight after : Flight app} {idUser : Int} {α : Type}

/-- Commands that are quiet, as a condition on programs. -/
abbrev Quiet (command : Command) : Prop := command.isQuiet = true

/-- The rule for a command in front of a program. -/
theorem keeps_call {command : Command} {rest : command.Reply -> Handler α}
    {post : α -> Flight app -> Prop} (permitted : Permitted flight command)
    (next : forall reply after, flight.Follows after command reply ->
      Keeps (contract app) (rest reply) after post) :
    Keeps (contract app) (call command >>= rest) flight post :=
  Keeps.call permitted next

/-- The rule for a command at the end of a program. -/
theorem keeps_end {command : Command} {post : command.Reply -> Flight app -> Prop}
    (permitted : Permitted flight command)
    (next : forall reply after, flight.Follows after command reply -> post reply after) :
    Keeps (contract app) (call command) flight post :=
  Keeps.call permitted fun reply after follows => Keeps.done_iff.mpr (next reply after follows)

/-- The rule for a quiet command in front of a program. -/
theorem keeps_step {command : Command} {rest : command.Reply -> Handler α}
    {post : α -> Flight app -> Prop} (quiet : Quiet command)
    (next : forall reply after, flight.Follows after command reply -> Steady flight after ->
      Keeps (contract app) (rest reply) after post) :
    Keeps (contract app) (call command >>= rest) flight post := by
  simp only [Quiet, Command.isQuiet, Bool.and_eq_true, Bool.not_eq_true'] at quiet
  refine keeps_call (permitted_of_free flight quiet.2) ?_
  intro reply after follows
  exact next reply after follows (steady_of_quiet follows quiet.1)

/-- The rule for a quiet command at the end of a program. -/
theorem keeps_last {command : Command} {post : command.Reply -> Flight app -> Prop}
    (quiet : Quiet command)
    (next : forall reply after, flight.Follows after command reply -> Steady flight after ->
      post reply after) :
    Keeps (contract app) (call command) flight post := by
  simp only [Quiet, Command.isQuiet, Bool.and_eq_true, Bool.not_eq_true'] at quiet
  refine keeps_end (permitted_of_free flight quiet.2) ?_
  intro reply after follows
  exact next reply after follows (steady_of_quiet follows quiet.1)

theorem quiet_raise (message : String) : (raise message : Handler α).Only Quiet :=
  only_raise Quiet message rfl

theorem quiet_call {command : Command} (quiet : Quiet command) : (call command).Only Quiet :=
  only_command Quiet quiet

/-- Whatever comes after a request that fails is kept. -/
theorem keeps_raise (message : String) {post : α -> Flight app -> Prop} :
    Keeps (contract app) (raise message) flight post := by
  refine Keeps.call True.intro ?_
  intro reply
  exact reply.elim

theorem quiet_pure (value : α) : (pure value : Handler α).Only Quiet :=
  Program.only_pure (S := console) Quiet value

theorem quiet_isEnabled (idUser : Int) : (OperatorMfaRepository.isEnabled idUser).Only Quiet :=
  (quiet_call rfl).bind fun _ => quiet_pure _

theorem quiet_status (idUser : Int) : (OperatorMfaRepository.status idUser).Only Quiet := by
  refine (quiet_isEnabled idUser).bind ?_
  intro enabled
  split
  · exact (quiet_call rfl).bind fun _ => quiet_pure _
  · exact quiet_pure _

theorem quiet_pendingEnrollment (idUser : Int) (label : String) :
    (OperatorMfaRepository.pendingEnrollment app idUser label).Only Quiet := by
  refine (quiet_call rfl).bind ?_
  intro row
  split
  · exact quiet_pure _
  · split
    · exact quiet_pure _
    · split
      · exact quiet_raise _
      · split <;> exact quiet_pure _

theorem quiet_verifyTotpCode (secret code : String) :
    (OperatorMfaRepository.verifyTotpCode app secret code).Only Quiet := by
  unfold OperatorMfaRepository.verifyTotpCode
  split
  · exact quiet_pure _
  · split
    · exact quiet_pure _
    · exact (quiet_call rfl).bind fun _ => quiet_pure _

theorem quiet_confirm (idUser : Int) (code : String) :
    (OperatorMfaRepository.confirm app idUser code).Only Quiet := by
  refine (quiet_call rfl).bind ?_
  intro row
  split
  · exact quiet_pure _
  · split
    · exact quiet_pure _
    · split
      · exact quiet_raise _
      · rename_i secret decrypted
        refine (quiet_verifyTotpCode secret code).bind ?_
        intro step
        split
        · exact quiet_pure _
        · refine (quiet_call rfl).bind ?_
          intro codes
          split <;> exact quiet_pure _

/-- A code of the account has just been consumed. -/
def Consumed (flight : Flight app) (idUser : Int) : Prop :=
  Exists fun item => Exists fun older => flight.own = item :: older ∧ SecondFactor item idUser

theorem consumed_of_follows {command : Command} {reply : command.Reply}
    (follows : flight.Follows after command reply)
    (factor : forall item : Item app, item.seen = ⟨command, reply⟩ -> SecondFactor item idUser) :
    Consumed after idUser := by
  rcases follows.own with ⟨item, own, seen, -⟩
  exact ⟨item, flight.own, own, factor item seen⟩

theorem Consumed.steppedUp (consumed : Consumed flight idUser) : SteppedUp flight.own idUser := by
  rcases consumed with ⟨item, older, own, factor⟩
  exact ⟨item, ⟨[], older, own, Without.nil⟩, Or.inr factor⟩

/-- What every way of checking a code guarantees. -/
def Checked (flight : Flight app) (idUser : Int) (accepted : Bool) (after : Flight app) : Prop :=
  Steady flight after ∧ (accepted = true -> Consumed after idUser)

theorem Checked.before {middle : Flight app} {accepted : Bool} (steady : Steady flight middle)
    (checked : Checked middle idUser accepted after) : Checked flight idUser accepted after :=
  ⟨steady.trans checked.1, checked.2⟩

theorem checked_false (flight : Flight app) : Checked flight idUser false flight :=
  ⟨Steady.refl flight, fun yes => by cases yes⟩

theorem keeps_burnMatching (candidate : String) (rows : List RecoveryCode) :
    Keeps (contract app) (OperatorMfaRepository.burnMatching app idUser candidate rows) flight
      (Checked flight idUser) := by
  induction rows with
  | nil => exact Keeps.pure (checked_false flight)
  | cons row rest inductionHypothesis =>
      unfold OperatorMfaRepository.burnMatching
      cases app.decryptSecret idUser Mfa.recoveryDomain row.encryptedCode with
      | none => exact keeps_raise _
      | some stored =>
          by_cases same : Mfa.normalizeRecovery stored = candidate
          · simp only [same]
            refine keeps_last rfl ?_
            intro reply after follows steady
            refine ⟨steady, ?_⟩
            intro accepted
            change reply = true at accepted
            subst accepted
            exact consumed_of_follows follows fun item seen => Or.inr ⟨row.idCode, seen⟩
          · simp only [same]
            exact inductionHypothesis

theorem keeps_consumeRecoveryCode (code : String) :
    Keeps (contract app) (OperatorMfaRepository.consumeRecoveryCode app idUser code) flight
      (Checked flight idUser) := by
  unfold OperatorMfaRepository.consumeRecoveryCode
  by_cases empty : Text.isEmpty (Mfa.normalizeRecovery code) = true
  · simp only [empty]
    exact Keeps.pure (checked_false flight)
  · simp only [empty]
    refine keeps_step rfl ?_
    intro rows after follows steady
    exact (keeps_burnMatching _ rows).mono fun _ _ checked => checked.before steady

/-- A code that is accepted has been consumed. -/
theorem keeps_verifyLoginCode (code : String) :
    Keeps (contract app) (OperatorMfaRepository.verifyLoginCode app idUser code) flight
      (Checked flight idUser) := by
  unfold OperatorMfaRepository.verifyLoginCode
  refine keeps_step rfl ?_
  intro row looked follows steady
  change Option TotpRow at row
  cases row.filter TotpRow.isConfirmed with
  | none =>
      exact (keeps_consumeRecoveryCode code).mono fun _ _ checked => checked.before steady
  | some confirmed =>
      dsimp only
      cases app.decryptSecret idUser Mfa.totpDomain confirmed.encryptedSecret with
      | none => exact keeps_raise _
      | some secret =>
          refine (keeps_quiet (quiet_verifyTotpCode secret code) looked).bind ?_
          intro step verified steady'
          have sofar := steady.trans steady'
          cases step with
          | none =>
              exact (keeps_consumeRecoveryCode code).mono fun _ _ checked => checked.before sofar
          | some step =>
              by_cases used : step ≤ confirmed.lastUsedStep
              · simp only [used]
                exact Keeps.pure ((checked_false verified).before sofar)
              · simp only [used]
                refine keeps_last rfl ?_
                intro reply after follows' steady''
                refine ⟨sofar.trans steady'', ?_⟩
                intro accepted
                change reply = true at accepted
                subst accepted
                exact consumed_of_follows follows'
                  fun item seen => Or.inl ⟨confirmed.idTotp, step, seen⟩

/-- The check in front of the verification, as both callers make it. -/
theorem keeps_checkedCode (code : String) (tooLong : Prop) [Decidable tooLong] :
    Keeps (contract app)
      (if tooLong then pure false else OperatorMfaRepository.verifyLoginCode app idUser code) flight
      (fun accepted after => Checked flight idUser accepted after ∧
        (accepted = true -> Verified after.own idUser)) := by
  split
  · exact Keeps.pure ⟨checked_false flight, fun yes => by cases yes⟩
  · refine (keeps_verifyLoginCode code).returns.mono ?_
    rintro accepted after ⟨checked, segment, own, returned⟩
    refine ⟨checked, ?_⟩
    rintro rfl
    exact ⟨code, [], segment, flight.own, own, returned⟩

/-- `is_enabled` reports what it read. -/
theorem keeps_isEnabled :
    Keeps (contract app) (OperatorMfaRepository.isEnabled idUser) flight
      (fun enabled after => Steady flight after ∧
        Exists fun row : Option TotpRow => flight.Follows after (.totpRow idUser) row ∧
          row.any TotpRow.isConfirmed = enabled) := by
  refine keeps_step rfl ?_
  intro row after follows steady
  exact Keeps.pure ⟨steady, row, follows, rfl⟩

end Console
end KrakenUi
