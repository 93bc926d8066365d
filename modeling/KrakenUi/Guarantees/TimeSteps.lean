import KrakenUi.Guarantees.Authentication
import KrakenUi.Interaction.Audit

namespace KrakenUi

open Interaction Storage

/-!
# A time step authenticates at most once

Here the requests are calls of the MFA repository itself, any number of them at
once.  A call that offers a time step has read a row, opened its secret and
looked at the clock before, and it is bound to what it then found.  The rest is
in the tables: a row keeps its secret and its last step only grows, and the
number of a row that is gone is not given out again.

Whether a call succeeds is told by its last command.  So the log shows which calls
have returned true and by what, and an accepted step never stands in a call that
has failed.
-/

/-- The calls whose interleavings are considered. -/
inductive RepositoryCall where
  | verifyLoginCode (idUser : Int) (code : String)
  | confirm (idUser : Int) (code : String)
  | beginEnrollment (idUser : Int) (accountLabel : String)
  | disable (idUser : Int)
  | regenerateRecoveryCodes (idUser : Int)
  | createOperator (input : NewOperator)
  | deleteOperator (idUser : Int)

namespace RepositoryCall

def noCookie (_ : RepositoryCall) : Option SessionId := none

abbrev machine (app : AppState) : Semantics console :=
  Console.semantics app RepositoryCall noCookie

/-- What each call runs. -/
def service (app : AppState) : Service (machine app)
  | .verifyLoginCode idUser code => do
      let _ ← OperatorMfaRepository.verifyLoginCode app idUser code
      pure ()
  | .confirm idUser code => do
      let _ ← OperatorMfaRepository.confirm app idUser code
      pure ()
  | .beginEnrollment idUser accountLabel => do
      let _ ← OperatorMfaRepository.beginEnrollment app idUser accountLabel
      pure ()
  | .disable idUser => call (.disable idUser)
  | .regenerateRecoveryCodes idUser => do
      let _ ← call (.regenerateRecoveryCodes idUser)
      pure ()
  | .createOperator input => do
      let _ ← call (.create input)
      pure ()
  | .deleteOperator idUser => do
      let _ ← call (.deleteById idUser)
      pure ()

end RepositoryCall

namespace Command

/-- The row, the owner and the step of a command that offers a time step. -/
def offersStep : Command -> Option (Int × Int × Int)
  | consumeTotpStep idTotp idUser step | confirmEnrollment idTotp idUser step =>
      some (idTotp, idUser, step)
  | _ => none

end Command

namespace TimeSteps

variable {app : AppState}

abbrev Item (app : AppState) := Entry (RepositoryCall.machine app)

abbrev Flight (app : AppState) := InFlight (RepositoryCall.machine app)

/-- The step was accepted for the row, at a login or by a confirmation. -/
def Accepts (item : Item app) (idTotp step : Int) : Prop :=
  Exists fun idUser => item.seen = ⟨.consumeTotpStep idTotp idUser step, true⟩ ∨
    Exists fun codes : List String =>
      item.seen = ⟨.confirmEnrollment idTotp idUser step, some codes⟩

theorem Accepts.offers {item : Item app} {idTotp step : Int} (accepts : Accepts item idTotp step) :
    Exists fun idUser => item.seen.command.offersStep = some (idTotp, idUser, step) := by
  obtain ⟨idUser, seen | ⟨codes, seen⟩⟩ := accepts <;>
    exact ⟨idUser, by rw [seen]; rfl⟩

/-- The code that a call has checked for its operator when it offers a step. -/
def Presents (request : RepositoryCall) (command : Command) (idUser : Int) (code : String) :
    Prop :=
  match command with
  | .consumeTotpStep _ _ _ => request = .verifyLoginCode idUser code
  | .confirmEnrollment _ _ _ => request = .confirm idUser code
  | _ => False

/-- What the call knows about a code: the row it read, the second at which it
compared, and the value of the secret at the step. -/
def CodeChecked (app : AppState) (items : List (Item app)) (idTotp idUser step : Int)
    (code : String) : Prop :=
  Exists fun row : TotpRow => Exists fun now : Int => Exists fun secret => Exists fun value =>
    Saw items (.totpRow idUser) (some row) ∧ row.idTotp = idTotp ∧ Saw items .now now ∧
      app.decryptSecret idUser Mfa.totpDomain row.encryptedSecret = some secret ∧
      app.totpValue secret = some value ∧ Mfa.parseCode code = some (value step.toNat) ∧
      now / Mfa.totpPeriod - 1 ≤ step ∧ step ≤ now / Mfa.totpPeriod + 1

/-- A step is only offered by a call that has checked its code. -/
def contract (app : AppState) : Contract (RepositoryCall.machine app) where
  Permitted := fun flight command => forall idTotp idUser step,
    command.offersStep = some (idTotp, idUser, step) ->
      Exists fun code => Presents flight.request command idUser code ∧
        CodeChecked app flight.own idTotp idUser step code
  Settled := fun _ => True

/-- The check of a code only looks at the clock. -/
theorem now_verifyTotpCode (app : AppState) (secret code : String) :
    (OperatorMfaRepository.verifyTotpCode app secret code).Only (Eq Command.now) := by
  unfold OperatorMfaRepository.verifyTotpCode
  split
  · exact Program.only_pure (S := console) _ none
  · split
    · exact Program.only_pure (S := console) _ none
    · exact (Program.only_call (S := console) (Eq Command.now) Command.now _).mpr
        ⟨rfl, fun now => Program.only_pure (S := console) _ _⟩

section Programs

variable {flight after : Flight app} {α : Type} {idUser : Int} {code : String}

/-- Commands that offer no step. -/
abbrev Plain (command : Command) : Prop := command.offersStep = none

theorem permitted_of_plain {command : Command} (plain : Plain command) :
    (contract app).Permitted flight command := by
  intro idTotp idUser step offers
  rw [plain] at offers
  cases offers

/-- The rule for a plain command in front of a program. -/
theorem keeps_step {command : Command} {rest : command.Reply -> Handler α}
    {post : α -> Flight app -> Prop} (plain : Plain command)
    (next : forall reply after, flight.Follows after command reply ->
      Keeps (contract app) (rest reply) after post) :
    Keeps (contract app) (call command >>= rest) flight post :=
  Keeps.perform (permitted_of_plain plain) next

theorem keeps_raise (message : String) {post : α -> Flight app -> Prop} :
    Keeps (contract app) (raise message) flight post :=
  Keeps.call (permitted_of_plain rfl) fun reply => reply.elim

theorem keeps_plain {program : Handler α} (plain : program.Only Plain) (flight : Flight app) :
    Keeps (contract app) program flight (fun _ _ => True) :=
  Keeps.only (fun _ _ => True) (fun _ => True.intro) (fun _ _ => True.intro)
    (fun _ _ plain => permitted_of_plain plain) (fun _ _ => True.intro) plain flight

theorem plain_call {command : Command} (plain : Plain command) : (call command).Only Plain :=
  (Program.only_perform (S := console) Plain command).mpr plain

theorem plain_pure (value : α) : (pure value : Handler α).Only Plain :=
  Program.only_pure (S := console) Plain value

theorem plain_raise (message : String) : (raise message : Handler α).Only Plain :=
  (Program.only_call (S := console) Plain (.fail message) _).mpr ⟨rfl, fun reply => Empty.elim reply⟩

theorem plain_burnMatching (idUser : Int) (candidate : String) (rows : List RecoveryCode) :
    (OperatorMfaRepository.burnMatching app idUser candidate rows).Only Plain := by
  induction rows with
  | nil => exact plain_pure false
  | cons row rest inductionHypothesis =>
      unfold OperatorMfaRepository.burnMatching
      split
      · exact plain_raise _
      · split
        · exact plain_call rfl
        · exact inductionHypothesis

theorem plain_consumeRecoveryCode (idUser : Int) (code : String) :
    (OperatorMfaRepository.consumeRecoveryCode app idUser code).Only Plain := by
  unfold OperatorMfaRepository.consumeRecoveryCode
  dsimp only
  split
  · exact plain_pure false
  · exact (plain_call rfl).bind fun rows => plain_burnMatching idUser _ rows

/-- A step that `verify_totp_code` returns has been compared at a second that
the call has read. -/
theorem keeps_verifyTotpCode {secret : String} {row : TotpRow}
    (read : Saw flight.own (.totpRow idUser) (some row))
    (decrypted : app.decryptSecret idUser Mfa.totpDomain row.encryptedSecret = some secret) :
    Keeps (contract app) (OperatorMfaRepository.verifyTotpCode app secret code) flight
      (fun verified after => after.request = flight.request ∧
        forall step, verified = some step ->
          CodeChecked app after.own row.idTotp idUser step code) := by
  unfold OperatorMfaRepository.verifyTotpCode
  cases parsed : Mfa.parseCode code with
  | none => exact Keeps.pure ⟨rfl, fun step missing => by cases missing⟩
  | some number =>
      dsimp only
      cases derived : app.totpValue secret with
      | none => exact Keeps.pure ⟨rfl, fun step missing => by cases missing⟩
      | some value =>
          refine keeps_step rfl ?_
          intro now after follows
          refine Keeps.pure ⟨follows.request, ?_⟩
          intro step matched
          rcases Mfa.matchingStep_some matched with ⟨same, -, low, high⟩
          exact ⟨row, now, secret, value, read.mono follows.subset, rfl, follows.saw, decrypted,
            derived, by rw [parsed, same], low, high⟩

theorem keeps_verifyLoginCode (asked : flight.request = .verifyLoginCode idUser code) :
    Keeps (contract app) (OperatorMfaRepository.verifyLoginCode app idUser code) flight
      (fun _ _ => True) := by
  unfold OperatorMfaRepository.verifyLoginCode
  refine keeps_step rfl ?_
  intro row looked follows
  change Option TotpRow at row
  cases confirmed : row.filter TotpRow.isConfirmed with
  | none => exact keeps_plain (plain_consumeRecoveryCode idUser code) looked
  | some stored =>
      have read : Saw looked.own (.totpRow idUser) (some stored) := by
        rw [← (Option.filter_eq_some_iff.mp confirmed).1]
        exact follows.saw
      dsimp only
      cases decrypted : app.decryptSecret idUser Mfa.totpDomain stored.encryptedSecret with
      | none => exact keeps_raise _
      | some secret =>
          refine (keeps_verifyTotpCode read decrypted).bind ?_
          rintro (_ | step) verified ⟨request, checked⟩
          · exact keeps_plain (plain_consumeRecoveryCode idUser code) verified
          · by_cases used : step ≤ stored.lastUsedStep
            · simp only [used]
              exact Keeps.pure True.intro
            · simp only [used]
              refine Keeps.call ?_ fun _ _ _ => Keeps.done_iff.mpr True.intro
              intro idTotp owner offered offers
              cases offers
              exact ⟨code, request.trans (follows.request.trans asked), checked step rfl⟩

theorem keeps_confirm (asked : flight.request = .confirm idUser code) :
    Keeps (contract app) (OperatorMfaRepository.confirm app idUser code) flight
      (fun _ _ => True) := by
  unfold OperatorMfaRepository.confirm
  refine keeps_step rfl ?_
  intro row looked follows
  change Option TotpRow at row
  cases row with
  | none => exact Keeps.pure True.intro
  | some row =>
      dsimp only
      split
      · exact Keeps.pure True.intro
      · cases decrypted : app.decryptSecret idUser Mfa.totpDomain row.encryptedSecret with
        | none => exact keeps_raise _
        | some secret =>
            refine (keeps_verifyTotpCode follows.saw decrypted).bind ?_
            rintro (_ | step) verified ⟨request, checked⟩
            · exact Keeps.pure True.intro
            · refine Keeps.perform ?_ ?_
              · intro idTotp owner offered offers
                cases offers
                exact ⟨code, request.trans (follows.request.trans asked), checked step rfl⟩
              · intro codes after _
                change Option (List String) at codes
                cases codes <;> exact Keeps.pure True.intro

/-- Every call keeps the contract. -/
theorem obeys (app : AppState) : Obeys (contract app) (RepositoryCall.service app) := by
  intro world ticket request
  cases request with
  | verifyLoginCode idUser code =>
      exact (keeps_verifyLoginCode rfl).bind fun _ _ _ => Keeps.pure True.intro
  | confirm idUser code => exact (keeps_confirm rfl).bind fun _ _ _ => Keeps.pure True.intro
  | beginEnrollment idUser accountLabel =>
      refine (keeps_plain ?_ _).bind fun _ _ _ => Keeps.pure True.intro
      exact (plain_call rfl).bind fun _ => (plain_call rfl).bind fun _ =>
        (plain_call rfl).bind fun _ => plain_pure _
  | disable idUser => exact keeps_plain (plain_call rfl) _
  | regenerateRecoveryCodes idUser | createOperator input | deleteOperator idUser =>
      exact (keeps_plain (plain_call rfl) _).bind fun _ _ _ => Keeps.pure True.intro

end Programs

/-! ## What a login returns -/

/-- The last thing that happened was that a step was consumed or a code burned. -/
def Accepted (transcript : List (Observation console)) (idUser : Int) : Prop :=
  Exists fun earlier => Exists fun last => transcript = earlier ++ [last] ∧
    ((Exists fun idTotp => Exists fun step =>
        last = ⟨.consumeTotpStep idTotp idUser step, true⟩) ∨
      Exists fun idCode => last = ⟨.consumeRecoveryCodeRow idUser idCode, true⟩)

section Returned

variable {idUser : Int} {code candidate : String} {transcript first : List (Observation console)}

theorem Accepted.append (accepted : Accepted transcript idUser) :
    Accepted (first ++ transcript) idUser := by
  rcases accepted with ⟨earlier, last, rfl, kind⟩
  exact ⟨first ++ earlier, last, (List.append_assoc _ _ _).symm, kind⟩

theorem Accepted.cons (accepted : Accepted transcript idUser) (seen : Observation console) :
    Accepted (seen :: transcript) idUser := by
  rcases accepted with ⟨earlier, last, rfl, kind⟩
  exact ⟨seen :: earlier, last, rfl, kind⟩

theorem accepted_of_burnMatching {rows : List RecoveryCode}
    (returned : (OperatorMfaRepository.burnMatching app idUser candidate rows).Returns
      transcript true) : Accepted transcript idUser := by
  induction rows with
  | nil => cases ((Program.returns_pure _ _ _).mp returned).2
  | cons row rest inductionHypothesis =>
      unfold OperatorMfaRepository.burnMatching at returned
      cases decrypted : app.decryptSecret idUser Mfa.recoveryDomain row.encryptedCode with
      | none =>
          rw [decrypted] at returned
          rcases (Program.returns_call _ _ _ _).mp returned with ⟨reply, -⟩
          exact reply.elim
      | some stored =>
          rw [decrypted] at returned
          dsimp only at returned
          split at returned
          · exact ⟨[], _, Console.returns_last returned, Or.inr ⟨row.idCode, rfl⟩⟩
          · exact inductionHypothesis returned

theorem accepted_of_consumeRecoveryCode
    (returned : (OperatorMfaRepository.consumeRecoveryCode app idUser code).Returns
      transcript true) : Accepted transcript idUser := by
  unfold OperatorMfaRepository.consumeRecoveryCode at returned
  dsimp only at returned
  split at returned
  · cases ((Program.returns_pure _ _ _).mp returned).2
  · rcases @Console.returns_step _ (.unusedRecoveryCodes idUser) _ _ _ returned with
        ⟨rows, tail, rfl, burned⟩
    exact (accepted_of_burnMatching burned).cons _

/-- A login code that is accepted has consumed a step or burned a code last. -/
theorem accepted_of_returns
    (returned : (OperatorMfaRepository.verifyLoginCode app idUser code).Returns transcript true) :
    Accepted transcript idUser := by
  unfold OperatorMfaRepository.verifyLoginCode at returned
  rcases @Console.returns_step _ (.totpRow idUser) _ _ _ returned with ⟨row, tail, rfl, answered⟩
  apply Accepted.cons _ _
  change Option TotpRow at row
  cases confirmed : row.filter TotpRow.isConfirmed with
  | none =>
      rw [confirmed] at answered
      exact accepted_of_consumeRecoveryCode answered
  | some stored =>
      rw [confirmed] at answered
      cases decrypted : app.decryptSecret idUser Mfa.totpDomain stored.encryptedSecret with
      | none =>
          simp only [decrypted] at answered
          rcases (Program.returns_call _ _ _ _).mp answered with ⟨reply, -⟩
          exact reply.elim
      | some secret =>
          simp only [decrypted] at answered
          rcases (Program.returns_bind _ _ _ _).mp answered with
              ⟨first, second, verified, rfl, -, accepted⟩
          apply Accepted.append
          cases verified with
          | none => exact accepted_of_consumeRecoveryCode accepted
          | some step =>
              dsimp only at accepted
              split at accepted
              · cases ((Program.returns_pure _ _ _).mp accepted).2
              · exact ⟨[], _, Console.returns_last accepted, Or.inl ⟨stored.idTotp, step, rfl⟩⟩

end Returned

/-- A confirmation that returns codes has consumed a step last. -/
theorem confirmed_of_returns {idUser : Int} {code : String} {codes : List String}
    {transcript : List (Observation console)}
    (returned : (OperatorMfaRepository.confirm app idUser code).Returns transcript
      (.confirmed codes)) :
    Exists fun earlier => Exists fun idTotp => Exists fun step =>
      transcript = earlier ++ [⟨.confirmEnrollment idTotp idUser step, some codes⟩] := by
  unfold OperatorMfaRepository.confirm at returned
  rcases @Console.returns_step _ (.totpRow idUser) _ _ _ returned with ⟨row, tail, rfl, answered⟩
  change Option TotpRow at row
  cases row with
  | none => cases ((Program.returns_pure _ _ _).mp answered).2
  | some row =>
      dsimp only at answered
      split at answered
      · cases ((Program.returns_pure _ _ _).mp answered).2
      cases decrypted : app.decryptSecret idUser Mfa.totpDomain row.encryptedSecret with
      | none =>
          rw [decrypted] at answered
          rcases (Program.returns_call _ _ _ _).mp answered with ⟨reply, -⟩
          exact reply.elim
      | some secret =>
          rw [decrypted] at answered
          rcases (Program.returns_bind _ _ _ _).mp answered with
              ⟨first, second, verified, rfl, -, confirming⟩
          cases verified with
          | none => cases ((Program.returns_pure _ _ _).mp confirming).2
          | some step =>
              rcases @Console.returns_step _ (.confirmEnrollment row.idTotp idUser step) _ _ _
                confirming with ⟨minted, last, rfl, ended⟩
              change Option (List String) at minted
              cases minted with
              | none => cases ((Program.returns_pure _ _ _).mp ended).2
              | some given =>
                  rcases (Program.returns_pure _ _ _).mp ended with ⟨rfl, same⟩
                  cases same
                  exact ⟨_ :: first, row.idTotp, step, rfl⟩

/-! ## What a step makes of its call -/

/-- What a login returns behind the command that consumes a step. -/
def loginAnswer : Observation console -> Bool
  | ⟨.consumeTotpStep _ _ _, accepted⟩ => accepted
  | _ => false

def confirmAnswer : Observation console -> ConfirmOutcome
  | ⟨.confirmEnrollment _ _ _, some codes⟩ => .confirmed codes
  | _ => .noPendingEnrollment

section Ending

variable {idUser : Int} {code : String}

theorem plain_verifyTotpCode (secret code : String) :
    (OperatorMfaRepository.verifyTotpCode app secret code).Only Plain := by
  apply (now_verifyTotpCode app secret code).mono
  rintro command rfl
  rfl

theorem ends_verifyLoginCode : (OperatorMfaRepository.verifyLoginCode app idUser code).Ends
    Plain loginAnswer := by
  have consumes : forall idTotp step,
      (call (.consumeTotpStep idTotp idUser step) : Handler Bool).Ends Plain loginAnswer :=
    fun _ _ => Program.Ends.perform_bind fun _ => rfl
  unfold OperatorMfaRepository.verifyLoginCode
  refine Program.Ends.bind (plain_call rfl) ?_
  intro row
  split
  · exact Program.Ends.of_only (plain_consumeRecoveryCode idUser code)
  · split
    · exact Program.Ends.of_only (plain_raise _)
    · rename_i secret _
      have checks := @plain_verifyTotpCode app secret code
      refine Program.Ends.bind checks ?_
      intro verified
      split
      · split
        · exact Program.Ends.of_only (plain_pure false)
        · exact consumes _ _
      · exact Program.Ends.of_only (plain_consumeRecoveryCode idUser code)

theorem ends_confirm : (OperatorMfaRepository.confirm app idUser code).Ends
    Plain confirmAnswer := by
  unfold OperatorMfaRepository.confirm
  refine Program.Ends.bind (plain_call rfl) ?_
  intro row
  split
  · exact Program.Ends.of_only (plain_pure _)
  · split
    · exact Program.Ends.of_only (plain_pure _)
    · split
      · exact Program.Ends.of_only (plain_raise _)
      · rename_i secret _
        have checks := @plain_verifyTotpCode app secret code
        refine Program.Ends.bind checks ?_
        intro verified
        split
        · exact Program.Ends.of_only (plain_pure _)
        · refine Program.Ends.perform_bind ?_
          intro reply
          change Option (List String) at reply
          cases reply <;> rfl

end Ending

/-- The call has succeeded: the login has returned true, the confirmation its codes. -/
def Succeeds (app : AppState) (request : RepositoryCall)
    (transcript : List (Observation console)) : Prop :=
  match request with
  | .verifyLoginCode idUser code =>
      (OperatorMfaRepository.verifyLoginCode app idUser code).Returns transcript true
  | .confirm idUser code => Exists fun codes =>
      (OperatorMfaRepository.confirm app idUser code).Returns transcript (.confirmed codes)
  | _ => False

/-- The call of the entry has succeeded by a time step: the entry, its last command,
has consumed the step for the row. -/
structure Authenticates (log : List (Item app)) (item : Item app) (idTotp step : Int) : Prop where
  accepts : Accepts item idTotp step
  last : Exists fun older => entriesOf log item.ticket = item :: older
  succeeds : Succeeds app item.request (callOf log item.ticket)

/-! ## What the journal says about an accepted step -/

/-- Behind every step that was offered stands the call's own check. -/
def offered (app : AppState) : Invariant (RepositoryCall.machine app) where
  Sound := fun world => forall item, item ∈ world.log -> forall idTotp idUser step,
    item.seen.command.offersStep = some (idTotp, idUser, step) ->
      Exists fun older => Exists fun code =>
        (forall other, other ∈ older -> other ∈ world.log ∧ other.ticket = item.ticket ∧
          other.moment < item.moment) ∧
        Presents item.request item.seen.command idUser code ∧
          CodeChecked app older idTotp idUser step code
  Fits := fun _ _ => True

abbrev direction (app : AppState) : Growth (RepositoryCall.machine app) :=
  Console.direction app RepositoryCall RepositoryCall.noCookie

theorem offered_kept (app : AppState) (allowed : Condition (RepositoryCall.machine app)) :
    (direction app).journal.Kept (offered app) (contract app) allowed where
  accept := fun _ _ _ _ sound => ⟨sound, True.intro, fun _ _ _ => True.intro⟩
  execute := by
    intro world flight command draw reply after held recorded fits sound _ permitted _ _ _ _
    refine ⟨?_, True.intro, fun _ _ _ => True.intro⟩
    intro item member idTotp idUser step offers
    rcases List.mem_cons.mp member with rfl | old
    · rcases permitted idTotp idUser step offers with ⟨code, presents, checked⟩
      refine ⟨flight.own, code, ?_, presents, checked⟩
      intro other own
      have inLog := fits.own other own
      exact ⟨List.mem_cons_of_mem _ inLog, (fits.signed other own).1, recorded.counted other inLog⟩
    · rcases sound item old idTotp idUser step offers with ⟨older, code, earlier, presents, checked⟩
      refine ⟨older, code, ?_, presents, checked⟩
      intro other among
      rcases earlier other among with ⟨inLog, same, before⟩
      exact ⟨List.mem_cons_of_mem _ inLog, same, before⟩
  close := fun _ _ _ _ _ _ _ sound _ _ _ _ => ⟨sound, fun _ _ _ => True.intro⟩
  happen := fun _ _ _ _ sound _ _ => ⟨sound, fun _ _ _ => True.intro⟩

/-- The row of an accepted step was open to it, and has it as its last step. -/
theorem row_of_accepts {item : Item app} {idTotp step : Int} (genuine : item.Genuine)
    (accepts : Accepts item idTotp step) :
    (Exists fun row => row ∈ item.before.database.totp.rows ∧ row.idTotp = idTotp ∧
      (row.confirmed = 0 ∨ (row.confirmed = 1 ∧ row.lastUsedStep < step))) ∧
    (Exists fun row => row ∈ item.after.database.totp.rows ∧ row.idTotp = idTotp ∧
      row.confirmed = 1 ∧ row.lastUsedStep = step) := by
  rcases accepts with ⟨idUser, seen | ⟨codes, seen⟩⟩
  · rcases Console.performed_of_genuine genuine seen with ⟨draw, held, performed⟩
    rcases Database.consumeTotpStep_spec (Console.commit_some performed).1 with ⟨updated, accepted⟩
    rcases accepted.mp rfl with ⟨row, member, selected⟩
    rcases Database.freshRow_iff.mp selected with ⟨number, -, confirmed, older⟩
    refine ⟨⟨row, member, number, Or.inr ⟨confirmed, older⟩⟩, ?_⟩
    exact ⟨{ row with lastUsedStep := step },
      (AutoTable.mem_updateWhere (Database.updateTotp_some updated).1).mpr
        ⟨row, member, by rw [if_pos selected]⟩, number, confirmed, rfl⟩
  · rcases Console.performed_of_genuine genuine seen with ⟨draw, held, performed⟩
    rcases Database.confirmEnrollment_some (Console.commit_some performed).1 with
        ⟨⟨row, member, selected⟩, activated, flagged, updated, flag, replaced⟩
    rcases Database.pendingRow_iff.mp selected with ⟨number, -, pending⟩
    refine ⟨⟨row, member, number, Or.inl pending⟩, ?_⟩
    have kept : item.after.database.totp = activated.totp := by
      rw [(Database.replaceRecoveryCodes_spec replaced).2.2.2.2]
      exact (Database.changeOperator_spec flag).2.2.1
    refine ⟨{ row with confirmed := 1, confirmedAt := some item.before.now, lastUsedStep := step },
      ?_, number, rfl, rfl⟩
    rw [kept]
    exact (AutoTable.mem_updateWhere (Database.updateTotp_some updated).1).mpr
      ⟨row, member, by rw [if_pos selected]⟩

section Calls

variable {state : State} {config : Config (RepositoryCall.machine app)}

/-- An accepted step is the end of its call, and the call has succeeded. -/
theorem authenticates_of_accepts
    (reached : Reaches (RepositoryCall.service app) anyCommand (Config.idle state) config)
    {item : Item app} (member : item ∈ config.world.log) {idTotp step idUser : Int}
    {code : String} (accepts : Accepts item idTotp step)
    (presents : Presents item.request item.seen.command idUser code) :
    Authenticates config.world.log item idTotp step := by
  rcases accepts.offers with ⟨offering, offers⟩
  have consumes : ¬ Plain item.seen.command := fun plain =>
    absurd (offers.symm.trans plain) (Option.some_ne_none _)
  obtain ⟨owner, seen | ⟨codes, seen⟩⟩ := id accepts
  · rw [seen] at presents
    change item.request = .verifyLoginCode idUser code at presents
    have runs := congrArg (RepositoryCall.service app) presents
    rcases last_of_ends ends_verifyLoginCode reached member consumes runs with ⟨last, returned⟩
    rw [seen] at returned
    refine ⟨accepts, last, ?_⟩
    rw [presents]
    exact returned
  · rw [seen] at presents
    change item.request = .confirm idUser code at presents
    have runs := congrArg (RepositoryCall.service app) presents
    rcases last_of_ends ends_confirm reached member consumes runs with ⟨last, returned⟩
    rw [seen] at returned
    refine ⟨accepts, last, ?_⟩
    rw [presents]
    exact ⟨codes, returned⟩

/-- A call that has succeeded has accepted a step or burned a recovery code last. -/
theorem newest_of_succeeds {log : List (Item app)} {request : RepositoryCall} {ticket : Nat}
    (succeeds : Succeeds app request (callOf log ticket)) :
    Exists fun newest => Exists fun older => entriesOf log ticket = newest :: older ∧
      ((Exists fun idTotp => Exists fun step => Accepts newest idTotp step) ∨
        Exists fun idUser => Exists fun code => Exists fun idCode =>
          request = .verifyLoginCode idUser code ∧
            newest.seen = ⟨.consumeRecoveryCodeRow idUser idCode, true⟩) := by
  cases request with
  | verifyLoginCode idUser code =>
      rcases accepted_of_returns succeeds with ⟨earlier, last, ended, kind⟩
      rcases newest_of_callOf ended with ⟨newest, older, journal, seen⟩
      refine ⟨newest, older, journal, ?_⟩
      rcases kind with ⟨idTotp, step, rfl⟩ | ⟨idCode, rfl⟩
      · exact Or.inl ⟨idTotp, step, idUser, Or.inl seen⟩
      · exact Or.inr ⟨idUser, code, idCode, rfl, seen⟩
  | confirm idUser code =>
      rcases succeeds with ⟨codes, returned⟩
      rcases confirmed_of_returns returned with ⟨earlier, idTotp, step, ended⟩
      rcases newest_of_callOf ended with ⟨newest, older, journal, seen⟩
      exact ⟨newest, older, journal, Or.inl ⟨idTotp, step, idUser, Or.inr ⟨codes, seen⟩⟩⟩
  | beginEnrollment | disable | regenerateRecoveryCodes | createOperator | deleteOperator =>
      exact succeeds.elim

/-- A row that has accepted a step accepts only later ones. -/
theorem steps_grow {first second : Item app} {idTotp firstStep secondStep : Int}
    (recorded : config.world.Recorded (direction app)) (firstMember : first ∈ config.world.log)
    (secondMember : second ∈ config.world.log) (one : Accepts first idTotp firstStep)
    (two : Accepts second idTotp secondStep) (earlier : first.moment < second.moment) :
    firstStep < secondStep := by
  rcases row_of_accepts (recorded.genuine first firstMember) one with
      ⟨-, used, usedMember, usedNumber, confirmed, last⟩
  rcases row_of_accepts (recorded.genuine second secondMember) two with
      ⟨⟨row, member, number, openRow⟩, -⟩
  have later : State.Later first.after second.before :=
    recorded.between first second firstMember secondMember earlier
  rcases later.database.totp.row usedMember member (usedNumber.trans number.symm) with
      ⟨-, -, steady⟩
  rcases steady (by rw [confirmed]; exact Int.one_ne_zero) with ⟨still, grown⟩
  rcases openRow with pending | ⟨-, older⟩
  · rw [pending, confirmed] at still
    cases still
  · omega

end Calls

/-- A time step authenticates at most once.  A call that succeeds has accepted a
step or burned a recovery code last, and every accepted step is the end of a call
that succeeds.  The steps of one row grow, each was the current one or a neighbour
when the call looked at the clock, and the code was the value of the secret that
the row had when it was consumed. -/
theorem steps_accepted_once (app : AppState) {state : State}
    {config : Config (RepositoryCall.machine app)}
    (reached : Reaches (RepositoryCall.service app) anyCommand (Config.idle state) config) :
    (forall asked, asked ∈ config.world.log ->
      Succeeds app asked.request (callOf config.world.log asked.ticket) ->
      Exists fun newest => newest ∈ config.world.log ∧ newest.ticket = asked.ticket ∧
        newest.request = asked.request ∧
        ((Exists fun idTotp => Exists fun step =>
            Authenticates config.world.log newest idTotp step) ∨
          Exists fun idUser => Exists fun code => Exists fun idCode =>
            asked.request = .verifyLoginCode idUser code ∧
              newest.seen = ⟨.consumeRecoveryCodeRow idUser idCode, true⟩)) ∧
    (forall item idTotp step, item ∈ config.world.log -> Accepts item idTotp step ->
      Authenticates config.world.log item idTotp step) ∧
    (forall first second idTotp step, first ∈ config.world.log -> second ∈ config.world.log ->
      Authenticates config.world.log first idTotp step ->
      Authenticates config.world.log second idTotp step -> first = second) ∧
    (forall first second idTotp firstStep secondStep, first ∈ config.world.log ->
      second ∈ config.world.log -> Accepts first idTotp firstStep ->
      Accepts second idTotp secondStep -> first.moment < second.moment ->
      firstStep < secondStep) ∧
    (forall item idTotp step, item ∈ config.world.log -> Accepts item idTotp step ->
      Exists fun clock => Exists fun now : Int => clock ∈ config.world.log ∧
        clock.ticket = item.ticket ∧ clock.moment < item.moment ∧ clock.seen = ⟨.now, now⟩ ∧
        clock.before.now = now ∧ now / Mfa.totpPeriod - 1 ≤ step ∧
        step ≤ now / Mfa.totpPeriod + 1) ∧
    (forall item idTotp step, item ∈ config.world.log -> Accepts item idTotp step ->
      Exists fun row => Exists fun idUser => Exists fun code => Exists fun secret =>
        Exists fun value => row ∈ item.before.database.totp.rows ∧ row.idTotp = idTotp ∧
          Presents item.request item.seen.command idUser code ∧
          app.decryptSecret idUser Mfa.totpDomain row.encryptedSecret = some secret ∧
          app.totpValue secret = some value ∧ Mfa.parseCode code = some (value step.toNat)) := by
  have recording :=
    (direction app).journal_lasting (RepositoryCall.service app) anyCommand state
  have recorded := (recording config reached).1
  have initial : (offered app).Sound (Config.idle state).world :=
    fun _ member => absurd member List.not_mem_nil
  have sound := ((offered_kept app anyCommand).lasting (obeys app) (fun _ => rfl) recording initial
    config reached).1
  have authenticates : forall item idTotp step, item ∈ config.world.log ->
      Accepts item idTotp step -> Authenticates config.world.log item idTotp step := by
    intro item idTotp step member accepts
    rcases accepts.offers with ⟨idUser, offers⟩
    rcases sound item member idTotp idUser step offers with ⟨-, code, -, presents, -⟩
    exact authenticates_of_accepts reached member accepts presents
  refine ⟨?_, authenticates, ?_, ?_, ?_, ?_⟩
  · intro asked member succeeds
    rcases newest_of_succeeds succeeds with ⟨newest, older, journal, kind⟩
    rcases mem_entriesOf.mp (journal ▸ List.mem_cons_self : newest ∈ entriesOf _ asked.ticket) with
        ⟨inLog, ticket⟩
    refine ⟨newest, inLog, ticket, request_of_ticket reached inLog member ticket, ?_⟩
    rcases kind with ⟨idTotp, step, accepts⟩ | burned
    · exact Or.inl ⟨idTotp, step, authenticates newest idTotp step inLog accepts⟩
    · exact Or.inr burned
  · intro first second idTotp step firstMember secondMember one two
    rcases Nat.lt_trichotomy first.moment second.moment with earlier | same | later
    · exact absurd (steps_grow recorded firstMember secondMember one.accepts two.accepts earlier)
        (Int.lt_irrefl _)
    · exact recorded.unique firstMember secondMember same
    · exact absurd (steps_grow recorded secondMember firstMember two.accepts one.accepts later)
        (Int.lt_irrefl _)
  · intro first second idTotp firstStep secondStep firstMember secondMember one two earlier
    exact steps_grow recorded firstMember secondMember one two earlier
  · intro item idTotp step member accepts
    rcases accepts.offers with ⟨idUser, offers⟩
    rcases sound item member idTotp idUser step offers with
        ⟨older, code, earlier, -, row, now, secret, value, -, -, ⟨clock, among, seen⟩, -, -, -, low,
        high⟩
    rcases earlier clock among with ⟨inLog, same, before⟩
    exact ⟨clock, now, inLog, same, before, seen,
      Console.clock_read (recorded.genuine clock inLog) seen, low, high⟩
  · intro item idTotp step member accepts
    rcases accepts.offers with ⟨idUser, offers⟩
    rcases sound item member idTotp idUser step offers with
        ⟨older, code, earlier, presents, row, now, secret, value, ⟨read, among, seen⟩, number, -,
        decrypted, derived, digits, -, -⟩
    rcases earlier read among with ⟨inLog, -, before⟩
    have found := Console.totp_read (recorded.genuine read inLog) seen
    rcases row_of_accepts (recorded.genuine item member) accepts with
        ⟨⟨stored, storedMember, storedNumber, -⟩, -⟩
    have later : State.Later read.before item.before :=
      Growth.before_before recorded inLog member before
    rcases later.database.totp.row (Database.totpRow_eq_some.mp found).1 storedMember
        (number.trans storedNumber.symm) with ⟨-, sealed, -⟩
    exact ⟨stored, idUser, code, secret, value, storedMember, storedNumber, presents,
      by rw [sealed]; exact decrypted, derived, digits⟩

end TimeSteps

namespace Sample

abbrev callSteps (ticket count : Nat) (draw : Draw) : List (Action (RepositoryCall.machine app)) :=
  List.replicate count (.step ticket draw)

/-- The administrator enrols, confirms with the code of step 33, and a minute
later a code of step 35 is verified. -/
def enrolled : Option (Config (RepositoryCall.machine app)) :=
  (Config.idle state).play (RepositoryCall.service app)
    ([.accept (.beginEnrollment 1 "root")] ++ callSteps 0 3 { text := "seed" } ++
      [.accept (.confirm 1 "100003")] ++
      callSteps 1 3 { minted := List.replicate Mfa.recoveryCodeCount ⟨[], "code"⟩ } ++
      [.happen 60, .accept (.verifyLoginCode 1 "100005")] ++ callSteps 2 3 {})

set_option maxRecDepth 100000 in
theorem steps_accepted_once_enrolled :
    Exists fun config => enrolled = some config ∧ config.world.log.length = 9 ∧
      (config.world.log.filterMap fun item => item.seen.command.offersStep) =
        [(1, 1, 35), (1, 1, 33)] ∧
      forall first second idTotp step, first ∈ config.world.log -> second ∈ config.world.log ->
        TimeSteps.Authenticates config.world.log first idTotp step ->
        TimeSteps.Authenticates config.world.log second idTotp step -> first = second := by
  have replayed : (enrolled.map fun config => (config.world.log.length,
      config.world.log.filterMap fun item => item.seen.command.offersStep)) =
      some (9, [(1, 1, 35), (1, 1, 33)]) := by decide
  rcases Option.map_eq_some_iff.mp replayed with ⟨config, played, same⟩
  simp only [Prod.mk.injEq] at same
  exact ⟨config, played, same.1, same.2,
    (TimeSteps.steps_accepted_once app (Config.play_reaches _ played)).2.2.1⟩

end Sample
end KrakenUi
