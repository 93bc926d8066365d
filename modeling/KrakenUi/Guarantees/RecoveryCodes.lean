import KrakenUi.Guarantees.TimeSteps
import KrakenUi.Models.RecoverySets

namespace KrakenUi

open Interaction Storage

/-!
# A recovery code is burned at most once

The codes that a login tries are read before they are opened, and the one that
matches is burned by number.  Meanwhile the set may have been replaced or
removed.  What ties the two steps together is the table: a burned row stays
burned, and a set that is replaced leaves no row of its operator behind whose
number was issued before.
-/

namespace Command

/-- The owner and the row of a command that burns a recovery code. -/
def burnsCode : Command -> Option (Int × Int)
  | consumeRecoveryCodeRow idUser idCode => some (idUser, idCode)
  | _ => none

end Command

namespace Console

/-- The transactions that change `operator_mfa_recovery_codes`. -/
def writesCodes : Command -> Bool
  | .deleteById _ | .confirmEnrollment _ _ _ | .disable _ | .regenerateRecoveryCodes _
  | .consumeRecoveryCodeRow _ _ => true
  | _ => false

theorem perform_codes {state next : State} {session held : Session} {command : Command}
    {reply : command.Reply} {draw : Draw} (spares : writesCodes command = false)
    (performed : perform state session command draw = some (reply, next, held)) :
    next.database.recoveryCodes = state.database.recoveryCodes := by
  cases writes : command.writesFactors with
  | false => exact (perform_factors writes performed).2
  | true =>
      cases command with
      | beginEnrollment idUser secret =>
          exact (Database.beginEnrollment_spec (commitUnit_some performed).1).2.2
      | consumeTotpStep idTotp idUser step =>
          rcases Database.consumeTotpStep_spec (commit_some performed).1 with ⟨updated, -⟩
          exact (Database.updateTotp_some updated).2.2
      | deleteById _ | confirmEnrollment _ _ _ | disable _ | regenerateRecoveryCodes _
      | consumeRecoveryCodeRow _ _ => cases spares
      | _ => cases writes

end Console

namespace RecoveryCodes

open TimeSteps (Item Flight direction accepted_of_returns now_verifyTotpCode)

variable {app : AppState}

def Burns (item : Item app) (idUser idCode : Int) : Prop :=
  item.seen = ⟨.consumeRecoveryCodeRow idUser idCode, true⟩

/-- The set of the operator was replaced, or removed together with its owner or
its second factor. -/
def Replaces (item : Item app) (idUser : Int) : Prop :=
  (Exists fun idTotp => Exists fun step => Exists fun codes : List String =>
    item.seen = ⟨.confirmEnrollment idTotp idUser step, some codes⟩) ∨
  (Exists fun codes : List String => item.seen = ⟨.regenerateRecoveryCodes idUser, some codes⟩) ∨
  item.seen = ⟨.disable idUser, ()⟩ ∨
  Exists fun removed => item.seen = ⟨.deleteById idUser, removed⟩

/-- A stored code that the call has read opens to the one that was submitted. -/
def CodeMatched (app : AppState) (items : List (Item app)) (idUser idCode : Int) (code : String) :
    Prop :=
  Exists fun rows => Exists fun row => Exists fun stored =>
    Saw items (.unusedRecoveryCodes idUser) rows ∧ row ∈ rows ∧ row.idCode = idCode ∧
      app.decryptSecret idUser Mfa.recoveryDomain row.encryptedCode = some stored ∧
      Mfa.normalizeRecovery stored = Mfa.normalizeRecovery code

/-- What a call must know before it burns a row. -/
def evidence (app : AppState) (flight : Flight app) (named : Int × Int) : Prop :=
  Exists fun code => flight.request = .verifyLoginCode named.1 code ∧
    CodeMatched app flight.own named.1 named.2 code

abbrev contract (app : AppState) : Contract (RepositoryCall.machine app) :=
  Contract.guarding Command.burnsCode (evidence app)

section Programs

variable {flight : Flight app} {idUser : Int} {code : String}

abbrev Plain (command : Command) : Prop := command.burnsCode = none

theorem plain_verifyTotpCode (secret : String) :
    (OperatorMfaRepository.verifyTotpCode app secret code).Only Plain := by
  apply (now_verifyTotpCode app secret code).mono
  rintro command rfl
  rfl

theorem keeps_burnMatching (asked : flight.request = .verifyLoginCode idUser code)
    {read : List RecoveryCode} (saw : Saw flight.own (.unusedRecoveryCodes idUser) read)
    (rows : List RecoveryCode) (among : rows ⊆ read) :
    Keeps (contract app)
      (OperatorMfaRepository.burnMatching app idUser (Mfa.normalizeRecovery code) rows) flight
      (fun _ _ => True) := by
  induction rows with
  | nil => exact Keeps.pure True.intro
  | cons row rest inductionHypothesis =>
      unfold OperatorMfaRepository.burnMatching
      cases decrypted : app.decryptSecret idUser Mfa.recoveryDomain row.encryptedCode with
      | none => exact Keeps.call (Contract.guarding_plain rfl flight) fun reply => reply.elim
      | some stored =>
          by_cases same : Mfa.normalizeRecovery stored = Mfa.normalizeRecovery code
          · simp only [same, if_true]
            apply Keeps.call
            · intro named burned
              cases burned
              exact ⟨code, asked, read, row, stored, saw, among List.mem_cons_self, rfl, decrypted,
                same⟩
            · intro reply after _
              exact Keeps.pure True.intro
          · simp only [same, if_false]
            apply inductionHypothesis
            intro other member
            exact among (List.mem_cons_of_mem _ member)

theorem keeps_consumeRecoveryCode (asked : flight.request = .verifyLoginCode idUser code) :
    Keeps (contract app) (OperatorMfaRepository.consumeRecoveryCode app idUser code) flight
      (fun _ _ => True) := by
  unfold OperatorMfaRepository.consumeRecoveryCode
  dsimp only
  split
  · exact Keeps.pure True.intro
  · apply Keeps.perform (Contract.guarding_plain rfl flight)
    intro rows looked follows
    exact keeps_burnMatching (follows.request.trans asked) follows.saw rows (List.Subset.refl rows)

theorem keeps_verifyLoginCode (asked : flight.request = .verifyLoginCode idUser code) :
    Keeps (contract app) (OperatorMfaRepository.verifyLoginCode app idUser code) flight
      (fun _ _ => True) := by
  unfold OperatorMfaRepository.verifyLoginCode
  apply Keeps.perform (Contract.guarding_plain rfl flight)
  intro row looked follows
  have asked' := follows.request.trans asked
  change Option TotpRow at row
  cases row.filter TotpRow.isConfirmed with
  | none => exact keeps_consumeRecoveryCode asked'
  | some stored =>
      dsimp only
      cases app.decryptSecret idUser Mfa.totpDomain stored.encryptedSecret with
      | none => exact Keeps.call (Contract.guarding_plain rfl looked) fun reply => reply.elim
      | some secret =>
          have verified : Keeps (contract app)
              (OperatorMfaRepository.verifyTotpCode app secret code) looked
              (fun _ after => after.request = .verifyLoginCode idUser code) := by
            apply (Keeps.only (fun before after => after.request = before.request)
              (fun _ => rfl) (fun one two => two.trans one)
              (fun flight command plain => Contract.guarding_plain plain flight)
              (fun _ follows => follows.request) (plain_verifyTotpCode secret) looked).mono
            intro _ after same
            exact same.trans asked'
          apply verified.bind
          rintro (_ | step) after asked''
          · exact keeps_consumeRecoveryCode asked''
          · by_cases used : step ≤ stored.lastUsedStep
            · simp only [used]
              exact Keeps.pure True.intro
            · simp only [used]
              apply Keeps.call (Contract.guarding_plain rfl after)
              intro reply last _
              exact Keeps.pure True.intro

end Programs

theorem plain_call {command : Command} (plain : Plain command) : (call command).Only Plain :=
  (Program.only_perform (S := console) Plain command).mpr plain

theorem plain_confirm (idUser : Int) (code : String) :
    (OperatorMfaRepository.confirm app idUser code).Only Plain := by
  unfold OperatorMfaRepository.confirm
  apply (plain_call rfl).bind
  intro row
  change Option TotpRow at row
  cases row with
  | none => exact Program.only_pure (S := console) Plain _
  | some row =>
      dsimp only
      split
      · exact Program.only_pure (S := console) Plain _
      · cases app.decryptSecret idUser Mfa.totpDomain row.encryptedSecret with
        | none => exact (Program.only_call (S := console) Plain _ _).mpr ⟨rfl, fun reply => reply.elim⟩
        | some secret =>
            apply (plain_verifyTotpCode secret).bind
            rintro (_ | step)
            · exact Program.only_pure (S := console) Plain _
            · apply (plain_call rfl).bind
              intro codes
              change Option (List String) at codes
              cases codes <;> exact Program.only_pure (S := console) Plain _

/-- Every call keeps the contract. -/
theorem obeys (app : AppState) : Obeys (contract app) (RepositoryCall.service app) := by
  intro world ticket request
  have settled : forall {α : Type} (program : Handler α) (flight : Flight app),
      Keeps (contract app) program flight (fun _ _ => True) ->
      Keeps (contract app) (program >>= fun _ => pure ()) flight (fun _ _ => True) :=
    fun _ _ keeps => keeps.bind fun _ _ _ => Keeps.pure True.intro
  cases request with
  | verifyLoginCode idUser code => exact settled _ _ (keeps_verifyLoginCode rfl)
  | confirm idUser code => exact settled _ _ (Keeps.plain (plain_confirm idUser code) _)
  | beginEnrollment idUser accountLabel =>
      apply settled _ _ (Keeps.plain _ _)
      exact (plain_call rfl).bind fun _ => (plain_call rfl).bind fun _ =>
        (plain_call rfl).bind fun _ => Program.only_pure (S := console) Plain _
  | disable idUser => exact Keeps.plain (plain_call rfl) _
  | regenerateRecoveryCodes idUser => exact settled _ _ (Keeps.plain (plain_call rfl) _)
  | createOperator input => exact settled _ _ (Keeps.plain (plain_call rfl) _)
  | deleteOperator idUser => exact settled _ _ (Keeps.plain (plain_call rfl) _)

/-! ## What an entry does to the codes -/

section Entries

variable {item : Item app} {idUser idCode : Int}

/-- A burned row was there, unused, and is used from then on. -/
theorem row_of_burns (genuine : item.Genuine) (burns : Burns item idUser idCode) :
    (Exists fun row => row ∈ item.before.database.recoveryCodes.rows ∧ row.idCode = idCode ∧
      row.idUser = idUser ∧ row.used = 0) ∧
    (Exists fun row => row ∈ item.after.database.recoveryCodes.rows ∧ row.idCode = idCode ∧
      row.used ≠ 0) := by
  rcases Console.performed_of_genuine genuine burns with ⟨draw, held, performed⟩
  rcases Database.consumeRecoveryCodeRow_spec (Console.commit_some performed).1 with
      ⟨updated, accepted⟩
  rcases accepted.mp rfl with ⟨row, member, selected⟩
  rcases Database.unusedCode_iff.mp selected with ⟨number, owner, unused⟩
  refine ⟨⟨row, member, number, owner, unused⟩, ?_⟩
  refine ⟨{ row with used := 1, usedAt := some item.before.now }, ?_, number, Int.one_ne_zero⟩
  apply (AutoTable.mem_updateWhere (Database.updateCodes_some updated).1).mpr
  exact ⟨row, member, by rw [if_pos selected]⟩

/-- The rows that a replaced set has are new ones. -/
theorem fresh_of_replaces (genuine : item.Genuine) (replaces : Replaces item idUser)
    {row : RecoveryCode} (member : row ∈ item.after.database.recoveryCodes.rows)
    (owner : row.idUser = idUser) :
    item.before.database.recoveryCodes.sequence < row.idCode := by
  rcases replaces with ⟨idTotp, step, codes, seen⟩ | ⟨codes, seen⟩ | seen | ⟨removed, seen⟩
  · rcases Console.performed_of_genuine genuine seen with ⟨draw, held, performed⟩
    exact Database.issued_confirmed (Console.commit_some performed).1 member owner
  · rcases Console.performed_of_genuine genuine seen with ⟨draw, held, performed⟩
    exact Database.issued_regenerated (Console.commit_some performed).1 member owner
  · rcases Console.performed_of_genuine genuine seen with ⟨draw, held, performed⟩
    have disabled := (Console.commitUnit_some performed).1
    exact absurd owner (((Database.disable_spec disabled).2.2 row).mp member).2
  · rcases Console.performed_of_genuine genuine seen with ⟨draw, held, performed⟩
    have deleted := Console.perform_deleteById performed
    rw [deleted] at member
    have foreign := (AutoTable.mem_deleteWhere.mp member).2
    exact absurd owner (of_decide_eq_false foreign)

/-- Nothing but a replacement or a burned code changes how many are left. -/
theorem remaining_of_entry {state next : State} {session held : Session} {command : Command}
    {reply : command.Reply} {draw : Draw}
    (performed : Console.perform state session command draw = some (reply, next, held))
    (seen : item.seen = ⟨command, reply⟩) :
    Replaces item idUser ∨
      ((Exists fun idCode => Burns item idUser idCode) ∧
        state.database.remainingRecoveryCount idUser =
          next.database.remainingRecoveryCount idUser + 1) ∨
      ((forall idCode, ¬ Burns item idUser idCode) ∧
        next.database.remainingRecoveryCount idUser =
          state.database.remainingRecoveryCount idUser) := by
  have untouched : command.burnsCode = none ->
      next.database.remainingRecoveryCount idUser =
        state.database.remainingRecoveryCount idUser ->
      Replaces item idUser ∨
        ((Exists fun idCode => Burns item idUser idCode) ∧
          state.database.remainingRecoveryCount idUser =
            next.database.remainingRecoveryCount idUser + 1) ∨
        ((forall idCode, ¬ Burns item idUser idCode) ∧
          next.database.remainingRecoveryCount idUser =
            state.database.remainingRecoveryCount idUser) := by
    intro plain same
    refine Or.inr (Or.inr ⟨?_, same⟩)
    intro idCode burns
    rw [Burns, seen] at burns
    cases burns
    cases plain
  cases writes : Console.writesCodes command with
  | false =>
      have same := @Database.remaining_of_codes state.database next.database idUser
        (Console.perform_codes writes performed)
      cases command with
      | consumeRecoveryCodeRow owner idCode => cases writes
      | _ => exact untouched rfl same
  | true =>
      cases command with
      | deleteById owner =>
          by_cases mine : idUser = owner
          · subst mine
            exact Or.inl (Or.inr (Or.inr (Or.inr ⟨reply, seen⟩)))
          · have deleted := Console.perform_deleteById performed
            apply untouched rfl
            rw [deleted]
            exact Database.remaining_deleteOperator mine
      | confirmEnrollment idTotp owner step =>
          have confirmed := (Console.commit_some performed).1
          change Option (List String) at reply
          cases reply with
          | none =>
              apply untouched rfl
              rw [Database.confirmEnrollment_none confirmed]
          | some codes =>
              by_cases mine : idUser = owner
              · subst mine
                exact Or.inl (Or.inl ⟨idTotp, step, codes, seen⟩)
              · exact untouched rfl (Database.remaining_confirmed confirmed mine)
      | disable owner =>
          by_cases mine : idUser = owner
          · subst mine
            exact Or.inl (Or.inr (Or.inr (Or.inl seen)))
          · exact untouched rfl
              (Database.remaining_disabled (Console.commitUnit_some performed).1 mine)
      | regenerateRecoveryCodes owner =>
          have regenerated := (Console.commit_some performed).1
          change Option (List String) at reply
          cases reply with
          | none =>
              apply untouched rfl
              rw [Database.regenerateRecoveryCodes_none regenerated]
          | some codes =>
              by_cases mine : idUser = owner
              · subst mine
                exact Or.inl (Or.inr (Or.inl ⟨codes, seen⟩))
              · exact untouched rfl (Database.remaining_regenerated regenerated mine)
      | consumeRecoveryCodeRow owner idCode =>
          have consumed := (Console.commit_some performed).1
          change Bool at reply
          cases reply with
          | false =>
              refine Or.inr (Or.inr ⟨?_, Database.remaining_refused consumed⟩)
              intro other burns
              rw [Burns, seen] at burns
              cases burns
          | true =>
              have left := @Database.remaining_burned _ _ _ _ _ idUser consumed
              by_cases mine : idUser = owner
              · subst mine
                rw [if_pos rfl] at left
                exact Or.inr (Or.inl ⟨⟨idCode, seen⟩, left⟩)
              · rw [if_neg mine, Nat.add_zero] at left
                refine Or.inr (Or.inr ⟨?_, left.symm⟩)
                intro other burns
                rw [Burns, seen] at burns
                cases burns
                exact mine rfl
      | _ => cases writes

end Entries

/-! ## Burned codes -/

/-- A row that was burned is not burned again later. -/
theorem burned_again {world : World (RepositoryCall.machine app)}
    (recorded : world.Recorded (direction app)) {first second : Item app} {idUser other idCode : Int}
    (firstMember : first ∈ world.log) (secondMember : second ∈ world.log)
    (one : Burns first idUser idCode) (two : Burns second other idCode)
    (earlier : first.moment < second.moment) : False := by
  rcases row_of_burns (recorded.genuine first firstMember) one with
      ⟨-, used, usedMember, usedNumber, spent⟩
  rcases row_of_burns (recorded.genuine second secondMember) two with
      ⟨⟨row, member, number, -, unused⟩, -⟩
  have later : State.Later first.after second.before :=
    recorded.between first second firstMember secondMember earlier
  have become := later.database.recoveryCodes.row usedMember member (usedNumber.trans number.symm)
  exact become.2.2 spent unused

/-- The row of a burned code held the code that its call had submitted. -/
theorem burned_with_code {world : World (RepositoryCall.machine app)}
    (recorded : world.Recorded (direction app)) (audited : (contract app).audited.Sound world)
    {item : Item app} {idUser idCode : Int} (member : item ∈ world.log)
    (burns : Burns item idUser idCode) :
    Exists fun row => Exists fun code => Exists fun stored =>
      row ∈ item.before.database.recoveryCodes.rows ∧ row.idCode = idCode ∧
        row.idUser = idUser ∧ row.used = 0 ∧ item.request = .verifyLoginCode idUser code ∧
        app.decryptSecret idUser Mfa.recoveryDomain row.encryptedCode = some stored ∧
        Mfa.normalizeRecovery stored = Mfa.normalizeRecovery code := by
  rcases audited item member with ⟨flight, permitted, request, among⟩
  have named : item.seen.command.burnsCode = some (idUser, idCode) := by
    rw [burns]
    rfl
  rcases permitted (idUser, idCode) named with
      ⟨code, asked, rows, read, stored, ⟨look, own, saw⟩, listed, number, decrypted, same⟩
  rcases among look own with ⟨inLog, -, before⟩
  rcases row_of_burns (recorded.genuine item member) burns with
      ⟨⟨row, rowMember, rowNumber, owner, unused⟩, -⟩
  have found : read ∈ look.before.database.recoveryCodes.rows := by
    rcases Console.performed_of_genuine (recorded.genuine look inLog) saw with
        ⟨draw, held, performed⟩
    have answered := (Console.perform_unusedRecoveryCodes performed).1
    rw [answered] at listed
    exact List.mem_of_mem_filter listed
  have later : State.Later look.before item.before :=
    Growth.before_before recorded inLog member before
  rcases later.database.recoveryCodes.row found rowMember (number.trans rowNumber.symm) with
      ⟨-, sealed, -⟩
  refine ⟨row, code, stored, rowMember, rowNumber, owner, unused, request.symm.trans asked, ?_, same⟩
  rw [sealed]
  exact decrypted

/-- When the set of the owner was replaced, the row had not been issued. -/
theorem issued_since {world : World (RepositoryCall.machine app)}
    (recorded : world.Recorded (direction app)) {replacement item : Item app} {idUser idCode : Int}
    (replaced : replacement ∈ world.log) (member : item ∈ world.log)
    (replaces : Replaces replacement idUser) (burns : Burns item idUser idCode)
    (earlier : replacement.moment < item.moment) {row : RecoveryCode}
    (rowMember : row ∈ replacement.before.database.recoveryCodes.rows) : row.idCode ≠ idCode := by
  intro number
  rcases row_of_burns (recorded.genuine item member) burns with
      ⟨⟨burned, burnedMember, burnedNumber, owner, -⟩, -⟩
  have issued : idCode ≤ replacement.before.database.recoveryCodes.sequence := by
    rw [← number]
    exact replacement.before.database.recoveryCodes.bounded row rowMember
  have grown : State.Later replacement.before replacement.after :=
    Growth.before_after recorded replaced
  have later : State.Later replacement.after item.before :=
    recorded.between replacement item replaced member earlier
  rcases later.database.recoveryCodes.2 burned burnedMember
      (Int.le_trans (Int.le_of_eq burnedNumber)
      (Int.le_trans issued grown.database.recoveryCodes.1)) with ⟨survivor, survived, same, become⟩
  have fresh := fresh_of_replaces (recorded.genuine replacement replaced) replaces survived
    (become.1.symm.trans owner)
  have numbered : survivor.idCode = burned.idCode := same
  omega

/-- Recovery codes are single-use and die with their set.  An accepted login has
consumed a step or burned a code; a row is burned once, by a call for its owner
that submitted its code, and after every replacement of its set that came
earlier it was not yet issued.  A burned code is one code less, and besides
that only replacements change how many are left. -/
theorem recoveryCodes_single_use (app : AppState) {state : State}
    {config : Config (RepositoryCall.machine app)}
    (reached : Reaches (RepositoryCall.service app) anyCommand (Config.idle state) config) :
    (forall ticket thread idUser code, config.threads ticket = some thread ->
      thread.flight.request = .verifyLoginCode idUser code ->
      (OperatorMfaRepository.verifyLoginCode app idUser code).Returns
        thread.flight.transcript true ->
      Exists fun newest => Exists fun older => thread.flight.own = newest :: older ∧
        ((Exists fun idTotp => Exists fun step =>
            newest.seen = ⟨.consumeTotpStep idTotp idUser step, true⟩) ∨
          Exists fun idCode => Burns newest idUser idCode)) ∧
    (forall first second idUser other idCode, first ∈ config.world.log ->
      second ∈ config.world.log -> Burns first idUser idCode -> Burns second other idCode ->
      first = second) ∧
    (forall item idUser idCode, item ∈ config.world.log -> Burns item idUser idCode ->
      (Exists fun row => Exists fun code => Exists fun stored =>
        row ∈ item.before.database.recoveryCodes.rows ∧ row.idCode = idCode ∧
          row.idUser = idUser ∧ row.used = 0 ∧ item.request = .verifyLoginCode idUser code ∧
          app.decryptSecret idUser Mfa.recoveryDomain row.encryptedCode = some stored ∧
          Mfa.normalizeRecovery stored = Mfa.normalizeRecovery code) ∧
      forall replacement, replacement ∈ config.world.log -> Replaces replacement idUser ->
        replacement.moment < item.moment ->
        forall row, row ∈ replacement.before.database.recoveryCodes.rows ->
          row.idCode ≠ idCode) ∧
    (forall action after idUser, config.act (RepositoryCall.service app) action = some after ->
      let left := fun moment : Config (RepositoryCall.machine app) =>
        moment.world.state.database.remainingRecoveryCount idUser
      (after.world.log = config.world.log ∧ left after = left config) ∨
      Exists fun item => after.world.log = item :: config.world.log ∧
        (Replaces item idUser ∨
          ((Exists fun idCode => Burns item idUser idCode) ∧ left config = left after + 1) ∨
          ((forall idCode, ¬ Burns item idUser idCode) ∧ left after = left config))) := by
  have recorded := ((direction app).journal_lasting (RepositoryCall.service app) anyCommand state
    config reached).1
  have audited := ((contract app).audited_lasting (direction app) (obeys app) anyCommand state
    config reached).1
  refine ⟨?_, ?_, ?_, ?_⟩
  · intro ticket thread idUser code _ _ returned
    rcases accepted_of_returns returned with ⟨earlier, last, ended, kind⟩
    rcases InFlight.newest_of_transcript ended with ⟨newest, older, own, seen⟩
    refine ⟨newest, older, own, ?_⟩
    unfold Burns
    rw [seen]
    exact kind
  · intro first second idUser other idCode firstMember secondMember one two
    rcases Nat.lt_trichotomy first.moment second.moment with earlier | same | later
    · exact absurd (burned_again recorded firstMember secondMember one two earlier) id
    · exact recorded.unique firstMember secondMember same
    · exact absurd (burned_again recorded secondMember firstMember two one later) id
  · intro item idUser idCode member burns
    have permitted := burned_with_code recorded audited member burns
    refine ⟨permitted, ?_⟩
    intro replacement replaced replaces earlier row rowMember number
    exact issued_since recorded replaced member replaces burns earlier rowMember number
  · intro action after idUser acted
    have moved := Config.act_moves (Config.meets_anyCommand config action) acted
    cases moved with
    | accept request => exact Or.inl ⟨rfl, rfl⟩
    | @step ticket draw flight command rest reply world advanced waiting meets executed =>
        rcases World.execute_some executed with ⟨next, held, performed, rfl, rfl⟩
        exact Or.inr ⟨_, rfl, remaining_of_entry performed rfl⟩
    | close waiting closed =>
        rcases World.close_some closed with ⟨next, place, finished, rfl⟩
        refine Or.inl ⟨rfl, ?_⟩
        dsimp only
        rw [Console.close_database finished]
    | drop ticket => exact Or.inl ⟨rfl, rfl⟩
    | happen happened =>
        rcases World.happen_some happened with ⟨next, passed, rfl⟩
        cases passed
        exact Or.inl ⟨rfl, rfl⟩

end RecoveryCodes

namespace Sample

def minted : List Database.MintedCode :=
  (List.range Mfa.recoveryCodeCount).map fun number =>
    ⟨[number], Mfa.generateRecoveryCode [number]⟩

/-- The administrator confirms an enrolment, and two logins that have both read
the codes try to burn the third one. -/
def burnedTwice : Option (Config (RepositoryCall.machine app)) :=
  (Config.idle state).play (RepositoryCall.service app)
    ([.accept (.beginEnrollment 1 "root")] ++ callSteps 0 3 { text := "seed" } ++
      [.accept (.confirm 1 "100003")] ++ callSteps 1 3 { minted := minted } ++
      [.accept (.verifyLoginCode 1 "c"), .accept (.verifyLoginCode 1 "c")] ++
      callSteps 2 2 {} ++ callSteps 3 2 {} ++ callSteps 3 1 {} ++ callSteps 2 1 {})

/-- The answers to the attempts at burning a code, newest first. -/
def burnAnswers (log : List (TimeSteps.Item app)) : List (Int × Bool) :=
  log.filterMap fun item =>
    match item.seen with
    | ⟨.consumeRecoveryCodeRow _ idCode, answer⟩ => some (idCode, answer)
    | _ => none

set_option maxRecDepth 100000 in
theorem recoveryCodes_single_use_burnedTwice :
    Exists fun config => burnedTwice = some config ∧
      burnAnswers config.world.log = [(3, false), (3, true)] ∧
      config.world.state.database.remainingRecoveryCount 1 = 9 ∧
      forall first second idUser other idCode, first ∈ config.world.log ->
        second ∈ config.world.log -> RecoveryCodes.Burns first idUser idCode ->
        RecoveryCodes.Burns second other idCode -> first = second := by
  have replayed : (burnedTwice.map fun config => (burnAnswers config.world.log,
      config.world.state.database.remainingRecoveryCount 1)) =
      some ([(3, false), (3, true)], 9) := by decide
  rcases Option.map_eq_some_iff.mp replayed with ⟨config, played, same⟩
  simp only [Prod.mk.injEq] at same
  exact ⟨config, played, same.1, same.2,
    (RecoveryCodes.recoveryCodes_single_use app (Config.play_reaches _ played)).2.1⟩

end Sample
end KrakenUi
