import KrakenUi.Guarantees.RecoveryCodes

namespace KrakenUi

open Interaction Storage

/-!
# A confirmation proves possession

`confirm` reads the pending row, opens its secret and compares the code before
its transaction starts.  The guard of the transaction is what ties the row that
is activated to the row that was read: a number is issued once and a row keeps
its secret, so a pending row with the number that was read is the one whose
secret was compared.
-/

namespace Database

variable {database after : Database} {now idTotp idUser step : Int} {minted : List MintedCode}
  {codes : List String}

/-- After a confirmation the operator has one row, the pending one made active. -/
theorem confirmed_row (confirmed : database.confirmEnrollment now idTotp idUser step minted =
      some (some codes, after)) :
    Exists fun pending => pending ∈ database.totp.rows ∧ pending.idTotp = idTotp ∧
      pending.idUser = idUser ∧ pending.confirmed = 0 ∧
      forall row, row ∈ after.totp.rows ∧ row.idUser = idUser ↔
        row = { pending with confirmed := 1, confirmedAt := some now, lastUsedStep := step } := by
  rcases confirmEnrollment_some confirmed with ⟨⟨pending, member, selected⟩, -⟩
  rcases pendingRow_iff.mp selected with ⟨number, owner, unconfirmed⟩
  refine ⟨pending, member, number, owner, unconfirmed, ?_⟩
  intro row
  constructor
  · rintro ⟨rowMember, mine⟩
    rcases (confirmed_rows confirmed).mp rowMember with ⟨old, oldMember, image⟩
    have same : old = pending := by
      have mine' : old.idUser = idUser := by
        rw [← image] at mine
        split at mine <;> exact mine
      apply database.totp.exclusive _ oldMember member
      · exact decide_eq_true (mine'.trans owner.symm)
      · intro first second
        exact decide_eq_decide.mpr eq_comm
    rw [← image, same, if_pos selected]
  · rintro rfl
    exact ⟨(confirmed_rows confirmed).mpr ⟨pending, member, if_pos selected⟩, owner⟩

/-- After a confirmation the operator is flagged and in a new epoch. -/
theorem confirmed_operator (confirmed : database.confirmEnrollment now idTotp idUser step minted =
      some (some codes, after)) :
    Exists fun old => database.findOperator idUser = some old ∧
      after.findOperator idUser = some { old with
        mfaEnabled := 1
        updatedAt := now
        authzVersion := old.authzVersion + 1 } := by
  rcases confirmEnrollment_some confirmed with
      ⟨⟨pending, member, selected⟩, activated, flagged, updated, flag, replaced⟩
  rcases pendingRow_iff.mp selected with ⟨-, owner, -⟩
  rcases database.totpOwned pending member with ⟨operator, operatorMember, same⟩
  have mine : operator.idUser = idUser := same.trans owner
  refine ⟨operator, findOperator_eq_some.mpr ⟨operatorMember, mine⟩, ?_⟩
  apply findOperator_eq_some.mpr
  refine ⟨?_, mine⟩
  rw [(replaceRecoveryCodes_spec replaced).2.2.2.1]
  apply ((changeOperator_spec flag).1 _).mpr
  refine ⟨operator, ?_, if_pos mine⟩
  rw [(updateTotp_some updated).2.1]
  exact operatorMember

/-- The codes that a confirmation returns and the ones it leaves in the table
were minted together. -/
theorem confirmed_codes (confirmed : database.confirmEnrollment now idTotp idUser step minted =
      some (some codes, after)) :
    minted.length = Mfa.recoveryCodeCount ∧
      codes = minted.map (fun code => Mfa.generateRecoveryCode code.bytes) ∧
      (after.unusedRecoveryCodes idUser).map RecoveryCode.encryptedCode =
        minted.map MintedCode.sealed := by
  rcases confirmEnrollment_some confirmed with ⟨-, activated, flagged, updated, flag, replaced⟩
  rcases replaceRecoveryCodes_rows replaced with ⟨complete, returned, -⟩
  exact ⟨complete, returned, unused_replaced replaced⟩

end Database

namespace Confirmation

open TimeSteps (Item Flight direction)

variable {app : AppState} {idUser : Int} {code : String}

/-- The code is the value of the row's secret at the step, one period at most
away from the second at which it was compared. -/
def Matches (app : AppState) (row : TotpRow) (idUser : Int) (code : String) (now step : Int) :
    Prop :=
  Exists fun secret => app.decryptSecret idUser Mfa.totpDomain row.encryptedSecret = some secret ∧
    Mfa.verifyTotpCode app.totpValue secret code now = some step

/-- The three calls of a confirmation that gets as far as its transaction. -/
def attempt (row : TotpRow) (idUser now step : Int) (codes : Option (List String)) :
    List (Observation console) :=
  [⟨.totpRow idUser, some row⟩, ⟨.now, now⟩, ⟨.confirmEnrollment row.idTotp idUser step, codes⟩]

def looks : Command -> Bool
  | .totpRow _ | .now => true
  | _ => false

/-- Calls that only look at the row or at the clock. -/
def Reads (transcript : List (Observation console)) : Prop :=
  forall seen, seen ∈ transcript -> looks seen.command = true

section Runs

variable {transcript : List (Observation console)}

theorem Reads.append {first second : List (Observation console)} (one : Reads first)
    (two : Reads second) : Reads (first ++ second) := by
  intro seen member
  rcases List.mem_append.mp member with earlier | later
  · exact one seen earlier
  · exact two seen later

theorem reads_nil : Reads [] := fun _ member => absurd member List.not_mem_nil

theorem reads_one {command : Command} {reply : command.Reply}
    (reads : looks command = true) : Reads [⟨command, reply⟩] := by
  intro seen member
  rw [List.mem_singleton.mp member]
  exact reads

theorem reads_verifyTotpCode {secret : String} {rest : Handler (Option Int)}
    (resumed : Program.Resumes (OperatorMfaRepository.verifyTotpCode app secret code)
      transcript rest) : Reads transcript := by
  intro seen member
  rw [← (TimeSteps.now_verifyTotpCode app secret code).transcript resumed seen member]
  rfl

/-- A step that the check returns is the one it found at the second it read. -/
theorem verifyTotpCode_returns {secret : String} {step : Int}
    (returned : (OperatorMfaRepository.verifyTotpCode app secret code).Returns transcript
      (some step)) :
    Exists fun now => transcript = [⟨.now, now⟩] ∧
      Mfa.verifyTotpCode app.totpValue secret code now = some step := by
  unfold OperatorMfaRepository.verifyTotpCode at returned
  unfold Mfa.verifyTotpCode
  cases parsed : Mfa.parseCode code with
  | none =>
      rw [parsed] at returned
      cases ((Program.returns_pure _ _ _).mp returned).2
  | some number =>
      rw [parsed] at returned
      cases derived : app.totpValue secret with
      | none =>
          simp only [derived] at returned
          cases ((Program.returns_pure _ _ _).mp returned).2
      | some value =>
          simp only [derived] at returned
          rcases @Console.returns_step _ Command.now _ _ _ returned with ⟨now, tail, rfl, ended⟩
          rcases (Program.returns_pure _ _ _).mp ended with ⟨rfl, same⟩
          exact ⟨now, rfl, same⟩

/-- However far a confirmation has got, it has only read, or it has made its
attempt with a code that matches the row it read. -/
theorem confirm_resumes {rest : Handler ConfirmOutcome}
    (resumed : Program.Resumes (OperatorMfaRepository.confirm app idUser code) transcript rest) :
    Reads transcript ∨
      Exists fun row => Exists fun now => Exists fun step => Exists fun codes =>
        transcript = attempt row idUser now step codes ∧ row.confirmed = 0 ∧
          Matches app row idUser code now step := by
  unfold OperatorMfaRepository.confirm at resumed
  rcases @Program.resumes_perform console _ (.totpRow idUser) _ _ _ resumed with
    rfl | ⟨row, tail, rfl, answered⟩
  · exact Or.inl reads_nil
  have looked : Reads [⟨.totpRow idUser, row⟩] := reads_one rfl
  change Option TotpRow at row
  cases row with
  | none =>
      rcases Program.resumes_done.mp answered with ⟨rfl, -⟩
      exact Or.inl looked
  | some row =>
      dsimp only at answered
      split at answered
      · rcases Program.resumes_done.mp answered with ⟨rfl, -⟩
        exact Or.inl looked
      · rename_i pending
        cases decrypted : app.decryptSecret idUser Mfa.totpDomain row.encryptedSecret with
        | none =>
            simp only [decrypted] at answered
            rcases Program.resumes_call.mp answered with ⟨rfl, -⟩ | ⟨reply, -⟩
            · exact Or.inl looked
            · exact reply.elim
        | some secret =>
            simp only [decrypted] at answered
            rcases Program.resumes_bind answered with
              ⟨checking, inside⟩ | ⟨first, second, verified, rfl, returned, after⟩
            · exact Or.inl (looked.append (reads_verifyTotpCode inside))
            · cases verified with
              | none =>
                  rcases Program.resumes_done.mp after with ⟨rfl, -⟩
                  rw [List.append_nil]
                  exact Or.inl (looked.append
                    (reads_verifyTotpCode (Program.resumes_to_done.mpr returned)))
              | some step =>
                  rcases verifyTotpCode_returns returned with ⟨now, rfl, verified⟩
                  rcases @Program.resumes_perform console _ (.confirmEnrollment row.idTotp idUser step)
                    _ _ _ after with rfl | ⟨codes, last, rfl, ended⟩
                  · exact Or.inl (looked.append (reads_one rfl))
                  · refine Or.inr ⟨row, now, step, codes, ?_, Classical.not_not.mp pending, secret,
                      decrypted, verified⟩
                    change Option (List String) at codes
                    cases codes <;>
                      (obtain ⟨rfl, -⟩ := Program.resumes_done.mp ended; rfl)

/-- The check finds the step if it reads this second. -/
theorem returns_of_matching {secret : String} {now step : Int}
    (verified : Mfa.verifyTotpCode app.totpValue secret code now = some step) :
    (OperatorMfaRepository.verifyTotpCode app secret code).Returns [⟨.now, now⟩] (some step) := by
  unfold Mfa.verifyTotpCode at verified
  unfold OperatorMfaRepository.verifyTotpCode
  cases parsed : Mfa.parseCode code with
  | none =>
      rw [parsed] at verified
      cases verified
  | some number =>
      rw [parsed] at verified
      cases derived : app.totpValue secret with
      | none =>
          rw [derived] at verified
          cases verified
      | some value =>
          rw [derived] at verified
          dsimp only at verified ⊢
          apply (Program.returns_call (S := console) Command.now _ _ _).mpr
          exact ⟨now, [], rfl, (Program.returns_pure _ _ _).mpr ⟨rfl, verified⟩⟩

/-- A confirmation succeeds exactly when its attempt gets the codes. -/
theorem confirm_returns {codes : List String} :
    (OperatorMfaRepository.confirm app idUser code).Returns transcript (.confirmed codes) ↔
      Exists fun row => Exists fun now => Exists fun step =>
        transcript = attempt row idUser now step (some codes) ∧ row.confirmed = 0 ∧
          Matches app row idUser code now step := by
  unfold OperatorMfaRepository.confirm
  constructor
  · intro returned
    rcases @Console.returns_step _ (.totpRow idUser) _ _ _ returned with ⟨row, tail, rfl, answered⟩
    change Option TotpRow at row
    cases row with
    | none => cases ((Program.returns_pure _ _ _).mp answered).2
    | some row =>
        dsimp only at answered
        split at answered
        · cases ((Program.returns_pure _ _ _).mp answered).2
        · rename_i pending
          cases decrypted : app.decryptSecret idUser Mfa.totpDomain row.encryptedSecret with
          | none =>
              simp only [decrypted] at answered
              rcases (Program.returns_call _ _ _ _).mp answered with ⟨reply, -⟩
              exact reply.elim
          | some secret =>
              simp only [decrypted] at answered
              rcases (Program.returns_bind _ _ _ _).mp answered with
                  ⟨first, second, verified, rfl, checked, ended⟩
              cases verified with
              | none => cases ((Program.returns_pure _ _ _).mp ended).2
              | some step =>
                  rcases verifyTotpCode_returns checked with ⟨now, rfl, verified⟩
                  rcases @Console.returns_step _ (.confirmEnrollment row.idTotp idUser step) _ _ _
                      ended with ⟨answer, last, rfl, done⟩
                  change Option (List String) at answer
                  cases answer with
                  | none => cases ((Program.returns_pure _ _ _).mp done).2
                  | some answer =>
                      rcases (Program.returns_pure _ _ _).mp done with ⟨rfl, same⟩
                      cases same
                      exact ⟨row, now, step, rfl, Classical.not_not.mp pending, secret, decrypted,
                        verified⟩
  · rintro ⟨row, now, step, rfl, pending, secret, decrypted, verified⟩
    apply (Program.returns_call (S := console) (.totpRow idUser) _ _ _).mpr
    refine ⟨some row, _, rfl, ?_⟩
    change Program.Returns (if row.confirmed ≠ 0 then _ else _) _ _
    rw [if_neg (Classical.not_not.mpr pending)]
    simp only [decrypted]
    apply (Program.returns_bind _ _ _ _).mpr
    refine ⟨[⟨.now, now⟩], _, some step, rfl, returns_of_matching verified, ?_⟩
    apply (Program.returns_call (S := console) (.confirmEnrollment row.idTotp idUser step) _ _ _).mpr
    exact ⟨some codes, [], rfl, (Program.returns_pure _ _ _).mpr ⟨rfl, rfl⟩⟩

end Runs

/-- What a committed confirmation makes of the three tables, if `encrypt_secret`
sealed the codes that were drawn. -/
structure Activated (app : AppState) (idUser : Int) (read : TotpRow) (step : Int)
    (codes : List String) (item : Item app) : Prop where
  row : Exists fun stored : TotpRow =>
    (forall row, row ∈ item.after.database.totp.rows ∧ row.idUser = idUser ↔ row = stored) ∧
      stored.idTotp = read.idTotp ∧ stored.encryptedSecret = read.encryptedSecret ∧
      stored.confirmed = 1 ∧ stored.lastUsedStep = step
  operator : Exists fun old => Exists fun new =>
    item.before.database.findOperator idUser = some old ∧
      item.after.database.findOperator idUser = some new ∧
      new.mfaEnabled = 1 ∧ new.authzVersion = old.authzVersion + 1
  ten : codes.length = 10
  codes : forall (draw : Draw) held,
    Console.perform item.before item.held item.seen.command draw =
      some (item.seen.reply, item.after, held) ->
    (forall minted, minted ∈ draw.minted ->
      app.decryptSecret idUser Mfa.recoveryDomain minted.sealed =
        some (Mfa.generateRecoveryCode minted.bytes)) ->
    (item.after.database.unusedRecoveryCodes idUser).map
        (fun row => app.decryptSecret idUser Mfa.recoveryDomain row.encryptedCode) =
      codes.map some

section Entries

variable {item : Item app} {idTotp step : Int}

theorem unchanged_of_looks (genuine : item.Genuine) (reads : looks item.seen.command = true) :
    item.after = item.before := by
  rcases seen : item.seen with ⟨command, reply⟩
  rw [seen] at reads
  rcases Console.performed_of_genuine genuine seen with ⟨draw, held, performed⟩
  cases command with
  | totpRow idUser => exact (Console.perform_totpRow performed).2
  | now => exact (Console.perform_now performed).2
  | _ => cases reads

/-- A transaction that found the row gone, replaced or confirmed is rolled back. -/
theorem unchanged_of_refused (genuine : item.Genuine)
    (seen : item.seen = ⟨.confirmEnrollment idTotp idUser step, (none : Option (List String))⟩) :
    item.after = item.before := by
  rcases Console.performed_of_genuine genuine seen with ⟨draw, held, performed⟩
  rcases Console.commit_some performed with ⟨stored, after, -⟩
  rw [after, Database.confirmEnrollment_none stored]

theorem activated_of_commit {codes : List String} {read : TotpRow} (genuine : item.Genuine)
    (seen : item.seen = ⟨.confirmEnrollment read.idTotp idUser step, some codes⟩)
    (secret : forall row, row ∈ item.before.database.totp.rows -> row.idTotp = read.idTotp ->
      row.encryptedSecret = read.encryptedSecret) : Activated app idUser read step codes item := by
  rcases Console.performed_of_genuine genuine seen with ⟨draw, held, performed⟩
  have committed := (Console.commit_some performed).1
  rcases Database.confirmed_row committed with ⟨pending, member, number, -, -, only⟩
  rcases Database.confirmed_operator committed with ⟨old, before, after⟩
  rcases Database.confirmed_codes committed with ⟨complete, returned, -⟩
  constructor
  · exact ⟨_, only, number, secret pending member number, rfl, rfl⟩
  · exact ⟨old, _, before, after, rfl, rfl⟩
  · rw [returned, List.length_map]
    exact complete
  · intro drawn left again sealed
    rw [seen] at again
    rcases Database.confirmed_codes (Console.commit_some again).1 with ⟨-, minted, unused⟩
    have opened := congrArg (List.map (app.decryptSecret idUser Mfa.recoveryDomain)) unused
    rw [List.map_map, List.map_map] at opened
    rw [minted, List.map_map]
    apply opened.trans
    apply List.map_congr_left
    intro code among
    exact sealed code among

end Entries

/-- The three entries of an attempt. -/
theorem own_of_attempt {flight : Flight app} {row : TotpRow} {now step : Int}
    {answer : Option (List String)} (whole : flight.transcript = attempt row idUser now step answer) :
    Exists fun reading => Exists fun clock => Exists fun committed =>
      flight.own = [committed, clock, reading] ∧ reading.seen = ⟨.totpRow idUser, some row⟩ ∧
        clock.seen = ⟨.now, now⟩ ∧
        committed.seen = ⟨.confirmEnrollment row.idTotp idUser step, answer⟩ := by
  unfold InFlight.transcript attempt at whole
  rcases List.map_eq_cons_iff.mp whole with ⟨reading, rest, reversed, readingSeen, whole⟩
  rcases List.map_eq_cons_iff.mp whole with ⟨clock, rest, rfl, clockSeen, whole⟩
  rcases List.map_eq_cons_iff.mp whole with ⟨committed, rest, rfl, committedSeen, whole⟩
  rw [List.map_eq_nil_iff.mp whole] at reversed
  refine ⟨reading, clock, committed, ?_, readingSeen, clockSeen, committedSeen⟩
  exact List.reverse_eq_iff.mp reversed

/-- Of two confirmations that succeeded, neither was made on the other's row. -/
theorem confirmed_again {world : World (RepositoryCall.machine app)}
    (recorded : world.Recorded (direction app)) {first second : Item app}
    {idTotp idUser other step later : Int} {codes others : List String}
    (firstMember : first ∈ world.log) (secondMember : second ∈ world.log)
    (one : first.seen = ⟨.confirmEnrollment idTotp idUser step, some codes⟩)
    (two : second.seen = ⟨.confirmEnrollment idTotp other later, some others⟩)
    (earlier : first.moment < second.moment) : False := by
  rcases TimeSteps.row_of_accepts (recorded.genuine first firstMember) ⟨idUser, Or.inr ⟨codes, one⟩⟩
      with ⟨-, active, activeMember, activeNumber, confirmed, -⟩
  rcases Console.performed_of_genuine (recorded.genuine second secondMember) two with
      ⟨draw, held, performed⟩
  rcases Database.confirmed_row (Console.commit_some performed).1 with
      ⟨pending, member, number, -, unconfirmed, -⟩
  have between : State.Later first.after second.before :=
    recorded.between first second firstMember secondMember earlier
  rcases between.database.totp.row activeMember member (activeNumber.trans number.symm) with
      ⟨-, -, steady⟩
  have still := (steady (by rw [confirmed]; exact Int.one_ne_zero)).1
  rw [unconfirmed, confirmed] at still
  cases still

/-- A confirmation proves possession of the secret it activates.  A row is
confirmed once.  A call that succeeds has compared the code with the secret of
the row that its transaction made the operator's only and active one, and any
other call has changed nothing. -/
theorem confirmation_proves_possession (app : AppState) {state : State}
    {config : Config (RepositoryCall.machine app)}
    (reached : Reaches (RepositoryCall.service app) anyCommand (Config.idle state) config) :
    (forall (first second : Item app) idTotp idUser other step later (codes others : List String),
      first ∈ config.world.log -> second ∈ config.world.log ->
      first.seen = ⟨.confirmEnrollment idTotp idUser step, some codes⟩ ->
      second.seen = ⟨.confirmEnrollment idTotp other later, some others⟩ -> first = second) ∧
    (forall ticket thread idUser code, config.threads ticket = some thread ->
      thread.flight.request = .confirm idUser code ->
      let outcome := (OperatorMfaRepository.confirm app idUser code).Returns
        thread.flight.transcript
      (forall codes, outcome (.confirmed codes) ->
        Exists fun row => Exists fun now => Exists fun step =>
        Exists fun reading => Exists fun clock => Exists fun committed =>
          thread.flight.own = [committed, clock, reading] ∧
            reading.before.database.totpRow idUser = some row ∧ clock.before.now = now ∧
            Matches app row idUser code now step ∧
            committed.seen = ⟨.confirmEnrollment row.idTotp idUser step, some codes⟩ ∧
            Activated app idUser row step codes committed) ∧
      ((¬ Exists fun codes => outcome (.confirmed codes)) ->
        forall item, item ∈ thread.flight.own -> item.after = item.before)) := by
  rcases (direction app).journal_lasting (RepositoryCall.service app) anyCommand state config
      reached with ⟨recorded, flights⟩
  refine ⟨?_, ?_⟩
  · intro first second idTotp idUser other step later codes others firstMember secondMember one two
    rcases Nat.lt_trichotomy first.moment second.moment with earlier | same | afterwards
    · exact (confirmed_again recorded firstMember secondMember one two earlier).elim
    · exact recorded.unique firstMember secondMember same
    · exact (confirmed_again recorded secondMember firstMember two one afterwards).elim
  · intro ticket thread idUser code running asked
    have fits := flights ticket thread running
    have genuine : forall item, item ∈ thread.flight.own -> item.Genuine :=
      fun item own => recorded.genuine item (fits.own item own)
    refine ⟨?_, ?_⟩
    · intro codes returned
      rcases confirm_returns.mp returned with ⟨row, now, step, whole, -, matching⟩
      rcases own_of_attempt whole with
          ⟨reading, clock, committed, own, readingSeen, clockSeen, committedSeen⟩
      have readingOwn : reading ∈ thread.flight.own := by simp [own]
      have clockOwn : clock ∈ thread.flight.own := by simp [own]
      have committedOwn : committed ∈ thread.flight.own := by simp [own]
      have read := Console.totp_read (genuine reading readingOwn) readingSeen
      refine ⟨row, now, step, reading, clock, committed, own, read,
        Console.clock_read (genuine clock clockOwn) clockSeen, matching, committedSeen, ?_⟩
      apply activated_of_commit (genuine committed committedOwn) committedSeen
      intro stored member number
      have order := fits.ordered
      rw [own] at order
      have earlier : reading.moment < committed.moment :=
        (List.pairwise_cons.mp order).1 reading (by simp)
      have later : State.Later reading.before committed.before :=
        Growth.before_before recorded (fits.own reading readingOwn)
          (fits.own committed committedOwn) earlier
      exact (later.database.totp.row (Database.totpRow_eq_some.mp read).1 member number.symm).2.1
    · intro refused item own
      have resumed := Config.resumed (fun _ => rfl) reached running
      rw [asked] at resumed
      rcases Program.resumes_discard resumed with ⟨rest, inside⟩
      rcases confirm_resumes inside with reads | ⟨row, now, step, answer, whole, pending, matching⟩
      · apply unchanged_of_looks (genuine item own)
        exact reads item.seen (List.mem_map_of_mem (List.mem_reverse.mpr own))
      · cases answer with
        | some codes =>
            exact (refused ⟨codes, confirm_returns.mpr
              ⟨row, now, step, whole, pending, matching⟩⟩).elim
        | none =>
            rcases own_of_attempt whole with
                ⟨reading, clock, committed, entries, readingSeen, clockSeen, committedSeen⟩
            have among := own
            rw [entries] at among
            simp only [List.mem_cons, List.not_mem_nil, or_false] at among
            rcases among with rfl | rfl | rfl
            · exact unchanged_of_refused (genuine _ own) committedSeen
            · exact unchanged_of_looks (genuine _ own) (by rw [clockSeen]; rfl)
            · exact unchanged_of_looks (genuine _ own) (by rw [readingSeen]; rfl)

end Confirmation

namespace Sample

/-- The administrator enrols, and the code of step 33 confirms the enrolment. -/
def confirmedEnrollment : Option (Config (RepositoryCall.machine app)) :=
  (Config.idle state).play (RepositoryCall.service app)
    ([.accept (.beginEnrollment 1 "root")] ++ callSteps 0 3 { text := "seed" } ++
      [.accept (.confirm 1 "100003")] ++ callSteps 1 3 { minted := minted })

set_option maxRecDepth 100000 in
theorem confirmation_proves_possession_confirmed :
    Exists fun config => Exists fun thread : Thread (RepositoryCall.machine app) =>
      confirmedEnrollment = some config ∧ config.threads 1 = some thread ∧
        Exists fun row => Exists fun now => Exists fun step => Exists fun committed =>
          thread.flight.own.head? = some committed ∧
            Confirmation.Matches app row 1 "100003" now step ∧
            Confirmation.Activated app 1 row step
              (minted.map fun code => Mfa.generateRecoveryCode code.bytes) committed := by
  have replayed : (confirmedEnrollment.bind fun config => (config.threads 1).map fun thread =>
      ((OperatorMfaRepository.confirm app 1 "100003").replay thread.flight.transcript,
        match thread.flight.request with
        | .confirm idUser code => some (idUser, code)
        | _ => none)) =
      some (some (.confirmed (minted.map fun code => Mfa.generateRecoveryCode code.bytes)),
        some (1, "100003")) := by decide
  rcases Option.bind_eq_some_iff.mp replayed with ⟨config, played, found⟩
  rcases Option.map_eq_some_iff.mp found with ⟨thread, running, same⟩
  simp only [Prod.mk.injEq] at same
  have asked : thread.flight.request = .confirm 1 "100003" := by
    have request := same.2
    split at request
    · rename_i idUser code asked
      cases request
      exact asked
    · cases request
  have returned := (Program.replay_eq_some (OperatorMfaRepository.confirm app 1 "100003") _ _).mp
    same.1
  rcases ((Confirmation.confirmation_proves_possession app (Config.play_reaches _ played)).2 1
      thread 1 "100003" running asked).1 _ returned with
      ⟨row, now, step, reading, clock, committed, own, -, -, matching, -, activated⟩
  exact ⟨config, thread, played, running, row, now, step, committed, by rw [own]; rfl, matching,
    activated⟩

end Sample
end KrakenUi
