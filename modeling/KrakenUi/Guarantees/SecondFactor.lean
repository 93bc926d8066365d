import KrakenUi.Guarantees.Authentication
import KrakenUi.Models.Agreement

namespace KrakenUi

open Interaction Storage

/-!
# Two-factor under concurrent requests

The decision that a code is owed, the check that two-factor is off, and the
transaction that removes the stored row are different calls.  A confirmation
that commits between them is what goes wrong, and it is all that goes wrong.
Runs without such a confirmation keep the three tables in agreement, and they
only switch two-factor off for a request that has consumed a code of the
enrolment it removes.
-/

namespace Console

variable {app : AppState} {world : World (machine app)} {flight : Flight app}
  {state next : State} {session held : Session} {command : Command} {reply : command.Reply}
  {draw : Draw} {idUser : Int}

/-! ## The tables agree -/

/-- Every enrolment of the run replaces no confirmed row. -/
def replacesNothing : Condition (machine app) := fun world _ command =>
  forall idUser encryptedSecret, command = .beginEnrollment idUser encryptedSecret ->
    world.state.database.isEnabled idUser = false

theorem agrees_perform (agrees : state.database.MfaAgrees)
    (fresh : forall idUser encryptedSecret, command = .beginEnrollment idUser encryptedSecret ->
      state.database.isEnabled idUser = false)
    (performed : perform state session command draw = some (reply, next, held)) :
    next.database.MfaAgrees := by
  cases writes : command.writesDatabase with
  | false =>
      rw [perform_database writes performed]
      exact agrees
  | true =>
      cases command with
      | create input => exact Database.agrees_create agrees (commit_some performed).1
      | update idUser input hash =>
          exact Database.agrees_changeOperator agrees
            (Database.changeAndLoad_spec (commit_some performed).1).1 fun _ => rfl
      | updatePassword idUser hash =>
          exact Database.agrees_changeOperator agrees
            (Database.changeAndLoad_spec (commit_some performed).1).1 fun _ => rfl
      | storeEncryptedPassword idUser hash =>
          exact Database.agrees_changeOperator agrees
            (Database.storeEncryptedPassword_spec (commitUnit_some performed).1) fun _ => rfl
      | recordAuthenticationTimestamp idUser column =>
          refine Database.agrees_changeOperator agrees (commitUnit_some performed).1 ?_
          intro operator
          cases column <;> rfl
      | deleteById idUser =>
          have removed := perform_deleteById performed
          rw [removed]
          exact Database.agrees_deleteOperator agrees idUser
      | beginEnrollment idUser secret =>
          exact (Database.agrees_beginEnrollment agrees (commitUnit_some performed).1).mpr
            (fresh idUser secret rfl)
      | confirmEnrollment idTotp idUser step =>
          exact Database.agrees_confirmEnrollment agrees (commit_some performed).1
      | disable idUser => exact Database.agrees_disable agrees (commitUnit_some performed).1
      | regenerateRecoveryCodes idUser =>
          exact Database.agrees_regenerateRecoveryCodes agrees (commit_some performed).1
      | consumeTotpStep idTotp idUser step =>
          exact Database.agrees_consumeTotpStep agrees (commit_some performed).1
      | consumeRecoveryCodeRow idUser idCode =>
          exact Database.agrees_consumeRecoveryCodeRow agrees (commit_some performed).1
      | _ => cases writes

/-- The tables agree all along a run exactly when each of its enrolments
replaces no confirmed row. -/
theorem mfaTables_agree {state : State} (agrees : state.database.MfaAgrees)
    {config : Config (machine app)} :
    Stays (service app) anyCommand (fun config => config.world.state.database.MfaAgrees)
        (Config.idle state) config ↔
      Reaches (service app) replacesNothing (Config.idle state) config := by
  constructor
  · intro stayed
    induction stayed with
    | here _ => exact Reaches.here
    | next action stayed meets acted within inductionHypothesis =>
        refine inductionHypothesis.next action ?_ acted
        cases action with
        | step ticket draw =>
            intro flight command rest waiting idUser secret begins
            subst begins
            simp only [Config.act, waiting] at acted
            cases executed : World.execute _ flight (.beginEnrollment idUser secret) draw with
            | none =>
                rw [executed] at acted
                cases acted
            | some result =>
                rcases result with ⟨reply, world, advanced⟩
                rw [executed] at acted
                cases acted
                rcases World.execute_some executed with ⟨state, held, performed, rfl, rfl⟩
                exact (Database.agrees_beginEnrollment stayed.last
                  (commitUnit_some performed).1).mp within
        | _ => exact True.intro
  · intro reached
    have kept : Invariant.trivial.Kept (storing app Database.MfaAgrees) freely
        replacesNothing := by
      apply storing_kept
      intro world flight command draw reply after held sound _ fresh performed
      exact agrees_perform sound fresh performed
    have initial : (storing app Database.MfaAgrees).Sound (Config.idle state).world := agrees
    have always := kept.lasting (obeys_freely (service app)) (fun _ => rfl)
      Invariant.lasting_trivial initial
    induction reached with
    | here => exact Stays.here agrees
    | next action reached meets acted inductionHypothesis =>
        exact inductionHypothesis.next action (Config.meets_anyCommand _ action) acted
          (always _ (reached.next action meets acted)).1

/-! ## What can happen to a confirmed row -/

/-- The transactions that change `operator_mfa_totp`. -/
def writesTotp : Command -> Bool
  | .deleteById _ | .beginEnrollment _ _ | .confirmEnrollment _ _ _ | .disable _
  | .consumeTotpStep _ _ _ => true
  | _ => false

/-- The operator whose row is replaced or removed while the account stays. -/
def removesRow : Command -> Option Int
  | .beginEnrollment idUser _ | .disable idUser => some idUser
  | _ => none

theorem perform_totp (spares : writesTotp command = false)
    (performed : perform state session command draw = some (reply, next, held)) :
    next.database.totp = state.database.totp := by
  cases writes : command.writesFactors with
  | false => exact (perform_factors writes performed).1
  | true =>
      cases command with
      | regenerateRecoveryCodes idUser =>
          have regenerated := (commit_some performed).1
          change Option (List String) at reply
          cases reply with
          | none => rw [Database.regenerateRecoveryCodes_none regenerated]
          | some codes =>
              rcases Database.regenerateRecoveryCodes_some regenerated with
                  ⟨-, replaced, stored, bumped⟩
              exact (Database.changeOperator_spec bumped).2.2.1.trans
                (Database.replaceRecoveryCodes_spec stored).2.2.2.2
      | consumeRecoveryCodeRow idUser idCode =>
          rcases Database.consumeRecoveryCodeRow_spec (commit_some performed).1 with ⟨updated, -⟩
          exact (Database.updateCodes_some updated).2.2
      | deleteById _ | beginEnrollment _ _ | confirmEnrollment _ _ _ | disable _
      | consumeTotpStep _ _ _ => cases spares
      | _ => cases writes

/-- A confirmed row was confirmed before, or this is its confirmation. -/
theorem confirmed_origin
    (performed : perform state session command draw = some (reply, next, held)) {row : TotpRow}
    (member : row ∈ next.database.totp.rows) (confirmed : row.confirmed ≠ 0) :
    (Exists fun old => old ∈ state.database.totp.rows ∧ old.idTotp = row.idTotp ∧
        old.idUser = row.idUser ∧ old.confirmed ≠ 0) ∨
      Exists fun step => Exists fun codes : List String =>
        (⟨command, reply⟩ : Observation console) =
          ⟨.confirmEnrollment row.idTotp row.idUser step, some codes⟩ := by
  cases writes : writesTotp command with
  | false =>
      rw [perform_totp writes performed] at member
      exact Or.inl ⟨row, member, rfl, rfl, confirmed⟩
  | true =>
      cases command with
      | deleteById idUser =>
          have removed := perform_deleteById performed
          rw [removed] at member
          exact Or.inl ⟨row, (AutoTable.mem_deleteWhere.mp member).1, rfl, rfl, confirmed⟩
      | beginEnrollment idUser secret =>
          rcases ((Database.beginEnrollment_spec (commitUnit_some performed).1).1 row).mp member
            with ⟨old, -⟩ | rfl
          · exact Or.inl ⟨row, old, rfl, rfl, confirmed⟩
          · exact absurd rfl confirmed
      | confirmEnrollment idTotp idUser step =>
          have transaction := (commit_some performed).1
          change Option (List String) at reply
          cases reply with
          | none =>
              rw [Database.confirmEnrollment_none transaction] at member
              exact Or.inl ⟨row, member, rfl, rfl, confirmed⟩
          | some codes =>
              rcases (Database.confirmed_rows transaction).mp member with ⟨old, oldMember, image⟩
              by_cases pending : Database.pendingRow idTotp idUser old = true
              · rcases Database.pendingRow_iff.mp pending with ⟨number, owner, -⟩
                rw [if_pos pending] at image
                subst image
                subst number owner
                exact Or.inr ⟨step, codes, rfl⟩
              · rw [if_neg pending] at image
                subst image
                exact Or.inl ⟨old, oldMember, rfl, rfl, confirmed⟩
      | disable idUser =>
          have old := ((Database.disable_spec (commitUnit_some performed).1).2.1 row).mp member
          exact Or.inl ⟨row, old.1, rfl, rfl, confirmed⟩
      | consumeTotpStep idTotp idUser step =>
          rcases Database.consumeTotpStep_spec (commit_some performed).1 with ⟨updated, -⟩
          rcases (AutoTable.mem_updateWhere (Database.updateTotp_some updated).1).mp member with
              ⟨old, oldMember, rfl⟩
          refine Or.inl ⟨old, oldMember, ?_, ?_, ?_⟩
          · split <;> rfl
          · split <;> rfl
          · split at confirmed <;> exact confirmed
      | _ => cases writes

/-- Only an enrolment, a disabling or the deletion of the account removes a
confirmed row. -/
theorem confirmed_kept
    (performed : perform state session command draw = some (reply, next, held)) {row : TotpRow}
    (member : row ∈ state.database.totp.rows) (confirmed : row.confirmed ≠ 0)
    (stays : removesRow command ≠ some row.idUser)
    (account : command ≠ .deleteById row.idUser) :
    next.database.isEnabled row.idUser = true := by
  apply Database.isEnabled_iff.mpr
  cases writes : writesTotp command with
  | false =>
      rw [perform_totp writes performed]
      exact ⟨row, member, rfl, confirmed⟩
  | true =>
      cases command with
      | deleteById idUser =>
          have removed := perform_deleteById performed
          rw [removed]
          refine ⟨row, AutoTable.mem_deleteWhere.mpr ⟨member, ?_⟩, rfl, confirmed⟩
          apply decide_eq_false
          intro same
          rw [same] at account
          exact account rfl
      | beginEnrollment idUser secret =>
          refine ⟨row, ((Database.beginEnrollment_spec (commitUnit_some performed).1).1 row).mpr
            (Or.inl ⟨member, ?_⟩), rfl, confirmed⟩
          intro same
          rw [same] at stays
          exact stays rfl
      | confirmEnrollment idTotp idUser step =>
          have transaction := (commit_some performed).1
          change Option (List String) at reply
          cases reply with
          | none =>
              rw [Database.confirmEnrollment_none transaction]
              exact ⟨row, member, rfl, confirmed⟩
          | some codes =>
              refine ⟨row, (Database.confirmed_rows transaction).mpr ⟨row, member, if_neg ?_⟩, rfl, confirmed⟩
              intro pending
              exact confirmed (Database.pendingRow_iff.mp pending).2.2
      | disable idUser =>
          refine ⟨row, ((Database.disable_spec (commitUnit_some performed).1).2.1 row).mpr
            ⟨member, ?_⟩, rfl, confirmed⟩
          intro same
          rw [same] at stays
          exact stays rfl
      | consumeTotpStep idTotp idUser step =>
          rcases Database.consumeTotpStep_spec (commit_some performed).1 with ⟨updated, -⟩
          refine ⟨_, (AutoTable.mem_updateWhere (Database.updateTotp_some updated).1).mpr
            ⟨row, member, rfl⟩, ?_, ?_⟩
          · split <;> rfl
          · split <;> exact confirmed
      | _ => cases writes

/-! ## No downgrade -/

/-- The entry switched two-factor of the account on. -/
def Confirms (item : Item app) (idUser : Int) : Prop :=
  Exists fun idTotp => Exists fun step => Exists fun codes : List String =>
    item.seen = ⟨.confirmEnrollment idTotp idUser step, some codes⟩

/-- The entry switched two-factor off and left the account. -/
def Downgrades (item : Item app) (idUser : Int) : Prop :=
  item.before.database.isEnabled idUser = true ∧ item.after.database.isEnabled idUser = false ∧
    (item.after.database.findOperator idUser).isSome = true

/-- The request of the entry had consumed a code of the enrolment that the
entry removes. -/
def Vindicated (log : List (Item app)) (item : Item app) (idUser : Int) : Prop :=
  Exists fun factor => factor ∈ log ∧ factor.ticket = item.ticket ∧ factor.moment < item.moment ∧
    SecondFactor factor idUser ∧ Exists fun used => Exists fun removed =>
      factor.before.database.totpRow idUser = some used ∧ used.isConfirmed = true ∧
        item.before.database.totpRow idUser = some removed ∧ used.idTotp = removed.idTotp

/-- Where two-factor is on when a row is removed or replaced, no confirmation
of the operator has committed since the request last looked. -/
def undisturbed : Condition (machine app) := fun world flight command =>
  forall idUser, removesRow command = some idUser ->
    world.state.database.isEnabled idUser = true ->
    forall confirmation, confirmation ∈ world.log -> Confirms confirmation idUser ->
      Exists fun look => look ∈ flight.own ∧ look.seen.command.looksAtFactor = true ∧
        confirmation.moment < look.moment

/-- A row that is confirmed now was confirmed at each earlier moment, or its
confirmation has been written down since. -/
def confirmedSince (app : AppState) : Invariant (machine app) where
  Sound := fun world => forall item, item ∈ world.log ->
    forall row, row ∈ world.state.database.totp.rows -> row.confirmed ≠ 0 ->
      (Exists fun confirmation => confirmation ∈ world.log ∧ Confirms confirmation row.idUser ∧
        item.moment ≤ confirmation.moment) ∨
      Exists fun old => old ∈ item.before.database.totp.rows ∧ old.idTotp = row.idTotp ∧
        old.idUser = row.idUser ∧ old.confirmed ≠ 0
  Fits := fun _ _ => True

theorem confirmedSince_record (recorded : world.Recorded (growth app))
    (sound : (confirmedSince app).Sound world) {after : State}
    (performed : perform world.state flight.held command draw = some (reply, after, held)) :
    (confirmedSince app).Sound (world.record (flight.entry world command reply after)) := by
  intro item member row rowMember confirmed
  change row ∈ after.database.totp.rows at rowMember
  rcases confirmed_origin performed rowMember confirmed with
    ⟨old, oldMember, number, owner, oldConfirmed⟩ | ⟨step, codes, seen⟩
  · rcases List.mem_cons.mp member with rfl | earlier
    · exact Or.inr ⟨old, oldMember, number, owner, oldConfirmed⟩
    · rcases sound item earlier old oldMember oldConfirmed with
        ⟨confirmation, inLog, confirms, later⟩ | ⟨first, firstMember, firstNumber, firstOwner, on⟩
      · rw [owner] at confirms
        exact Or.inl ⟨confirmation, List.mem_cons_of_mem _ inLog, confirms, later⟩
      · exact Or.inr ⟨first, firstMember, firstNumber.trans number, firstOwner.trans owner, on⟩
  · left
    refine ⟨_, List.mem_cons_self, ⟨row.idTotp, step, codes, seen⟩, ?_⟩
    rcases List.mem_cons.mp member with rfl | earlier
    · exact Nat.le_refl _
    · exact Nat.le_of_lt (recorded.counted item earlier)

theorem confirmedSince_kept (app : AppState) (contract : Contract (machine app))
    (allowed : Condition (machine app)) :
    (growth app).journal.Kept (confirmedSince app) contract allowed where
  accept := fun _ _ _ _ sound => ⟨sound, True.intro, fun _ _ _ => True.intro⟩
  execute := by
    intro world flight command draw reply after held recorded _ sound _ _ _ performed _ _
    exact ⟨confirmedSince_record recorded sound performed, True.intro, fun _ _ _ => True.intro⟩
  close := by
    intro world flight draw after place _ _ sound _ _ closed _
    refine ⟨?_, fun _ _ _ => True.intro⟩
    intro item member row rowMember
    change row ∈ after.database.totp.rows at rowMember
    rw [close_database closed] at rowMember
    exact sound item member row rowMember
  happen := by
    intro world event after _ sound happened _
    cases happened
    exact ⟨sound, fun _ _ _ => True.intro⟩

/-- The last look of a request is its newest. -/
theorem lastLook_newest (recorded : flight.Recorded (growth app) world) {last look : Item app}
    (newest : LastLook flight.own last) (member : look ∈ flight.own)
    (looks : look.seen.command.looksAtFactor = true) : look.moment ≤ last.moment := by
  rcases newest with ⟨newer, older, own, away⟩
  have ordered := recorded.ordered
  rw [own] at ordered member
  rcases List.mem_append.mp member with recent | rest
  · rw [away look recent] at looks
    cases looks
  · rcases List.mem_cons.mp rest with rfl | old
    · exact Nat.le_refl _
    · exact Nat.le_of_lt ((List.pairwise_cons.mp (List.pairwise_append.mp ordered).2.1).1 look old)

/-- If two-factor is on when a row is removed, its row was already confirmed at
the last look of the request. -/
theorem confirmed_at_look
    (fits : flight.Recorded (growth app) world) (sound : (confirmedSince app).Sound world)
    (meets : undisturbed world flight command) (removes : removesRow command = some idUser)
    (on : world.state.database.isEnabled idUser = true) {look : Item app}
    (last : LastLook flight.own look) :
    Exists fun used => Exists fun removed =>
      look.before.database.totpRow idUser = some used ∧ used.isConfirmed = true ∧
        world.state.database.totpRow idUser = some removed ∧ used.idTotp = removed.idTotp := by
  have own : look ∈ flight.own := by
    rcases last with ⟨newer, older, own, -⟩
    rw [own]
    exact List.mem_append_right _ List.mem_cons_self
  rcases Database.isEnabled_iff.mp on with ⟨row, member, owner, confirmed⟩
  rcases sound look (fits.own look own) row member confirmed with
    ⟨confirmation, inLog, confirms, since⟩ | ⟨old, oldMember, number, oldOwner, oldConfirmed⟩
  · rw [owner] at confirms
    rcases meets idUser removes on confirmation inLog confirms with ⟨other, otherOwn, looks, later⟩
    have := lastLook_newest fits last otherOwn looks
    omega
  · exact ⟨old, row, Database.totpRow_eq_some.mpr ⟨oldMember, oldOwner.trans owner⟩,
      by simpa [TotpRow.isConfirmed] using oldConfirmed,
      Database.totpRow_eq_some.mpr ⟨member, owner⟩, number⟩

/-- Every downgrade so far was vindicated. -/
def vindicating (app : AppState) : Invariant (machine app) where
  Sound := fun world => forall item, item ∈ world.log -> forall idUser, Downgrades item idUser ->
    Vindicated world.log item idUser
  Fits := fun _ _ => True

/-- A command that switches two-factor off removes or replaces the row. -/
theorem removes_of_downgrade
    (performed : perform state session command draw = some (reply, next, held))
    (on : state.database.isEnabled idUser = true) (off : next.database.isEnabled idUser = false)
    (account : (next.database.findOperator idUser).isSome = true) :
    removesRow command = some idUser := by
  rcases Database.isEnabled_iff.mp on with ⟨row, member, owner, confirmed⟩
  subst owner
  by_contra other
  have remains : command ≠ .deleteById row.idUser := by
    rintro rfl
    have removed := perform_deleteById performed
    rcases Option.isSome_iff_exists.mp account with ⟨operator, found⟩
    rcases Database.findOperator_eq_some.mp found with ⟨operatorMember, same⟩
    rw [removed] at operatorMember
    have different := (AutoTable.mem_deleteWhere.mp operatorMember).2
    simp only [same, decide_true] at different
    cases different
  rw [confirmed_kept performed member confirmed other remains] at off
  cases off

theorem vindicating_kept (app : AppState) :
    ((growth app).journal.and (confirmedSince app)).Kept (vindicating app) (contract app)
      undisturbed where
  accept := fun _ _ _ _ sound => ⟨sound, True.intro, fun _ _ _ => True.intro⟩
  execute := by
    intro world flight command draw reply after held given fits sound _ permitted meets performed _ _
    rcases given with ⟨recorded, since⟩
    refine ⟨?_, True.intro, fun _ _ _ => True.intro⟩
    intro item member idUser downgrades
    rcases List.mem_cons.mp member with rfl | old
    · rcases downgrades with ⟨on, off, account⟩
      have removes := removes_of_downgrade performed on off account
      have settled : SteppedUp flight.own idUser := by
        cases command with
        | beginEnrollment other secret =>
            cases removes
            have unenrolled : Unenrolled flight.own idUser := permitted
            exact unenrolled.steppedUp
        | disable other =>
            cases removes
            exact permitted
        | _ => cases removes
      rcases settled with ⟨look, last, settles⟩
      rcases confirmed_at_look fits.1 since meets removes on last with
          ⟨used, removed, found, confirmed, stored, same⟩
      have own : look ∈ flight.own := by
        rcases last with ⟨newer, older, own, -⟩
        rw [own]
        exact List.mem_append_right _ List.mem_cons_self
      have inLog := fits.1.own look own
      rcases settles with ⟨row, seen, wasOff⟩ | factor
      · rw [totp_read (recorded.genuine look inLog) seen] at found
        subst found
        simp only [Option.any_some] at wasOff
        rw [confirmed] at wasOff
        cases wasOff
      · exact ⟨look, List.mem_cons_of_mem _ inLog, (fits.1.signed look own).1,
          recorded.counted look inLog, factor, used, removed, found, confirmed, stored, same⟩
    · rcases sound item old idUser downgrades with ⟨factor, inLog, rest⟩
      exact ⟨factor, List.mem_cons_of_mem _ inLog, rest⟩
  close := fun _ _ _ _ _ _ _ sound _ _ _ _ => ⟨sound, fun _ _ _ => True.intro⟩
  happen := fun _ _ _ _ sound _ _ => ⟨sound, fun _ _ _ => True.intro⟩

/-- In a run without such confirmations, two-factor is only switched off by a
request that consumed a code of the enrolment it removes. -/
theorem secondFactor_not_downgraded {state : State} {config : Config (machine app)}
    (reached : Reaches (service app) undisturbed (Config.idle state) config) {item : Item app}
    (member : item ∈ config.world.log) {idUser : Int} (downgrades : Downgrades item idUser) :
    Vindicated config.world.log item idUser := by
  have recording := (growth app).journal_lasting (service app) undisturbed state
  have initial : (confirmedSince app).Sound (Config.idle state).world :=
    fun _ absent => absurd absent List.not_mem_nil
  have since := (confirmedSince_kept app (contract app) undisturbed).lasting (obeys app)
    (fun _ => rfl) recording initial
  have start : (vindicating app).Sound (Config.idle state).world :=
    fun _ absent => absurd absent List.not_mem_nil
  exact ((vindicating_kept app).lasting (obeys app) (fun _ => rfl) (recording.and since) start
    config reached).1 item member idUser downgrades

end Console

namespace Sample

def enroll : Request := ⟨visit (some 7), .mfaEnroll ⟨"token", "secret", ""⟩⟩

def confirm : Request := ⟨visit (some 7), .mfaConfirm ⟨"100003", "token"⟩⟩

def disable : Request := ⟨visit (some 7), .mfaDisable ⟨"token", "secret", "100005"⟩⟩

def tenCodes : Draw := { minted := List.replicate Mfa.recoveryCodeCount ⟨[], "code"⟩ }

/-- The request that confirms, with this ticket. -/
def confirming (ticket : Nat) : Schedule :=
  [.accept confirm] ++ steps ticket 11 ++ [.step ticket tenCodes] ++ steps ticket 5 ++
    [.close ticket {}]

/-- One enrolment waits in front of its transaction while another one is begun
and confirmed. -/
def overtaking : Schedule :=
  opening ++ [.accept enroll] ++ steps 1 19 ++ [.accept enroll] ++ steps 2 20 ++ [.close 2 {}] ++
    confirming 3 ++ steps 1 1

/-- Enrolment, confirmation and, a minute later, a code that switches it off. -/
def orderly : Schedule :=
  opening ++ [.accept enroll] ++ steps 1 20 ++ [.close 1 {}] ++ confirming 2 ++
    [.happen 60, .accept disable] ++ steps 3 20

def enrolsFirst (world : World (Console.machine app)) (_ : Console.Flight app)
    (command : Command) : Bool :=
  match command with
  | .beginEnrollment idUser _ => !world.state.database.isEnabled idUser
  | _ => true

theorem state_agrees : state.database.MfaAgrees := by
  intro operator member
  cases member with
  | head => exact ⟨by decide, fun has => by obtain ⟨code, member, -⟩ := has; cases member⟩
  | tail _ rest => cases rest

set_option maxRecDepth 100000 in
theorem mfaTables_agree_orderly :
    Exists fun config =>
      (Config.idle state).playWhile (Console.service app) enrolsFirst orderly = some config ∧
      config.world.log.length = 76 ∧
      Stays (Console.service app) anyCommand (fun config => config.world.state.database.MfaAgrees)
        (Config.idle state) config := by
  have replayed : ((Config.idle state).playWhile (Console.service app) enrolsFirst orderly).map
      (fun config => config.world.log.length) = some 76 := by decide
  rcases Option.map_eq_some_iff.mp replayed with ⟨config, played, same⟩
  refine ⟨config, played, same, (Console.mfaTables_agree state_agrees).mpr ?_⟩
  apply Config.playWhile_reaches _ orderly played
  rintro world flight _ passed idUser secret rfl
  simpa [enrolsFirst] using passed

set_option maxRecDepth 100000 in
/-- The flag stays up and the codes stay stored, without a confirmed row. -/
theorem mfaTables_disagree :
    ¬ forall state, state.database.MfaAgrees -> forall config,
      Reaches (Console.service app) anyCommand (Config.idle state) config ->
      config.world.state.database.MfaAgrees := by
  intro agree
  have replayed : (run state overtaking).map (fun config =>
      (config.world.state.database.findOperator 1).map fun operator =>
        (operator.idUser, operator.mfaEnabled,
          config.world.state.database.isEnabled operator.idUser)) =
      some (some (1, 1, false)) := by decide
  rcases Option.map_eq_some_iff.mp replayed with ⟨config, played, found⟩
  rcases Option.map_eq_some_iff.mp found with ⟨operator, stored, same⟩
  simp only [Prod.mk.injEq] at same
  rcases same with ⟨-, flag, off⟩
  have agrees := agree state state_agrees config (Config.play_reaches _ played) operator
    (Database.findOperator_eq_some.mp stored).1
  rw [agrees.flag.mp flag] at off
  cases off

def consumes : Command -> Bool
  | .consumeTotpStep _ _ _ | .consumeRecoveryCodeRow _ _ => true
  | _ => false

theorem consumes_of_factor {item : Console.Item app} {idUser : Int}
    (factor : Console.SecondFactor item idUser) : consumes item.seen.command = true := by
  rcases factor with ⟨idTotp, step, seen⟩ | ⟨idCode, seen⟩ <;>
    (rw [seen]; rfl)

def confirmsRow (idUser : Int) : Command -> Bool
  | .confirmEnrollment _ owner _ => owner = idUser
  | _ => false

/-- The test of a run that no confirmation disturbs. -/
def looksLast (world : World (Console.machine app)) (flight : Console.Flight app)
    (command : Command) : Bool :=
  match Console.removesRow command with
  | none => true
  | some idUser => world.log.all fun item =>
      !confirmsRow idUser item.seen.command ||
        flight.own.any fun look =>
          look.seen.command.looksAtFactor && decide (item.moment < look.moment)

theorem undisturbed_of_looksLast (world : World (Console.machine app))
    (flight : Console.Flight app) (command : Command) (passed : looksLast world flight command = true) :
    Console.undisturbed world flight command := by
  intro idUser removes _ confirmation member confirms
  rcases confirms with ⟨idTotp, step, codes, seen⟩
  simp only [looksLast, removes, List.all_eq_true] at passed
  have here := passed confirmation member
  rw [seen] at here
  simpa [confirmsRow] using here

/-- What the newest entry of a run did to the second factor of the administrator. -/
def lastEffect (config : Config (Console.machine app)) : Option (Bool × Bool × Bool) :=
  config.world.log.head?.map fun item =>
    (item.before.database.isEnabled 1, item.after.database.isEnabled 1,
      (item.after.database.findOperator 1).isSome)

theorem downgrades_of_lastEffect {config : Config (Console.machine app)}
    (effect : lastEffect config = some (true, false, true)) :
    Exists fun item => item ∈ config.world.log ∧ Console.Downgrades item 1 := by
  rcases Option.map_eq_some_iff.mp effect with ⟨item, newest, same⟩
  simp only [Prod.mk.injEq] at same
  exact ⟨item, List.mem_of_head? newest, same⟩

set_option maxRecDepth 100000 in
theorem secondFactor_not_downgraded_orderly :
    Exists fun config => Exists fun item =>
      (Config.idle state).playWhile (Console.service app) looksLast orderly = some config ∧
      item ∈ config.world.log ∧ Console.Downgrades item 1 ∧
      Console.Vindicated config.world.log item 1 := by
  have replayed : ((Config.idle state).playWhile (Console.service app) looksLast orderly).map
      lastEffect = some (some (true, false, true)) := by decide
  rcases Option.map_eq_some_iff.mp replayed with ⟨config, played, effect⟩
  rcases downgrades_of_lastEffect effect with ⟨item, member, downgrades⟩
  exact ⟨config, item, played, member, downgrades, Console.secondFactor_not_downgraded
    (Config.playWhile_reaches undisturbed_of_looksLast orderly played) member downgrades⟩

set_option maxRecDepth 100000 in
/-- An enrolment that has been overtaken removes a confirmed row without a code. -/
theorem secondFactor_downgraded :
    ¬ forall config, Reaches (Console.service app) anyCommand (Config.idle state) config ->
      forall item, item ∈ config.world.log -> forall idUser, Console.Downgrades item idUser ->
        Console.Vindicated config.world.log item idUser := by
  intro vindicated
  have replayed : (run state overtaking).map (fun config =>
      (lastEffect config, config.world.log.any fun item => consumes item.seen.command)) =
      some (some (true, false, true), false) := by decide
  rcases Option.map_eq_some_iff.mp replayed with ⟨config, played, same⟩
  simp only [Prod.mk.injEq] at same
  rcases same with ⟨effect, none⟩
  rcases downgrades_of_lastEffect effect with ⟨item, member, downgrades⟩
  rcases vindicated config (Config.play_reaches _ played) item member 1 downgrades with
      ⟨factor, inLog, -, -, consumed, -⟩
  have consuming := List.any_eq_false.mp none factor inLog
  exact consuming (consumes_of_factor consumed)

end Sample
end KrakenUi
