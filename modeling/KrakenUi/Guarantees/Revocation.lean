import KrakenUi.Guarantees.Authentication
import KrakenUi.Protocol.Epochs

namespace KrakenUi

open Interaction

/-!
# A change of authority ends the other sessions

Password changes, account and role edits and changes of the second factor raise
the epoch of the account.  A session that was established before such a change,
and through which it was not made, has an epoch from before the change, and its
guard refuses it from then on.

A request that is already past its guard copies the epoch that it finds when it
refreshes its session.  If another session changes the account in between, the
refresh brings the outdated session up to date, and the next guard lets it pass.
-/

namespace Console

variable {app : AppState}

/-- The entry established a session for the account. -/
def Establishes (item : Item app) (idUser : Int) : Prop :=
  landmark item.seen.command = true ∧ Exists fun data : SessionData =>
    item.held.data = some data ∧ data.authenticatedUserId = some idUser

/-- A guard that lets its request through marks no identity. -/
theorem calm_of_returns {guarding : List (Item app)} {role : OperatorRole}
    (returned : (Auth.authorizedRole app).Returns (guarding.reverse.map Entry.seen) (some role)) :
    Calm guarding := by
  rcases authorizedRole_returns returned with
      ⟨first, second, third, fourth, now, idUser, operator, timestamp, tail, transcript, -, -, -, -,
      -, rotated⟩
  rcases rotate_returns rotated with ⟨fifth, writes, rfl, harmless⟩
  have plain : forall observed : Observation console,
      observed ∈ guarding.reverse.map Entry.seen -> observed.command.marksIdentity = false := by
    intro observed member
    rw [transcript] at member
    simp only [List.mem_cons] at member
    rcases member with rfl | rfl | rfl | rfl | rfl | rfl | rfl | writing
    · rfl
    · rfl
    · rfl
    · rfl
    · rfl
    · rfl
    · rfl
    · rcases harmless observed writing with cycle | insert
      · rw [cycle]
        rfl
      · rw [insert]
        rfl
  intro item member
  exact plain item.seen (List.mem_map_of_mem (List.mem_reverse.mpr member))

/-- Another session's change of the account's authority ends a session that was
established before, as long as no refresh runs past such a change. -/
theorem authorizedRole_refuses_overruled {state : State} (blank : state.Blank)
    {config : Config (machine app)}
    (reached : Reaches (service app) refreshesInStep (Config.idle state) config)
    {established change : Item app} {idUser : Int} (establishes : Establishes established idUser)
    (committed : change ∈ config.world.log) (overrules : Overrules established change idUser)
    {ticket : Nat} {thread : Thread (machine app)} (running : config.threads ticket = some thread)
    {later guarding : List (Item app)} (journal : thread.flight.own = later ++ guarding)
    (session : lastLandmark thread.flight.inherited = some established)
    (afterwards : forall item, item ∈ guarding -> item.seen.command = .findById idUser ->
      change.moment < item.moment)
    {answer : Option OperatorRole}
    (returned : (Auth.authorizedRole app).Returns (guarding.reverse.map Entry.seen) answer) :
    answer = none := by
  cases answer with
  | none => rfl
  | some role =>
  exfalso
  rcases (growth app).journal_lasting (service app) refreshesInStep state config reached with
      ⟨sound, recorded⟩
  have traced := (provenance_lasting blank refreshesInStep config reached).2 ticket thread running
  have dated := (epochs_lasting blank config reached).2 ticket thread running
  have linked := (recorded ticket thread running).linked
  rw [journal] at linked
  rcases passage_of_returns linked returned with ⟨data, named, now, passage⟩
  rcases passage.stored with ⟨read, operator, member, seen, -, loaded, epoch⟩
  -- The record names the account for which its last establishment was made.
  rcases passage.first with ⟨newest, reading, shape, first⟩
  have vouched := traced.readings (later ++ newest) reading [] data
    (by rw [journal, shape, List.append_assoc]) first
  rcases vouched.account (not_halfSigned_of_calm Without.nil) named passage.account with
      ⟨timestamp, -, ⟨landing, held, last, -, landed, owner, -⟩, -⟩
  rcases establishes with ⟨-, other, loaded', owner'⟩
  cases Option.some.inj (session.symm.trans last)
  cases landed.symm.trans loaded'
  cases owner.symm.trans owner'
  -- The guard compared with the row after the change.
  rcases List.append_of_mem member with ⟨front, back, whole⟩
  have own : thread.flight.own = (later ++ front) ++ read :: back := by
    rw [journal, whole, List.append_assoc]
  have inLog := (recorded ticket thread running).own read
    (by rw [own]; exact List.mem_append_right _ List.mem_cons_self)
  have stored := operator_read (sound.genuine read inLog) seen
  have passed : Passed read idUser :=
    ⟨operator, data, seen, (Database.findOperator_eq_some.mp stored).2, loaded, passage.account,
      epoch⟩
  have calm : Calm back := by
    have all := calm_of_returns returned
    rw [whole, List.append_cons] at all
    exact (Without.append_iff.mp all).2
  have same : lastLandmark (back ++ thread.flight.inherited) = some established := by
    rw [lastLandmark_append (calm.narrow fun _ => unlandmarked_of_calm)]
    exact session
  have bound := dated.guards (later ++ front) read back idUser own passed
    (not_halfSigned_of_calm calm) established change same committed overrules
  have order := afterwards read member (by rw [seen])
  omega

end Console

namespace Sample

def changeOwnPassword (cookie : SessionId) : Request :=
  ⟨visit (some cookie), .updatePasswordAction ⟨"1", "secret", "Aa1!aaaaaaaaaaaa", "token"⟩⟩

def browse : Request := ⟨visit (some 7), .page OperatorRole.all⟩

/-- The administrator signs in twice and has the sessions 7 and 8. -/
def twice : Schedule := opening ++ [.accept login] ++ steps 1 19 ++ [.close 1 { sessionId := 8 }]

/-- The password is changed through session 8, and session 7 opens a page before
the other request has refreshed its own session. -/
def changedElsewhere : Schedule :=
  twice ++ [.accept (changeOwnPassword 8)] ++ steps 2 12 ++ [.accept browse] ++ steps 3 7

/-- Both sessions change the password.  The one through session 7 is past its
guard when the other one commits, and refreshes its session afterwards. -/
def changedAround : Schedule :=
  twice ++ [.accept (changeOwnPassword 7)] ++ steps 2 10 ++ [.accept (changeOwnPassword 8)] ++
    steps 3 18 ++ [.close 3 {}] ++ steps 2 8 ++ [.close 2 {}, .accept browse] ++ steps 4 7

/-- The test of a run in which only sign-ins copy an epoch. -/
def refreshesNothing (_ : World (Console.machine app)) (flight : Console.Flight app)
    (command : Command) : Bool :=
  match command with
  | .insert (.authenticatedAuthzVersion _) => flight.request.route.signsIn
  | _ => true

theorem refreshesInStep_of_refreshesNothing (world : World (Console.machine app))
    (flight : Console.Flight app) (command : Command)
    (passed : refreshesNothing world flight command = true) :
    Console.refreshesInStep world flight command := by
  rintro idUser version rfl other _
  simp only [refreshesNothing] at passed
  rw [passed] at other
  cases other

/-- The newest change of the administrator's authority that another session made. -/
def foreignChange (config : Config (Console.machine app))
    (established : Console.Item app) : Option (Console.Item app) :=
  config.world.log.find? fun item =>
    item.seen.command.opensEpoch item.seen.reply 1 && decide (item.era ≠ some established.moment)

/-- What the request with this ticket, of which only the guard has run, got from
it, if such a change came between the establishment of its session and the guard. -/
def verdict (config : Config (Console.machine app)) (ticket : Nat) :
    Option (Option OperatorRole) := do
  let thread ← config.threads ticket
  let established ← lastLandmark thread.flight.inherited
  let data ← established.held.data
  let change ← foreignChange config established
  if data.authenticatedUserId = some 1 ∧ established.moment < change.moment ∧
      thread.flight.own.all (fun item => decide (change.moment < item.moment)) = true then
    (Auth.authorizedRole app).replay thread.flight.transcript
  else none

theorem verdict_some {config : Config (Console.machine app)} {ticket : Nat}
    {answer : Option OperatorRole} (found : verdict config ticket = some answer) :
    Exists fun thread => Exists fun established => Exists fun change =>
      config.threads ticket = some thread ∧
        lastLandmark thread.flight.inherited = some established ∧
        Console.Establishes established 1 ∧ change ∈ config.world.log ∧
        Console.Overrules established change 1 ∧
        (forall item, item ∈ thread.flight.own -> change.moment < item.moment) ∧
        (Auth.authorizedRole app).Returns (thread.flight.own.reverse.map Entry.seen) answer := by
  rcases Option.bind_eq_some_iff.mp found with ⟨thread, running, opened⟩
  rcases Option.bind_eq_some_iff.mp opened with ⟨established, last, held⟩
  rcases Option.bind_eq_some_iff.mp held with ⟨data, loaded, changing⟩
  rcases Option.bind_eq_some_iff.mp changing with ⟨change, newest, replayed⟩
  split at replayed
  · rename_i holds
    rcases holds with ⟨owner, later, afterwards⟩
    have foreign := List.find?_some newest
    simp only [Bool.and_eq_true, decide_eq_true_eq] at foreign
    refine ⟨thread, established, change, running, last, ?_, List.mem_of_find?_eq_some newest,
      ⟨foreign.1, later, foreign.2⟩, by simpa using afterwards, ?_⟩
    · exact ⟨landmark_of_last last, data, loaded, owner⟩
    · exact (Program.replay_eq_some (Auth.authorizedRole app) _ _).mp replayed
  · cases replayed

set_option maxRecDepth 100000 in
theorem authorizedRole_refuses_overruled_elsewhere :
    Exists fun config => Exists fun thread => Exists fun established => Exists fun change =>
      (Config.idle state).playWhile (Console.service app) refreshesNothing changedElsewhere =
        some config ∧
      config.threads 3 = some thread ∧ lastLandmark thread.flight.inherited = some established ∧
      change ∈ config.world.log ∧ Console.Overrules established change 1 ∧
      (Auth.authorizedRole app).Returns (thread.flight.own.reverse.map Entry.seen) none := by
  have replayed : (((Config.idle state).playWhile (Console.service app) refreshesNothing
      changedElsewhere).bind fun config => verdict config 3).isSome = true := by decide +kernel
  rcases Option.isSome_iff_exists.mp replayed with ⟨answer, found⟩
  rcases Option.bind_eq_some_iff.mp found with ⟨config, played, judged⟩
  rcases verdict_some judged with
      ⟨thread, established, change, running, last, establishes, committed, overrules, afterwards,
      returned⟩
  have refused := Console.authorizedRole_refuses_overruled state_blank
    (Config.playWhile_reaches refreshesInStep_of_refreshesNothing _ played) establishes committed
    overrules running (List.nil_append _).symm last (fun item member _ => afterwards item member)
    returned
  rw [refused] at returned
  exact ⟨config, thread, established, change, played, running, last, committed, overrules, returned⟩

set_option maxRecDepth 100000 in
/-- A request past its guard brings its session up to a change made elsewhere. -/
theorem change_outlived :
    ¬ forall config, Reaches (Console.service app) anyCommand (Config.idle state) config ->
      forall established change idUser, Console.Establishes established idUser ->
      change ∈ config.world.log -> Console.Overrules established change idUser ->
      forall ticket thread, config.threads ticket = some thread ->
      lastLandmark thread.flight.inherited = some established ->
      forall later guarding, thread.flight.own = later ++ guarding ->
      (forall item, item ∈ guarding -> change.moment < item.moment) ->
      forall answer,
        (Auth.authorizedRole app).Returns (guarding.reverse.map Entry.seen) answer ->
        answer = none := by
  intro refused
  have replayed : ((run state changedAround).bind fun config => verdict config 4) =
      some (some OperatorRole.admin) := by decide +kernel
  rcases Option.bind_eq_some_iff.mp replayed with ⟨config, played, judged⟩
  rcases verdict_some judged with
      ⟨thread, established, change, running, last, establishes, committed, overrules, afterwards,
      returned⟩
  cases refused config (Config.play_reaches _ played) established change 1 establishes committed
    overrules 4 thread running last [] thread.flight.own (List.nil_append _).symm afterwards _
    returned

end Sample
end KrakenUi
