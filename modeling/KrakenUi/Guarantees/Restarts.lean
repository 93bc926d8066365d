import KrakenUi.App
import KrakenUi.Guarantees.Authentication
import KrakenUi.Interaction.Restart
import KrakenUi.Protocol.Credentials

namespace KrakenUi

open Interaction

/-!
# Revocations outlive the process

The tables and the session rows are on disk.  A start may add the account
`admin`, with a number that was never used, and a killed process leaves what
its requests have committed.  The epochs in the table therefore only rise over
any number of starts and crashes, and a session record whose epoch has once been
left behind is refused by every process that comes after.
-/

namespace Database

/-- The record belongs to an account that is gone or has left its epoch. -/
def Revokes (database : Database) (data : SessionData) : Prop :=
  Exists fun idUser => data.authenticatedUserId = some idUser ∧
    idUser ≤ database.operators.sequence ∧
    forall operator, operator ∈ database.operators.rows -> operator.idUser = idUser ->
      forall version, data.authenticatedAuthzVersion = some version ->
        version < operator.authzVersion

theorem Revokes.later {database after : Database} {data : SessionData}
    (revokes : database.Revokes data) (later : database.Later after) : after.Revokes data := by
  rcases revokes with ⟨idUser, named, issued, outdated⟩
  refine ⟨idUser, named, Int.le_trans issued later.operators.1, ?_⟩
  rintro operator member rfl version copied
  rcases later.operators.2 operator member issued with ⟨old, oldMember, same, risen⟩
  exact Int.lt_of_lt_of_le (outdated old oldMember same version copied) risen

/-- A row of the account excludes that the record has its epoch. -/
theorem Revokes.not_current {database : Database} {data : SessionData} {operator : Operator}
    (revokes : database.Revokes data)
    (stored : database.findOperator operator.idUser = some operator)
    (named : data.authenticatedUserId = some operator.idUser)
    (epoch : data.authenticatedAuthzVersion = some operator.authzVersion) : False := by
  rcases revokes with ⟨idUser, owner, -, outdated⟩
  cases named.symm.trans owner
  have member := (findOperator_eq_some.mp stored).1
  have left := outdated operator member rfl operator.authzVersion epoch
  omega

end Database

namespace App

/-- A process was started.  The clock may have gone on while none was running. -/
inductive Starts (before after : State) : Prop where
  | start (clean : String -> String) (environment : AdminEnvironment) (record : String)
      (now : Int) (passed : before.now ≤ now) (database : Database)
      (started : bootstrapAdministrator clean environment now record before.database =
        .ok database)
      (same : after = { before with database := database, now := now })

/-- A process served requests until it was killed. -/
inductive Serves (before after : State) : Prop where
  | serve (app : AppState) (left : Leaves (Console.service app) anyCommand before after)

theorem later_starts {before after : State} (starts : Starts before after) :
    before.Later after := by
  rcases starts with ⟨clean, environment, record, now, passed, database, started, rfl⟩
  exact ⟨later_boots (boots_of_ok started), passed, List.Subset.refl _⟩

theorem later_serves {before after : State} (serves : Serves before after) :
    before.Later after := by
  rcases serves with ⟨app, left⟩
  exact @Growth.later_left _ _ (Console.growth app) _ _ _ _ left

/-- Starts and crashes respect the direction of time of the console. -/
theorem later_past {before after : State} (past : Past Starts Serves before after) :
    before.Later after :=
  past.related State.Later.refl State.Later.trans later_starts later_serves

theorem namesAccepted_starts {before after : State} (starts : Starts before after)
    (accepted : before.database.NamesAccepted) : after.database.NamesAccepted := by
  rcases starts with ⟨clean, environment, record, now, passed, database, started, rfl⟩
  cases boots_of_ok started with
  | unchanged present => exact accepted
  | created absent given plain valid committed =>
      rcases Database.create_spec committed with ⟨shape, members, -⟩
      intro operator member
      rcases (members operator).mp member with old | rfl
      · exact accepted operator old
      · rw [shape]
        show Acl.validUsername "admin" = true
        decide

/-- Every name in the table is one that the forms accept, after any past. -/
theorem namesAccepted_past {before after : State} (past : Past Starts Serves before after)
    (accepted : before.database.NamesAccepted) : after.database.NamesAccepted := by
  refine @Past.keeps _ _ _ _ _ (fun state => state.database.NamesAccepted) namesAccepted_starts ?_
    past accepted
  rintro before after ⟨app, config, reached, rfl⟩ accepted
  exact Credentials.namesAccepted_reached accepted reached

end App

namespace Console

variable {app : AppState}

/-- In a life that began with the account revoked for a record, no guard that
reads this record lets its request through. -/
theorem authorizedRole_refuses_revoked {state : State} {config : Config (machine app)}
    (reached : Reaches (service app) anyCommand (Config.idle state) config)
    {data : SessionData} (revoked : state.database.Revokes data)
    {ticket : Nat} {thread : Thread (machine app)} (running : config.threads ticket = some thread)
    {later guarding : List (Item app)} (journal : thread.flight.own = later ++ guarding)
    (read : Saw guarding .record data) {answer : Option OperatorRole}
    (returned : (Auth.authorizedRole app).Returns (guarding.reverse.map Entry.seen) answer) :
    answer = none := by
  cases answer with
  | none => rfl
  | some role =>
  exfalso
  rcases (growth app).journal_lasting (service app) anyCommand state config reached with
      ⟨sound, recorded⟩
  have linked := (recorded ticket thread running).linked
  rw [journal] at linked
  rcases passage_of_returns linked returned with ⟨known, idUser, now, passage⟩
  rcases passage.readings data read with rfl
  rcases passage.stored with ⟨entry, operator, member, seen, -, -, epoch⟩
  have inLog : entry ∈ config.world.log := by
    refine (recorded ticket thread running).own entry ?_
    rw [journal]
    exact List.mem_append_right _ member
  -- Reading a row changes nothing, so the row is in the state after the entry.
  rcases performed_of_genuine (sound.genuine entry inLog) seen with ⟨draw, held, performed⟩
  rcases perform_findById performed with ⟨stored, same⟩
  have grown := @Growth.later_entry _ _ (growth app) _ _ _ _ reached _ inLog
  have outdated := revoked.later grown.database
  rw [same] at outdated
  rcases Database.findOperator_eq_some.mp stored.symm with ⟨-, rfl⟩
  exact outdated.not_current stored.symm passage.account epoch

/-- A record that was revoked once is refused after any number of starts and
crashes, by a process with any settings. -/
theorem revocations_survive_restarts {before state : State}
    (past : Past App.Starts App.Serves before state)
    {data : SessionData} (revoked : before.database.Revokes data)
    {config : Config (machine app)}
    (reached : Reaches (service app) anyCommand (Config.idle state) config)
    {ticket : Nat} {thread : Thread (machine app)} (running : config.threads ticket = some thread)
    {later guarding : List (Item app)} (journal : thread.flight.own = later ++ guarding)
    (read : Saw guarding .record data) {answer : Option OperatorRole}
    (returned : (Auth.authorizedRole app).Returns (guarding.reverse.map Entry.seen) answer) :
    answer = none :=
  authorizedRole_refuses_revoked reached (revoked.later (App.later_past past).database) running
    journal read returned

/-- Over any number of starts and crashes and up to any moment of the life after
them, no number is issued again, no epoch and no used time step falls, no sealed
secret changes, no used recovery code becomes usable, and all names stay
acceptable. -/
theorem tables_survive_restarts {before state : State}
    (past : Past App.Starts App.Serves before state) {config : Config (machine app)}
    (reached : Reaches (service app) anyCommand (Config.idle state) config) :
    before.Later config.world.state ∧
      (before.database.NamesAccepted -> config.world.state.database.NamesAccepted) := by
  constructor
  · exact (App.later_past past).trans (@Growth.later_reached _ _ (growth app) _ _ _ _ reached)
  · intro accepted
    exact Credentials.namesAccepted_reached (App.namesAccepted_past past accepted) reached

end Console

namespace Sample

/-- A session of an account that was deleted since. -/
def orphan : SessionData where
  authenticatedUserId := some 1
  authenticatedOperatorType := some "admin"
  authenticatedAuthzVersion := some 0
  authenticatedAt := some 900

def abandoned : State where
  database := (root.map fun database => (database.deleteById 1).2).getD Database.empty
  sessions := SessionStore.empty.upsert ⟨7, orphan, 5000⟩
  now := 1000
  known := []

/-- The next start creates `admin`. -/
def restarted : Except App.StartError Database :=
  App.bootstrapAdministrator id ⟨some "More-Than-14!Characters9.", none⟩ 1000 "hash"
    abandoned.database

/-- The old session comes back to the new process. -/
def returning (database : Database) : Option (Config (Console.machine app)) :=
  run { abandoned with database := database }
    ([.accept ⟨visit (some 7), .page OperatorRole.all⟩] ++ steps 0 7)

/-- What the guard of the returning session reads and answers. -/
def turnedAway (config : Config (Console.machine app)) :
    Option (SessionData × Option OperatorRole) :=
  (config.threads 0).bind fun thread =>
    ((call .record).replay (thread.flight.transcript.take 1)).bind fun data =>
      ((Auth.authorizedRole app).replay thread.flight.transcript).map fun answer => (data, answer)

theorem orphan_revoked : abandoned.database.Revokes orphan := by
  refine ⟨1, rfl, by decide, ?_⟩
  intro operator member
  have deserted : abandoned.database.operators.rows = [] := by decide
  rw [deserted] at member
  cases member

theorem restarted_ok {database : Database} (started : restarted.toOption = some database) :
    restarted = .ok database := by
  cases outcome : restarted with
  | ok other =>
      rw [outcome] at started
      cases started
      rfl
  | error error =>
      rw [outcome] at started
      cases started

theorem restarted_past {database : Database} (started : restarted.toOption = some database) :
    Past App.Starts App.Serves abandoned { abandoned with database := database } :=
  .single (Or.inl (.start id _ "hash" 1000 (Int.le_refl _) database (restarted_ok started) rfl))

set_option maxRecDepth 100000 in
theorem revocations_survive_restarts_abandoned :
    Exists fun state => Exists fun config => Exists fun thread : Thread (Console.machine app) =>
      Past App.Starts App.Serves abandoned state ∧
        (Exists fun operator => operator ∈ state.database.operators.rows ∧
          operator.username = "admin") ∧
        Reaches (Console.service app) anyCommand (Config.idle state) config ∧
        config.threads 0 = some thread ∧
        (Auth.authorizedRole app).Returns (thread.flight.own.reverse.map Entry.seen) none := by
  have replayed : (restarted.toOption.bind fun database =>
      (returning database).bind turnedAway) = some (orphan, none) := by decide +kernel
  rcases Option.bind_eq_some_iff.mp replayed with ⟨database, started, returned⟩
  rcases Option.bind_eq_some_iff.mp returned with ⟨config, played, judged⟩
  rcases Option.bind_eq_some_iff.mp judged with ⟨thread, running, answered⟩
  rcases Option.bind_eq_some_iff.mp answered with ⟨data, first, replied⟩
  rcases Option.map_eq_some_iff.mp replied with ⟨answer, guarded, same⟩
  rcases Prod.mk.inj same with ⟨rfl, -⟩
  have booted := restarted_ok started
  have past := restarted_past started
  have reached := Config.play_reaches _ played
  have session : Saw thread.flight.own .record orphan := by
    have member : ⟨.record, orphan⟩ ∈ thread.flight.transcript.take 1 := by
      rw [Console.returns_last ((Program.replay_eq_some (call .record) _ _).mp first)]
      exact List.mem_cons_self
    exact saw_of_transcript (List.mem_of_mem_take member)
  have returned := (Program.replay_eq_some (Auth.authorizedRole app) _ _).mp guarded
  have refused := Console.revocations_survive_restarts past orphan_revoked reached running
    (List.nil_append _).symm session returned
  rw [refused] at returned
  exact ⟨_, config, thread, past, App.named_boots (App.boots_of_ok booted) rfl, reached, running,
    returned⟩

set_option maxRecDepth 100000 in
theorem tables_survive_restarts_abandoned :
    Exists fun state => Exists fun config : Config (Console.machine app) =>
      Past App.Starts App.Serves abandoned state ∧
        Reaches (Console.service app) anyCommand (Config.idle state) config ∧
        config.world.state.sessions.row 7 = none ∧ abandoned.Later config.world.state ∧
        config.world.state.database.NamesAccepted := by
  have replayed : (restarted.toOption.bind fun database => (returning database).map fun config =>
      (config.world.state.sessions.row 7).isNone) = some true := by decide +kernel
  rcases Option.bind_eq_some_iff.mp replayed with ⟨database, started, returned⟩
  rcases Option.map_eq_some_iff.mp returned with ⟨config, played, gone⟩
  have past := restarted_past started
  have reached := Config.play_reaches _ played
  rcases Console.tables_survive_restarts past reached with ⟨later, accepted⟩
  refine ⟨_, config, past, reached, Option.isNone_iff_eq_none.mp gone, later, accepted ?_⟩
  intro operator member
  have deserted : abandoned.database.operators.rows = [] := by decide
  rw [deserted] at member
  cases member

end Sample
end KrakenUi
