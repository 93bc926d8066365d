import KrakenUi.Guarantees.Authority
import KrakenUi.Guarantees.Credentials

namespace KrakenUi

open Interaction Storage

/-!
# There is one first administrator

`first_time` counts the operators and creates one when there is none.  Between the two
anything may happen, but another `first_time` waits for the lock.  As long as no
deletion empties the table, an account created here is the first one ever: every other
way to create an account needs a row that the guard has read.
-/

namespace Database

/-- Somebody has an account. -/
def Peopled (database : Database) : Prop := database.operators.rows ≠ []

theorem peopled_of_member {database : Database} {operator : Operator}
    (member : operator ∈ database.operators.rows) : database.Peopled :=
  List.ne_nil_of_mem member

end Database

namespace Console

variable {app : AppState} {state next : State} {session held : Session} {command : Command}
  {reply : command.Reply} {draw : Draw} {flight : Flight app}

/-- No deletion empties the table. -/
def leavesSomeone : Condition (machine app) := fun world _ command =>
  forall idUser, command = .deleteById idUser -> world.state.database.Peopled ->
    (world.state.database.deleteOperator idUser).Peopled

def ForFirstTime (flight : Flight app) : Prop :=
  Exists fun form => flight.request.route = .firstTime form

/-- The request is between its first command and the end of the handler. -/
def Inside (thread : Thread (machine app)) : Prop :=
  ForFirstTime thread.flight ∧ thread.flight.own ≠ [] ∧
    Exists fun command => Exists fun rest => thread.program = .call command rest

/-- What `first_time_lock` allows: one request inside at a time. -/
def Locked (config : Config (machine app)) : Prop :=
  forall ticket other thread thread', config.threads ticket = some thread ->
    config.threads other = some thread' -> Inside thread -> Inside thread' -> ticket = other

/-! ## The table -/

theorem peopled_perform (performed : perform state session command draw = some (reply, next, held))
    (leaves : forall idUser, command = .deleteById idUser -> state.database.Peopled ->
      (state.database.deleteOperator idUser).Peopled)
    (peopled : state.database.Peopled) : next.database.Peopled := by
  rcases List.exists_mem_of_ne_nil _ peopled with ⟨operator, member⟩
  cases turns_perform performed with
  | kept same record epoch =>
      unfold Database.Peopled
      rw [same]
      exact peopled
  | created creates numbered named members =>
      exact Database.peopled_of_member ((members operator).mpr (Or.inl member))
  | @edited idUser change edits members =>
      exact Database.peopled_of_member ((members _).mpr ⟨operator, member, rfl⟩)
  | @deleted idUser deletes members =>
      subst deletes
      rw [perform_deleteById performed]
      exact leaves idUser rfl peopled

/-- Only a new account makes an empty table a table with rows. -/
theorem creates_of_peopled
    (performed : perform state session command draw = some (reply, next, held))
    (empty : ¬ state.database.Peopled) (peopled : next.database.Peopled) :
    Exists fun input => command = .create input := by
  rcases List.exists_mem_of_ne_nil _ peopled with ⟨operator, member⟩
  have nobody : forall row, row ∉ state.database.operators.rows := by
    intro row present
    exact empty (Database.peopled_of_member present)
  cases turns_perform performed with
  | kept same record epoch =>
      rw [same] at member
      exact absurd member (nobody _)
  | created creates numbered named members => exact ⟨_, creates⟩
  | edited edits members =>
      rcases (members operator).mp member with ⟨old, present, -⟩
      exact absurd present (nobody _)
  | deleted deletes members => exact absurd ((members operator).mp member).1 (nobody _)

theorem rows_of_create {input : NewOperator} {operator : Operator}
    (performed : perform state session (.create input) draw = some (operator, next, held))
    (empty : state.database.operators.rows = []) :
    (forall row, row ∈ next.database.operators.rows ↔ row = operator) ∧
      operator.username = input.username ∧ operator.operatorType = input.operatorType := by
  rcases Database.create_spec (commit_some performed).1 with ⟨shape, members, -⟩
  refine ⟨?_, by rw [shape], by rw [shape]⟩
  intro row
  rw [members, empty]
  simp

theorem empty_of_count {number : Nat}
    (performed : perform state session .count draw = some (number, next, held)) (none : number = 0) :
    ¬ next.database.Peopled := by
  have parts : some (state.database.operators.rows.length, state, session) =
    some (number, next, held) := performed
  cases parts
  intro peopled
  exact peopled (List.eq_nil_of_length_eq_zero none)

/-! ## The handler -/

/-- The bootstrap waits for its count, or it has counted nobody. -/
theorem firstTime_waits {visit : Visit} {form : FirstTimeForm}
    {transcript : List (Observation console)} {rest : command.Reply -> Handler Unit}
    (resumed : Program.Resumes (service app ⟨visit, .firstTime form⟩) transcript
      (.call command rest)) :
    (transcript = [] ∧ command = .count) ∨ transcript = [⟨.count, (0 : Nat)⟩] := by
  have finished : forall {value : Unit} {transcript : List (Observation console)},
      ¬ Program.Resumes (.done value : Handler Unit) transcript (.call command rest) := by
    intro value transcript resumed
    cases (Program.resumes_done.mp resumed).2
  change Program.Resumes (Setup.firstTime app form >>= fun _ => pure ()) _ _ at resumed
  unfold Setup.firstTime at resumed
  split at resumed
  · exact absurd resumed finished
  split at resumed
  · exact absurd resumed finished
  split at resumed
  · exact absurd resumed finished
  rcases Program.resumes_call.mp resumed with ⟨none, same⟩ | ⟨number, tail, rfl, counted⟩
  · cases same
    exact Or.inl ⟨none, rfl⟩
  change Nat at number
  change Program.Resumes ((if 0 < number then pure (Response.status 410 _) else _) >>=
    fun _ => pure ()) _ _ at counted
  split at counted
  · exact absurd counted finished
  rename_i vacant
  split at counted
  · exact absurd counted finished
  rcases Program.resumes_call.mp counted with ⟨rfl, same⟩ | ⟨created, later, rfl, stored⟩
  · rw [Nat.eq_zero_of_not_pos vacant]
    exact Or.inr rfl
  · exact absurd stored finished

/-! ## Runs -/

/-- The entry created an account through the bootstrap. -/
def Bootstrapped (item : Item app) : Prop :=
  (Exists fun form => item.request.route = .firstTime form) ∧
    Exists fun input => item.seen.command = .create input

/-- Where a run has got that started from this state. -/
structure Settling (start : State) (config : Config (machine app)) : Prop where
  /-- Once there is a row, there is always one. -/
  after : forall item, item ∈ config.world.log -> item.after.database.Peopled ->
    config.world.state.database.Peopled
  before : forall item, item ∈ config.world.log -> item.before.database.Peopled ->
    config.world.state.database.Peopled
  opened : start.database.Peopled -> config.world.state.database.Peopled
  /-- Whoever has counted nobody and is still inside has the table for itself. -/
  inside : forall ticket thread, config.threads ticket = some thread -> Inside thread ->
    ¬ config.world.state.database.Peopled
  /-- The bootstrap has only created accounts in a table that was empty until then. -/
  created : forall newer item older, config.world.log = newer ++ item :: older ->
    Bootstrapped item -> ¬ item.before.database.Peopled ∧ ¬ start.database.Peopled ∧
      forall other, other ∈ older -> ¬ other.after.database.Peopled

variable {config after : Config (machine app)} {start : State}

/-- Somebody who is cleared has read a row. -/
theorem Cleared.peopled {roles : List OperatorRole} {actor : Int}
    (cleared : Cleared flight roles actor) (settling : Settling start config)
    (genuine : forall item, item ∈ config.world.log -> item.Genuine)
    (own : flight.own ⊆ config.world.log) : config.world.state.database.Peopled := by
  rcases cleared.empowered with ⟨item, member, -, operator, role, seen, -, -⟩
  have inLog := own member
  have stored := operator_read (genuine item inLog) seen
  exact settling.before item inLog
    (Database.peopled_of_member (Database.findOperator_eq_some.mp stored).1)

/-- What a request for the bootstrap that is not over has done so far. -/
theorem firstTime_resumed {ticket : Nat} {form : FirstTimeForm}
    {rest : command.Reply -> Handler Unit}
    (reached : Reaches (service app) leavesSomeone (Config.idle start) config)
    (running : config.threads ticket = some ⟨flight, .call command rest⟩)
    (route : flight.request.route = .firstTime form) :
    (flight.own = [] ∧ command = .count) ∨
      flight.transcript = [⟨.count, (0 : Nat)⟩] := by
  have resumed := Config.resumed (fun _ => rfl) reached running
  rcases request : flight.request with ⟨visit, asked⟩
  rw [request] at route
  dsimp only at route resumed
  subst route
  rw [request] at resumed
  rcases firstTime_waits resumed with ⟨none, counts⟩ | counted
  · exact Or.inl ⟨by simpa [InFlight.transcript] using none, counts⟩
  · exact Or.inr counted

/-- A request that is about to create an account through the bootstrap is inside. -/
theorem inside_of_create {ticket : Nat} {input : NewOperator}
    {rest : Operator -> Handler Unit}
    (reached : Reaches (service app) leavesSomeone (Config.idle start) config)
    (running : config.threads ticket = some ⟨flight, .call (.create input) rest⟩)
    (route : ForFirstTime flight) : Inside ⟨flight, .call (.create input) rest⟩ := by
  rcases route with ⟨form, route⟩
  refine ⟨⟨form, route⟩, ?_, _, _, rfl⟩
  intro none
  rcases firstTime_resumed reached running route with ⟨-, counts⟩ | counted
  · cases counts
  · rw [InFlight.transcript, none] at counted
    cases counted

theorem Settling.step {ticket : Nat} {draw : Draw} {rest : command.Reply -> Handler Unit}
    {state : State} {held : Session} (settling : Settling start config) (locked : Locked config)
    (reached : Reaches (service app) leavesSomeone (Config.idle start) config)
    (waiting : config.threads ticket = some ⟨flight, .call command rest⟩)
    (meets : leavesSomeone config.world flight command)
    (performed : perform config.world.state flight.held command draw = some (reply, state, held))
    (arrived : Reaches (service app) leavesSomeone (Config.idle start) { config with
      world := config.world.record (flight.entry config.world command reply state)
      threads := setThread config.threads ticket
        (some ⟨flight.advance config.world command reply state held, rest reply⟩) }) :
    Settling start { config with
      world := config.world.record (flight.entry config.world command reply state)
      threads := setThread config.threads ticket
        (some ⟨flight.advance config.world command reply state held, rest reply⟩) } := by
  have stays : config.world.state.database.Peopled -> state.database.Peopled :=
    peopled_perform performed meets
  have own : flight.own ⊆ config.world.log := by
    intro item member
    rw [(attributed_reaches reached).own _ _ waiting] at member
    exact (mem_entriesOf.mp member).1
  have genuine := ((growth app).journal_lasting (service app) leavesSomeone start config
    reached).1.genuine
  have permitted : Authorised flight command := (Keeps.call_iff.mp
    (Invariant.bound_reaches (obeys_authority app) (fun _ => rfl) reached _ _ waiting)).1
  refine ⟨?_, ?_, fun peopled => stays (settling.opened peopled), ?_, ?_⟩
  · intro item member peopled
    rcases List.mem_cons.mp member with rfl | old
    · exact peopled
    · exact stays (settling.after item old peopled)
  · intro item member peopled
    rcases List.mem_cons.mp member with rfl | old
    · exact stays peopled
    · exact stays (settling.before item old peopled)
  · intro other thread found inside
    rcases setThread_cases found with ⟨rfl, stepped⟩ | ⟨different, old⟩
    · -- the request itself has just counted
      cases stepped
      rcases inside with ⟨⟨form, route⟩, some', command', rest', same⟩
      change rest reply = _ at same
      rw [same] at found arrived
      rcases firstTime_resumed arrived found route with ⟨none, -⟩ | counted
      · exact absurd none some'
      rcases InFlight.newest_of_transcript (List.nil_append [_] ▸ counted) with
          ⟨newest, older, whole, seen⟩
      rw [← (List.cons.inj whole).1] at seen
      change (⟨command, reply⟩ : Observation console) = _ at seen
      cases seen
      exact empty_of_count performed rfl
    · intro peopled
      have empty := settling.inside other thread old inside
      rcases creates_of_peopled performed empty peopled with ⟨input, rfl⟩
      rcases permitted with ⟨form, route, -⟩ | ⟨actor, cleared⟩
      · exact different (locked _ _ _ _ old waiting inside
          (inside_of_create reached waiting ⟨form, route⟩))
      · exact empty (cleared.peopled settling genuine own)
  · intro newer item older split bootstrapped
    change _ :: config.world.log = newer ++ item :: older at split
    cases newer with
    | cons newest newer =>
        exact settling.created newer item older (List.cons.inj split).2 bootstrapped
    | nil =>
        rcases List.cons.inj split with ⟨rfl, rfl⟩
        rcases bootstrapped with ⟨route, input, creates⟩
        change command = .create input at creates
        subst creates
        have empty := settling.inside _ _ waiting (inside_of_create reached waiting route)
        exact ⟨empty, fun peopled => empty (settling.opened peopled),
          fun other member peopled => empty (settling.after other member peopled)⟩

/-- Everything that is done under the lock settles the table in this way. -/
theorem settling_stays
    (stayed : Stays (service app) leavesSomeone Locked (Config.idle start) config) :
    Settling start config := by
  induction stayed with
  | here initial =>
      refine ⟨fun _ member => absurd member List.not_mem_nil,
        fun _ member => absurd member List.not_mem_nil, fun peopled => peopled, ?_, ?_⟩
      · intro ticket thread found
        cases found
      · intro newer item older split
        cases newer <;> cases split
  | @next before after action stayed meets acted _ settling =>
      have arrived := stayed.reaches.next action meets acted
      -- Without a command the table stays as it is.
      have quiet : forall {world : World (machine app)} {threads next},
          world.log = before.world.log -> world.state.database = before.world.state.database ->
          (forall ticket thread, threads ticket = some thread -> Inside thread ->
            before.threads ticket = some thread) ->
          Settling start ⟨world, threads, next⟩ := by
        intro world threads next log database running
        refine ⟨?_, ?_, ?_, ?_, ?_⟩
        · rw [log, database]
          exact settling.after
        · rw [log, database]
          exact settling.before
        · rw [database]
          exact settling.opened
        · intro ticket thread found inside
          rw [database]
          exact settling.inside ticket thread (running ticket thread found inside) inside
        · rw [log]
          exact settling.created
      cases Config.act_moves meets acted with
      | accept request =>
          refine quiet rfl rfl ?_
          intro ticket thread found inside
          rcases setThread_cases found with ⟨-, started⟩ | ⟨-, old⟩
          · cases started
            exact absurd rfl inside.2.1
          · exact old
      | step waiting meets' executed =>
          rcases World.execute_some executed with ⟨state, held, performed, rfl, rfl⟩
          exact settling.step stayed.last stayed.reaches waiting meets' performed arrived
      | close waiting closed =>
          rcases World.close_some closed with ⟨state, place, finished, rfl⟩
          refine quiet rfl (close_database finished) ?_
          intro ticket thread found _
          rcases setThread_cases found with ⟨-, gone⟩ | ⟨-, old⟩
          · cases gone
          · exact old
      | drop ticket =>
          refine quiet rfl rfl ?_
          intro other thread found _
          rcases setThread_cases found with ⟨-, gone⟩ | ⟨-, old⟩
          · cases gone
          · exact old
      | happen happened =>
          rcases World.happen_some happened with ⟨state, passed, rfl⟩
          cases passed
          exact quiet rfl rfl fun _ _ found _ => found

/-- What an entry of the bootstrap has stored: one administrator, nobody else. -/
theorem stored_of_bootstrapped {item : Item app} (genuine : item.Genuine)
    (bootstrapped : Bootstrapped item) (empty : ¬ item.before.database.Peopled) :
    Exists fun input => Exists fun operator : Operator => item.seen.command = .create input ∧
      operator.username = input.username ∧ operator.operatorType = input.operatorType ∧
      forall row, row ∈ item.after.database.operators.rows ↔ row = operator := by
  rcases bootstrapped with ⟨-, input, creates⟩
  rcases genuine with ⟨held, draw, performed⟩
  rcases item with ⟨ticket, request, opened, moment, before, after, itemHeld, era, command, reply⟩
  dsimp only at creates performed empty
  subst creates
  rcases rows_of_create performed (not_not.mp empty) with ⟨members, username, role⟩
  exact ⟨input, reply, rfl, username, role, members⟩

/-- Under the lock, and as long as no deletion empties the table, the bootstrap creates
at most one account in a whole run: an administrator from its form, in a table that
has been empty since the start. -/
theorem first_administrator_once
    (stayed : Stays (service app) leavesSomeone Locked (Config.idle start) config)
    {newer older : List (Item app)} {item : Item app}
    (performed : config.world.log = newer ++ item :: older) (bootstrapped : Bootstrapped item) :
    start.database.operators.rows = [] ∧
      (Exists fun form => Exists fun operator : Operator => item.request.route = .firstTime form ∧
        form.loopback = true ∧ form.forwardingHeaders = false ∧
        Setup.tokenRefusal app form.token = none ∧ Setup.acceptsRegistration app form = true ∧
        operator.username = (registrant app form).username ∧
        operator.operatorType = OperatorRole.admin.asStr ∧
        forall row, row ∈ item.after.database.operators.rows ↔ row = operator) ∧
      forall other, other ∈ newer ++ older -> ¬ Bootstrapped other := by
  have settling := settling_stays stayed
  have genuine := ((growth app).journal_lasting (service app) leavesSomeone start config
    stayed.reaches).1.genuine
  have inLog : forall other, other ∈ newer ++ older -> other ∈ config.world.log := by
    intro other member
    rw [performed]
    rcases List.mem_append.mp member with early | late
    · exact List.mem_append_left _ early
    · exact List.mem_append_right _ (List.mem_cons_of_mem _ late)
  have here : item ∈ config.world.log := by
    rw [performed]
    exact List.mem_append_right _ List.mem_cons_self
  rcases settling.created newer item older performed bootstrapped with ⟨empty, blank, alone⟩
  rcases stored_of_bootstrapped (genuine item here) bootstrapped empty with
      ⟨input, operator, creates, username, role, members⟩
  have peopled : item.after.database.Peopled :=
    Database.peopled_of_member ((members operator).mpr rfl)
  refine ⟨not_not.mp blank, ?_, ?_⟩
  · rcases Contract.audited_reaches (obeys_authority app) stayed.reaches newer item older
        performed with ⟨flight, -, request, -, authorised⟩
    rcases bootstrapped with ⟨⟨form, route⟩, -⟩
    change Authorised flight item.seen.command at authorised
    rw [creates] at authorised
    rcases authorised with ⟨form', route', rfl, loopback, direct, token, accepts, -⟩ |
      ⟨actor, -, ⟨password, given, -⟩, -⟩
    · rw [request] at route'
      exact ⟨form', operator, route', loopback, direct, token, accepts, username, role, members⟩
    · rw [request, route] at given
      cases given
  · intro other member again
    rcases List.mem_append.mp member with late | early
    · rcases List.append_of_mem late with ⟨front, back, rfl⟩
      have split : config.world.log = front ++ other :: (back ++ item :: older) := by
        rw [performed, List.append_assoc, List.cons_append]
      exact (settling.created _ _ _ split again).2.2 item
        (List.mem_append_right _ List.mem_cons_self) peopled
    · rcases List.append_of_mem early with ⟨front, back, rfl⟩
      have split : config.world.log = (newer ++ item :: front) ++ other :: back := by
        rw [performed, List.append_assoc, List.cons_append]
      have first := (settling.created _ _ _ split again).1
      rcases stored_of_bootstrapped (genuine other (inLog other member)) again first with
          ⟨_, created, -, -, -, members'⟩
      exact alone other (List.mem_append_right _ List.mem_cons_self)
        (Database.peopled_of_member ((members' created).mpr rfl))

end Console
namespace Sample

def chosenPassword : String := "Chosen-By-9-Keepers!"

theorem chosenPassword_accepted :
    Setup.acceptsRegistration bootstrapped (registration chosenPassword) = true := by
  refine acceptsRegistration_of_password ?_ ?_ ?_ <;> decide

/-- A run with one request, which has the lock for itself. -/
structure Alone (config : Config (Console.machine bootstrapped)) : Prop where
  stayed : Stays (Console.service bootstrapped) Console.leavesSomeone Console.Locked
    (Config.idle vacant) config
  one : forall ticket thread, config.threads ticket = some thread -> ticket = 0

theorem locked_of_one {config : Config (Console.machine bootstrapped)}
    (one : forall ticket thread, config.threads ticket = some thread -> ticket = 0) :
    Console.Locked config := by
  intro ticket other thread thread' found found' _ _
  rw [one ticket thread found, one other thread' found']

theorem one_of_setThread {threads : Nat -> Option (Thread (Console.machine bootstrapped))}
    (changed : Option (Thread (Console.machine bootstrapped)))
    (one : forall ticket thread, threads ticket = some thread -> ticket = 0) :
    forall ticket thread, setThread threads 0 changed ticket = some thread -> ticket = 0 := by
  intro ticket thread found
  rcases setThread_cases found with ⟨same, -⟩ | ⟨-, old⟩
  · exact same
  · exact one ticket thread old

theorem alone_accept (request : Request) :
    Alone {
      world := (Config.idle (M := Console.machine bootstrapped) vacant).world.accept 0 request |>.1
      threads := setThread (fun _ => none) 0
        (some ⟨((Config.idle vacant).world.accept 0 request).2,
          Console.service bootstrapped request⟩)
      next := 1 } := by
  have nobody : forall ticket thread,
      (Config.idle (M := Console.machine bootstrapped) vacant).threads ticket = some thread ->
        ticket = 0 := by
    intro ticket thread found
    cases found
  have one := one_of_setThread (some ⟨((Config.idle vacant).world.accept 0 request).2,
    Console.service bootstrapped request⟩) nobody
  exact ⟨Stays.next (.accept request) (Stays.here (locked_of_one nobody)) True.intro rfl
    (locked_of_one one), one⟩

theorem Alone.step {config : Config (Console.machine bootstrapped)}
    {flight advanced : Console.Flight bootstrapped} {command : Command}
    {rest : command.Reply -> Handler Unit} {reply : command.Reply}
    {world : World (Console.machine bootstrapped)} (alone : Alone config)
    (waiting : config.threads 0 = some ⟨flight, .call command rest⟩)
    (spares : forall idUser, command ≠ .deleteById idUser)
    (executed : config.world.execute flight command {} = some (reply, world, advanced)) :
    Alone { config with
      world := world
      threads := setThread config.threads 0 (some ⟨advanced, rest reply⟩) } := by
  have one := one_of_setThread (some ⟨advanced, rest reply⟩) alone.one
  refine ⟨Stays.next (.step 0 {}) alone.stayed ?_ ?_ (locked_of_one one), one⟩
  · intro flight' command' rest' found idUser deletes
    rw [waiting] at found
    cases found
    exact absurd deletes (spares idUser)
  · simp only [Config.act, waiting, executed]

theorem first_administrator_once_registered :
    Exists fun config => Exists fun item => Exists fun older =>
      Stays (Console.service bootstrapped) Console.leavesSomeone Console.Locked
        (Config.idle vacant) config ∧
      config.world.log = item :: older ∧
      Exists fun operator : Operator => operator.operatorType = OperatorRole.admin.asStr ∧
        forall row, row ∈ item.after.database.operators.rows ↔ row = operator := by
  have accepted := alone_accept ⟨visit none, .firstTime (registration chosenPassword)⟩
  rw [service_registration chosenPassword_accepted] at accepted
  have counted := accepted.step rfl (fun _ => Command.noConfusion) rfl
  have created := counted.step rfl (fun _ => Command.noConfusion) rfl
  rcases Console.first_administrator_once created.stayed (List.nil_append _).symm
      ⟨⟨_, rfl⟩, _, rfl⟩ with
      ⟨-, ⟨form, operator, -, -, -, -, -, -, role, members⟩, -⟩
  exact ⟨_, _, _, created.stayed, rfl, operator, role, members⟩

end Sample
end KrakenUi
