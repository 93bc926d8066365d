import KrakenUi.Protocol.Provenance

namespace KrakenUi

open Interaction

/-!
# Nobody is let through without a login

The guard answers from the loaded record and from the stored row of its account.
This module reads a complete run of `authorized_role` back from a journal, and
combines it with the invariant of the records: whoever is let through has a
login on the history of the record, a second step if that login found
two-factor on, and an establishment that is not too old.
-/

namespace Console

variable {app : AppState} {α β : Type}

/-- The first call of a run, and the run that its reply selects. -/
theorem returns_step {command : Command} {rest : command.Reply -> Handler α}
    {transcript : List (Observation console)} {value : α}
    (returned : (call command >>= rest).Returns transcript value) :
    Exists fun reply => Exists fun tail =>
      transcript = ⟨command, reply⟩ :: tail ∧ (rest reply).Returns tail value :=
  (Program.returns_call (S := console) command rest transcript value).mp returned

theorem returns_last {command : Command} {transcript : List (Observation console)}
    {reply : command.Reply} (returned : (call command).Returns transcript reply) :
    transcript = [⟨command, reply⟩] :=
  (Program.returns_perform (S := console) command reply transcript).mp returned

theorem refuse_returns {transcript : List (Observation console)} {role : OperatorRole} :
    ¬ Auth.refuse.Returns transcript (some role) := by
  intro returned
  rcases @returns_step _ .flush _ _ _ returned with ⟨_, tail, -, ended⟩
  cases ((Program.returns_pure _ _ _).mp ended).2

/-- The calls of a guard that lets its request through, oldest first. -/
theorem authorizedRole_returns {transcript : List (Observation console)} {role : OperatorRole}
    (returned : (Auth.authorizedRole app).Returns transcript (some role)) :
    Exists fun first : SessionData => Exists fun second : SessionData =>
    Exists fun third : SessionData => Exists fun fourth : SessionData =>
    Exists fun now : Int => Exists fun idUser => Exists fun operator =>
    Exists fun authenticatedAt => Exists fun tail =>
      transcript = ⟨.record, first⟩ :: ⟨.record, second⟩ :: ⟨.record, third⟩ ::
        ⟨.record, fourth⟩ :: ⟨.now, now⟩ :: ⟨.findById idUser, some operator⟩ :: tail ∧
      first.authenticatedUserId = some idUser ∧
      third.authenticatedAuthzVersion = some operator.authzVersion ∧
      fourth.authenticatedAt = some authenticatedAt ∧
      Auth.saturatingSub now authenticatedAt < Auth.absoluteLimit app ∧
      operator.role = some role ∧ (Auth.rotateSessionIdIfDue now).Returns tail () := by
  rcases @returns_step _ .record _ _ _ returned with ⟨first, rest₁, rfl, guarded₁⟩
  dsimp only at guarded₁
  cases owner : first.authenticatedUserId with
  | none =>
      rw [owner] at guarded₁
      cases ((Program.returns_pure _ _ _).mp guarded₁).2
  | some idUser =>
  rw [owner] at guarded₁
  rcases @returns_step _ .record _ _ _ guarded₁ with ⟨second, rest₂, rfl, guarded₂⟩
  dsimp only at guarded₂
  cases named : second.authenticatedOperatorType.bind OperatorRole.parse with
  | none =>
      rw [named] at guarded₂
      exact absurd guarded₂ refuse_returns
  | some sessionRole =>
  rw [named] at guarded₂
  rcases @returns_step _ .record _ _ _ guarded₂ with ⟨third, rest₃, rfl, guarded₃⟩
  dsimp only at guarded₃
  cases epoch : third.authenticatedAuthzVersion with
  | none =>
      rw [epoch] at guarded₃
      exact absurd guarded₃ refuse_returns
  | some version =>
  rw [epoch] at guarded₃
  rcases @returns_step _ .record _ _ _ guarded₃ with ⟨fourth, rest₄, rfl, guarded₄⟩
  cases time : fourth.authenticatedAt with
  | none =>
      rw [time] at guarded₄
      exact absurd guarded₄ refuse_returns
  | some authenticatedAt =>
  rw [time] at guarded₄
  rcases @returns_step _ .now _ _ _ guarded₄ with ⟨now, rest₅, rfl, guarded₅⟩
  change Int at now
  by_cases late : Auth.absoluteLimit app ≤ Auth.saturatingSub now authenticatedAt
  · rw [if_pos late] at guarded₅
    exact absurd guarded₅ refuse_returns
  rw [if_neg late] at guarded₅
  rcases @returns_step _ (.findById idUser) _ _ _ guarded₅ with ⟨found, rest₆, rfl, guarded₆⟩
  change Option Operator at found
  cases found with
  | none => exact absurd guarded₆ refuse_returns
  | some operator =>
  dsimp only at guarded₆
  cases current : operator.role with
  | none =>
      rw [current] at guarded₆
      exact absurd guarded₆ refuse_returns
  | some currentRole =>
  rw [current] at guarded₆
  dsimp only at guarded₆
  split at guarded₆
  · exact absurd guarded₆ refuse_returns
  rename_i matching
  simp only [not_or, not_not] at matching
  rcases (Program.returns_bind _ _ _ _).mp guarded₆ with ⟨turn, last, _, rfl, rotated, ended⟩
  rcases (Program.returns_pure _ _ _).mp ended with ⟨rfl, same⟩
  cases same
  refine ⟨first, second, third, fourth, now, idUser, operator, authenticatedAt, turn, ?_, owner,
    ?_, time, Int.not_le.mp late, current, rotated⟩
  · rw [List.append_nil]
  · rw [epoch, matching.2]

/-- A rotation reads the record once more, and then only writes. -/
theorem rotate_returns {now : Int} {transcript : List (Observation console)}
    (returned : (Auth.rotateSessionIdIfDue now).Returns transcript ()) :
    Exists fun data : SessionData => Exists fun writes =>
      transcript = ⟨.record, data⟩ :: writes ∧
        forall observed, observed ∈ writes -> observed.command = .cycleId ∨
          observed.command = .insert (.sessionRotatedAt now) := by
  rcases @returns_step _ .record _ _ _ returned with ⟨data, rest, rfl, remaining⟩
  change SessionData at data
  refine ⟨data, rest, rfl, ?_⟩
  intro observed member
  split at remaining
  · rw [@returns_last (.insert (.sessionRotatedAt now)) _ _ remaining, List.mem_singleton] at member
    rw [member]
    exact Or.inr rfl
  · split at remaining
    · rw [((Program.returns_pure _ _ _).mp remaining).1] at member
      cases member
    · rcases @returns_step _ .cycleId _ _ _ remaining with ⟨_, tail, rfl, writing⟩
      rw [@returns_last (.insert (.sessionRotatedAt now)) _ _ writing, List.mem_cons,
        List.mem_singleton] at member
      rcases member with rfl | rfl
      · exact Or.inl rfl
      · exact Or.inr rfl

/-! ## A guard in a journal -/

section Journal

variable {entry : Item app} {held : Session} {data old : SessionData}

theorem data_of_reading (leads : entry.Leads held) (seen : entry.seen = ⟨.record, data⟩) :
    held.data = some data := by
  rcases leads with ⟨draw, performed⟩
  rw [seen] at performed
  have read : perform entry.before entry.held .record draw = some (data, entry.after, held) :=
    performed
  rcases perform_record read with ⟨current, -, loaded⟩
  rw [loaded, current]
  rfl

theorem data_again (genuine : entry.Genuine) (seen : entry.seen = ⟨.record, data⟩)
    (loaded : entry.held.data = some old) : data = old := by
  rcases performed_of_genuine genuine seen with ⟨draw, held, performed⟩
  rw [(perform_record performed).1]
  simp only [Session.current, loaded]

theorem data_of_quiet (leads : entry.Leads held) {command : Command} {reply : command.Reply}
    (seen : entry.seen = ⟨command, reply⟩) (quiet : command.touchesSession = false)
    (loaded : entry.held.data = some old) : held.data = some old := by
  rcases leads with ⟨draw, performed⟩
  rw [seen] at performed
  have same : held = entry.held := perform_held quiet performed
  rw [same]
  exact loaded

end Journal

/-- What a guard that lets its request through has in its journal. -/
structure Passage (app : AppState) (guarding : List (Item app)) (role : OperatorRole)
    (data : SessionData) (idUser now : Int) : Prop where
  account : data.authenticatedUserId = some idUser
  fresh : Exists fun timestamp => data.authenticatedAt = some timestamp ∧
    Auth.saturatingSub now timestamp < Auth.absoluteLimit app
  stored : Exists fun read => Exists fun operator => read ∈ guarding ∧
    read.seen = ⟨.findById idUser, some operator⟩ ∧ operator.role = some role ∧
      read.held.data = some data ∧ data.authenticatedAuthzVersion = some operator.authzVersion
  first : Exists fun newer => Exists fun reading => guarding = newer ++ [reading] ∧
    reading.seen = ⟨.record, data⟩
  readings : forall other, Saw guarding .record other -> other = data
  clock : forall other, Saw guarding .now other -> other = now

/-- All readings of a passing guard agree, because nothing changes the copy in
between. -/
theorem passage_of_returns {later guarding : List (Item app)} {held : Session}
    (linked : Linked (later ++ guarding) held) {role : OperatorRole}
    (returned : (Auth.authorizedRole app).Returns (guarding.reverse.map Entry.seen) (some role)) :
    Exists fun data => Exists fun idUser => Exists fun now =>
      Passage app guarding role data idUser now := by
  rcases authorizedRole_returns returned with
      ⟨first, second, third, fourth, now, idUser, operator, timestamp, tail, transcript, owner,
      epoch, time, fresh, current, rotated⟩
  rcases rotate_returns rotated with ⟨fifth, writes, rfl, harmless⟩
  simp only [List.map_eq_cons_iff] at transcript
  rcases transcript with
      ⟨one, _, order, seen₁, two, _, rfl, seen₂, three, _, rfl, seen₃, four, _, rfl, seen₄, clock,
      _, rfl, seenClock, read, _, rfl, seenRead, again, ending, rfl, seen₅, rfl⟩
  have whole : guarding = ending.reverse ++ [again, read, clock, four, three, two, one] := by
    rw [← List.reverse_reverse guarding, order]
    simp
  have chain : forall front back next entry,
      [again, read, clock, four, three, two, one] = front ++ next :: entry :: back ->
      Entry.Leads entry next.held := by
    intro front back next entry shape
    rw [whole, shape, ← List.append_assoc, ← List.append_assoc] at linked
    exact linked.leads
  have leads₁ := chain [again, read, clock, four, three] [] two one rfl
  have leads₂ := chain [again, read, clock, four] [one] three two rfl
  have leads₃ := chain [again, read, clock] [two, one] four three rfl
  have leads₄ := chain [again, read] [three, two, one] clock four rfl
  have leads₅ := chain [again] [four, three, two, one] read clock rfl
  have leads₆ := chain [] [clock, four, three, two, one] again read rfl
  have loaded₂ := data_of_reading leads₁ seen₁
  rcases data_again ⟨_, leads₂⟩ seen₂ loaded₂ with rfl
  have loaded₃ := data_of_reading leads₂ seen₂
  rcases data_again ⟨_, leads₃⟩ seen₃ loaded₃ with rfl
  have loaded₄ := data_of_reading leads₃ seen₃
  rcases data_again ⟨_, leads₄⟩ seen₄ loaded₄ with rfl
  have loadedClock := data_of_reading leads₄ seen₄
  have loadedRead := data_of_quiet leads₅ seenClock rfl loadedClock
  have loaded₅ := data_of_quiet leads₆ seenRead rfl loadedRead
  have genuine : again.Genuine := by
    rw [whole, ← List.append_assoc] at linked
    exact linked.genuine
  rcases data_again genuine seen₅ loaded₅ with rfl
  have kinds : forall item, item ∈ guarding -> forall command : Command,
      item.seen.command = command -> command ≠ .cycleId ->
      command ≠ .insert (.sessionRotatedAt now) ->
      item ∈ [again, read, clock, four, three, two, one] := by
    intro item member command same notCycle notInsert
    rw [whole, List.mem_append, List.mem_reverse] at member
    rcases member with rotating | found
    · rcases harmless item.seen (List.mem_map_of_mem rotating) with cycle | insert
      · exact absurd (same.symm.trans cycle) notCycle
      · exact absurd (same.symm.trans insert) notInsert
    · exact found
  refine ⟨fifth, idUser, now, owner, ⟨timestamp, time, fresh⟩, ⟨read, operator, ?_, seenRead,
    current, loadedRead, epoch⟩, ⟨ending.reverse ++ [again, read, clock, four, three, two], one,
    ?_, seen₁⟩, ?_, ?_⟩
  · rw [whole]
    simp
  · rw [whole]
    simp
  · rintro other ⟨item, member, seen⟩
    have known := kinds item member .record (by rw [seen]) (by simp) (by simp)
    simp only [List.mem_cons, List.not_mem_nil, or_false] at known
    rcases known with rfl | rfl | rfl | rfl | rfl | rfl | rfl
    · cases seen₅.symm.trans seen
      rfl
    · cases seenRead.symm.trans seen
    · cases seenClock.symm.trans seen
    · cases seen₄.symm.trans seen
      rfl
    · cases seen₃.symm.trans seen
      rfl
    · cases seen₂.symm.trans seen
      rfl
    · cases seen₁.symm.trans seen
      rfl
  · rintro other ⟨item, member, seen⟩
    have known := kinds item member .now (by rw [seen]) (by simp) (by simp)
    simp only [List.mem_cons, List.not_mem_nil, or_false] at known
    rcases known with rfl | rfl | rfl | rfl | rfl | rfl | rfl
    · cases seen₅.symm.trans seen
    · cases seenRead.symm.trans seen
    · cases seenClock.symm.trans seen
      rfl
    · cases seen₄.symm.trans seen
    · cases seen₃.symm.trans seen
    · cases seen₂.symm.trans seen
    · cases seen₁.symm.trans seen

/-- No authentication bypass. -/
theorem authorizedRole_not_bypassed {state : State} (blank : state.Blank)
    {config : Config (machine app)}
    (reached : Reaches (service app) anyCommand (Config.idle state) config) {ticket : Nat}
    {thread : Thread (machine app)} (running : config.threads ticket = some thread)
    {later guarding : List (Item app)} (journal : thread.flight.own = later ++ guarding)
    {role : OperatorRole}
    (returned : (Auth.authorizedRole app).Returns (guarding.reverse.map Entry.seen) (some role))
    {data : SessionData} {idUser now : Int} (session : Saw guarding .record data)
    (holds : data.authenticatedUserId = some idUser) (clock : Saw guarding .now now) :
    LoggedIn thread.flight.inherited idUser ∧
      (Exists fun timestamp => Established thread.flight.inherited idUser timestamp ∧
        now - timestamp < app.adminSessionTimeLimitSeconds) ∧
      Exists fun read => Exists fun operator => read ∈ guarding ∧
        read.before.database.findOperator idUser = some operator ∧ operator.role = some role := by
  have recording := (growth app).journal_lasting (service app) anyCommand state
  have lasting := @provenance_lasting app state blank anyCommand
  rcases recording config reached with ⟨sound, recorded⟩
  have linked := (recorded ticket thread running).linked
  rw [journal] at linked
  rcases passage_of_returns linked returned with ⟨known, named, time, passage⟩
  rcases passage.readings data session with rfl
  rcases passage.clock now clock with rfl
  have traced := (lasting config reached).2 ticket thread running
  rcases passage.first with ⟨newer, reading, shape, seen⟩
  have vouched := traced.readings (later ++ newer) reading [] data
    (by rw [journal, shape, List.append_assoc]) seen
  have account := vouched.account (not_halfSigned_of_calm Without.nil)
  rw [passage.account] at holds
  cases holds
  rcases account _ passage.account with ⟨timestamp, stored, established, loggedIn⟩
  refine ⟨loggedIn, ⟨timestamp, established, ?_⟩, ?_⟩
  · rcases passage.fresh with ⟨compared, same, fresh⟩
    rw [stored] at same
    cases same
    simp only [Auth.saturatingSub, Auth.absoluteLimit, Auth.i64Max, Auth.i64Min] at fresh
    omega
  · rcases passage.stored with ⟨read, operator, member, seenRead, current, -, -⟩
    refine ⟨read, operator, member, ?_, current⟩
    have inLog : read ∈ config.world.log := by
      refine (recorded ticket thread running).own read ?_
      rw [journal]
      exact List.mem_append_right _ member
    exact operator_read (sound.genuine read inLog) seenRead

end Console

/-!
## A small installation

One administrator, a time-based code that only depends on the step, and no
session yet.  The runs that exhibit a behaviour start from here.
-/

namespace Sample

def app : AppState where
  clean := id
  decryptSecret := fun _ _ sealed => some sealed
  totpValue := fun _ => some (fun step => 100000 + step % 10)
  otpauthUri := fun secret label issuer => secret ++ label ++ issuer
  adminSessionTimeLimitSeconds := 3600
  sessionTimeoutSeconds := 1800
  firstTimeToken := none
  debugAssertions := false

def root : Option Database :=
  Database.empty.insertOperator 0 "root" "root@example" "admin" "hash"

def state : State where
  database := root.getD Database.empty
  sessions := SessionStore.empty
  now := 1000
  known := []

def visit (cookie : Option SessionId) : Visit := ⟨cookie, "192.0.2.1", fun _ => true⟩

abbrev Schedule := List (Action (Console.machine app))

def steps (ticket count : Nat) : Schedule := List.replicate count (.step ticket {})

def run (start : State) (schedule : Schedule) : Option (Config (Console.machine app)) :=
  (Config.idle start).play (Console.service app) schedule

theorem state_blank : state.Blank := by
  intro id row found
  cases found

def login : Request := ⟨visit none, .loginSubmit ⟨"root", "secret", "token"⟩⟩

/-- The administrator signs in and gets the session with id 7. -/
def opening : Schedule := [.accept login] ++ steps 0 19 ++ [.close 0 { sessionId := 7 }]

/-- After signing in the administrator opens a page, up to the end of its guard. -/
def visited : Option (Config (Console.machine app)) :=
  run state (opening ++ [.accept ⟨visit (some 7), .page OperatorRole.all⟩] ++ steps 1 7)

set_option maxRecDepth 100000 in
theorem authorizedRole_not_bypassed_visited :
    Exists fun config => Exists fun thread : Thread (Console.machine app) =>
      visited = some config ∧ config.threads 1 = some thread ∧
        Console.LoggedIn thread.flight.inherited 1 ∧
        (Exists fun timestamp => Console.Established thread.flight.inherited 1 timestamp ∧
          1000 - timestamp < 3600) ∧
        Exists fun read => Exists fun operator => read ∈ thread.flight.own ∧
          read.before.database.findOperator 1 = some operator ∧
            operator.role = some OperatorRole.admin := by
  have replayed : (visited.bind fun config => (config.threads 1).map fun thread =>
      ((Auth.authorizedRole app).replay thread.flight.transcript,
        Auth.authenticatedUserId.replay (thread.flight.transcript.take 1),
        (call .now).replay ((thread.flight.transcript.drop 4).take 1))) =
      some (some (some .admin), some (some 1), some (1000 : Int)) := by decide
  rcases Option.bind_eq_some_iff.mp replayed with ⟨config, played, found⟩
  rcases Option.map_eq_some_iff.mp found with ⟨thread, running, same⟩
  simp only [Prod.mk.injEq] at same
  rcases same with ⟨guarded, named, timed⟩
  rcases @Console.returns_step _ .record _ _ _
      ((Program.replay_eq_some Auth.authenticatedUserId _ _).mp named) with
      ⟨data, _, reading, ended⟩
  have holds := ((Program.returns_pure _ _ _).mp ended).2
  have clock := Console.returns_last ((Program.replay_eq_some (call .now) _ _).mp timed)
  have session : Saw thread.flight.own .record data := by
    have member : ⟨.record, data⟩ ∈ thread.flight.transcript.take 1 := by
      rw [reading]
      exact List.mem_cons_self
    exact saw_of_transcript (List.mem_of_mem_take member)
  have time : Saw thread.flight.own .now (1000 : Int) := by
    have member : ⟨.now, (1000 : Int)⟩ ∈ (thread.flight.transcript.drop 4).take 1 := by
      rw [clock]
      exact List.mem_cons_self
    exact saw_of_transcript (List.mem_of_mem_drop (List.mem_of_mem_take member))
  have returned := (Program.replay_eq_some (Auth.authorizedRole app) _ _).mp guarded
  exact ⟨config, thread, played, running,
    Console.authorizedRole_not_bypassed state_blank (Config.play_reaches _ played) running
      (List.nil_append _).symm returned session holds time⟩

end Sample
end KrakenUi
