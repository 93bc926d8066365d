import KrakenUi.Guarantees.Revocation
import KrakenUi.Guarantees.SecondFactor

namespace KrakenUi

open Interaction

/-!
# What the second step of a login is based on

The marker of a half-finished login names the account and nothing else, so the
second step cannot tell what has happened to the account since the password was
checked.  It reads the account again, checks the role of the row it finds, and
gives the session the epoch of that row.  A change of authority before this read
is what the session is based on, and a change after it leaves the session
behind, even if it comes before the session is established.
-/

namespace Console

variable {app : AppState}

/-- The entry accepted a password of the account in a login. -/
def ChecksPassword (item : Item app) (idUser : Int) : Prop :=
  Exists fun form => Exists fun record => Exists fun verification : PasswordVerification =>
    item.request.route = .loginSubmit form ∧
      item.seen = ⟨.spawnVerify idUser record form.password, .ok verification⟩ ∧
      verification.valid = true

/-- From the change on no guard lets a session with this account and epoch pass. -/
def Outdates (config : Config (machine app)) (change : Item app) (idUser version : Int) : Prop :=
  forall ticket thread, config.threads ticket = some thread ->
    forall later guarding, thread.flight.own = later ++ guarding ->
      forall data : SessionData, Saw guarding .record data ->
        data.authenticatedUserId = some idUser -> data.authenticatedAuthzVersion = some version ->
        (forall item, item ∈ guarding -> item.seen.command = .findById idUser ->
          change.moment < item.moment) ->
        forall answer,
          (Auth.authorizedRole app).Returns (guarding.reverse.map Entry.seen) answer ->
          answer = none

/-- How the establishment at the end of a second step came to its authority. -/
structure Adoption (config : Config (machine app)) (flight : Flight app) (established : Item app)
    (operator : Operator) (check mark read : Item app) : Prop where
  session : Exists fun data : SessionData => established.held.data = some data ∧
    data.authenticatedUserId = some operator.idUser ∧
    data.authenticatedAuthzVersion = some operator.authzVersion
  /-- The login that checked the password has parked the marker. -/
  checks : ChecksPassword check operator.idUser
  checked : check ∈ config.world.log
  parked : lastParked flight.inherited = some mark
  login : check.ticket = mark.ticket
  parking : check.moment < mark.moment
  /-- The second step has read the row after that, and uses its role and epoch. -/
  own : read ∈ flight.own
  seen : read.seen = ⟨.findById operator.idUser, some operator⟩
  reading : mark.moment < read.moment
  establishing : read.moment < established.moment
  stored : read.before.database.findOperator operator.idUser = some operator
  role : Auth.isConsoleRole operator.operatorType = true
  changes : forall change, change ∈ config.world.log ->
    ChangesAuthority change operator.idUser ->
      change.moment < read.moment ∨ Outdates config change operator.idUser operator.authzVersion

/-! ## The order of what a request inherits and does -/

/-- What a request has inherited is older than its uses of the session. -/
def inheritance (app : AppState) : Invariant (machine app) where
  Sound := fun _ => True
  Fits := fun _ flight => forall newer item older, flight.own = newer ++ item :: older ->
    accessesRecord item.seen.command = true ->
      forall ancestor, ancestor ∈ flight.inherited -> ancestor.moment < item.moment

theorem inheritance_kept (app : AppState) (contract : Contract (machine app))
    (allowed : Condition (machine app)) :
    ((growth app).journal.and (provenance app)).Kept (inheritance app) contract allowed where
  accept := by
    intro world ticket request _ _
    refine ⟨True.intro, ?_, fun other _ fits => fits⟩
    intro newer item older own
    cases newer <;> cases own
  execute := by
    intro world flight command draw reply after held sound fits _ before _ _ _ _ _
    refine ⟨True.intro, ?_, fun other _ otherFits => otherFits⟩
    intro newer item older own accesses ancestor member
    change flight.entry world command reply after :: flight.own = newer ++ item :: older at own
    change ancestor ∈ flight.inheriting world command at member
    cases newer with
    | nil =>
        rcases List.cons.inj own with ⟨rfl, rfl⟩
        have inLog : ancestor ∈ world.log := by
          unfold InFlight.inheriting at member
          split at member
          · exact sound.1.lineage _ ancestor member
          · exact fits.1.inherited ancestor member
        exact sound.1.counted ancestor inLog
    | cons newest newer =>
        rcases List.cons.inj own with ⟨-, rest⟩
        cases present : flight.held.data with
        | none =>
            have inside : item ∈ flight.own := by
              rw [rest]
              exact List.mem_append_right _ List.mem_cons_self
            have quiet := accessesRecord_touches (fits.2.untouched present item inside)
            rw [accesses] at quiet
            cases quiet
        | some data =>
            rw [inheriting_of_data present] at member
            exact before newer item older rest accesses ancestor member
  close := fun _ _ _ _ _ _ _ _ _ _ _ _ => ⟨True.intro, fun _ _ fits => fits⟩
  happen := fun _ _ _ _ _ _ _ => ⟨True.intro, fun _ _ fits => fits⟩

theorem moment_lt_of_older {own newer older : List (Item app)} {item earlier : Item app}
    (ordered : own.Pairwise fun newer older : Item app => older.moment < newer.moment)
    (whole : own = newer ++ item :: older) (member : earlier ∈ older) :
    earlier.moment < item.moment := by
  rw [whole] at ordered
  exact (List.pairwise_cons.mp (List.pairwise_append.mp ordered).2.1).1 earlier member

theorem command_of_landmark {command : Command} (lands : landmark command = true) :
    Exists fun timestamp => command = .insert (.authenticatedAt timestamp) := by
  cases command with
  | insert value =>
      cases value with
      | authenticatedAt timestamp => exact ⟨timestamp, rfl⟩
      | _ => cases lands
  | _ => cases lands

/-- A change after the read of a row outdates the epoch of the row. -/
theorem outdates_of_read {state : State} {config : Config (machine app)}
    (reached : Reaches (service app) anyCommand (Config.idle state) config)
    {read change : Item app} {operator : Operator} (readMember : read ∈ config.world.log)
    (reads : Reads read operator) (member : change ∈ config.world.log)
    (changes : ChangesAuthority change operator.idUser) (later : read.moment < change.moment) :
    Outdates config change operator.idUser operator.authzVersion := by
  rcases (growth app).journal_lasting (service app) anyCommand state config reached with
      ⟨sound, recorded⟩
  have reachedThen := (atLeast_read (sound.genuine read readMember) reads).later
    (sound.between read change readMember member later).database
  rcases sound.genuine change member with ⟨session, draw, changed⟩
  have opened := atLeast_opened reachedThen changes changed
  intro ticket thread running newest guarding journal data saw named copied afterwards answer
    returned
  cases answer with
  | none => rfl
  | some role =>
  exfalso
  have linked := (recorded ticket thread running).linked
  rw [journal] at linked
  rcases passage_of_returns linked returned with ⟨known, owner, now, passage⟩
  rcases passage.readings data saw with rfl
  cases named.symm.trans passage.account
  rcases passage.stored with ⟨guard, found, guardMember, seen, -, -, epoch⟩
  have inLog := (recorded ticket thread running).own guard
    (by rw [journal]; exact List.mem_append_right _ guardMember)
  have order := afterwards guard guardMember (by rw [seen])
  have current := opened.later (sound.between change guard member inLog order).database
  have stored := Database.findOperator_eq_some.mp (operator_read (sound.genuine guard inLog) seen)
  have bound := current.epoch found stored.1 stored.2
  have same := Option.some.inj (copied.symm.trans epoch)
  omega

/-- The login behind a marker that the code step has found. -/
theorem login_of_marker {world : World (machine app)} {flight : Flight app}
    (recorded : flight.Recorded (growth app) world) (traced : Traced flight)
    (inherits : (inheritance app).Fits world flight) {form : MfaCodeForm}
    (route : flight.request.route = .mfaVerify form) {newer older : List (Item app)}
    (own : flight.own = newer ++ older) {idUser : Int} (marker : FreshMarker older idUser) :
    Exists fun check => Exists fun mark =>
      lastParked flight.inherited = some mark ∧ ChecksPassword check idUser ∧
        check ∈ flight.inherited ∧ mark ∈ flight.inherited ∧ check.ticket = mark.ticket ∧
        check.moment < mark.moment ∧
        Exists fun reading => reading ∈ older ∧ mark.moment < reading.moment := by
  rcases marker with ⟨data, startedAt, now, ⟨reading, member, seen⟩, owner, started, -⟩
  rcases List.append_of_mem member with ⟨front, back, whole⟩
  have split : flight.own = (newer ++ front) ++ reading :: back := by
    rw [own, whole, List.append_assoc]
  rcases traced.unmarked (by rw [route]; exact fun _ same => by cases same) with
      ⟨unmarked, unparked⟩
  rw [split, List.append_cons] at unmarked unparked
  have settled : ¬ HalfParked back := by
    rintro ⟨⟨item, inside, marks⟩, -⟩
    rw [(Without.append_iff.mp unmarked).2 item inside] at marks
    cases marks
  rcases (traced.readings (newer ++ front) reading back data split seen).marker settled idUser
      startedAt owner started with
      ⟨mark, login, part, last, -, ⟨subset, signed⟩, before, accepted, -⟩
  rw [lastParked_append (Without.append_iff.mp unparked).2] at last
  rcases accepted with
      ⟨username, operator, verification, -, -, ⟨check, checkMember, checked⟩, valid⟩
  rcases signed check checkMember with ⟨sameTicket, login⟩
  have markMember : mark ∈ flight.inherited := List.mem_of_find?_eq_some last
  have checkInherited : check ∈ flight.inherited := by
    rcases List.mem_append.mp (subset checkMember) with mine | inherited
    · have inside : check ∈ flight.own := by
        rw [split]
        exact List.mem_append_right _ (List.mem_cons_of_mem _ mine)
      rw [(recorded.signed check inside).2.1, route] at login
      cases login
    · exact inherited
  refine ⟨check, mark, last, ⟨_, _, verification, login, checked, valid⟩, checkInherited,
    markMember, sameTicket, before check checkMember, reading, member, ?_⟩
  exact inherits (newer ++ front) reading back split (by rw [seen]; rfl) mark markMember

/-- The second step of a login adopts the authority that the account has when it
reads the row.  What changes afterwards ends the session that it establishes. -/
theorem mfaVerify_adopts_read {state : State} (blank : state.Blank) {config : Config (machine app)}
    (reached : Reaches (service app) anyCommand (Config.idle state) config) {ticket : Nat}
    {thread : Thread (machine app)} (running : config.threads ticket = some thread)
    {form : MfaCodeForm} (route : thread.flight.request.route = .mfaVerify form)
    {newer older : List (Item app)} {established : Item app}
    (journal : thread.flight.own = newer ++ established :: older)
    (establishes : landmark established.seen.command = true) :
    Exists fun operator => Exists fun check => Exists fun mark => Exists fun read =>
      Adoption config thread.flight established operator check mark read := by
  have recording := (growth app).journal_lasting (service app) anyCommand state
  have lasting := @provenance_lasting app state blank anyCommand
  rcases recording config reached with ⟨sound, recorded⟩
  have mine := recorded ticket thread running
  have traced := (lasting config reached).2 ticket thread running
  have inherits := ((inheritance_kept app freely anyCommand).lasting (obeys_freely _)
    (fun _ => rfl) (recording.and lasting) True.intro config reached).2 ticket thread running
  rcases (Contract.obeyed_lasting (obeys_finalising app) anyCommand state config reached).2 ticket
      thread running newer established older journal with ⟨earlier, rfl, held, request, permitted⟩
  rcases command_of_landmark establishes with ⟨timestamp, command⟩
  rw [command] at permitted
  rcases permitted form (by rw [request]; exact route) with
      ⟨operator, ⟨front, read, back, inner, seen, role, marker, -⟩, data, loaded, owner, epoch⟩
  rw [held] at loaded
  -- The marker was found before the row was read, the row before the establishment.
  have own : thread.flight.own = (newer ++ established :: front) ++ read :: back := by
    rw [journal, inner, List.append_assoc, List.cons_append]
  have readOwn : read ∈ thread.flight.own := by
    rw [own]
    exact List.mem_append_right _ List.mem_cons_self
  have readBefore : read.moment < established.moment := by
    apply moment_lt_of_older mine.ordered journal
    rw [inner]
    exact List.mem_append_right _ List.mem_cons_self
  rcases login_of_marker mine traced inherits route (own.trans (List.append_cons _ _ _)) marker with
      ⟨check, mark, last, checks, checkMember, -, sameTicket, parking, reading, readingMember,
      found⟩
  have readingBefore := moment_lt_of_older mine.ordered own readingMember
  have inLog := mine.own read readOwn
  refine ⟨operator, check, mark, read, ?_⟩
  exact {
    session := ⟨data, loaded, owner, epoch⟩
    checks := checks
    checked := mine.inherited check checkMember
    parked := last
    login := sameTicket
    parking := parking
    own := readOwn
    seen := seen
    reading := Nat.lt_trans found readingBefore
    establishing := readBefore
    stored := operator_read (sound.genuine read inLog) seen
    role := role
    changes := by
      intro change member changes
      rcases Nat.lt_trichotomy change.moment read.moment with before | same | later
      · exact Or.inl before
      · exfalso
        rw [sound.unique member inLog same] at changes
        unfold ChangesAuthority at changes
        rw [seen] at changes
        cases changes
      · right
        exact outdates_of_read reached inLog (Or.inr (Or.inl ⟨_, seen⟩)) member changes later }

end Console

namespace Sample

def finish : Request := ⟨visit (some 8), .mfaVerify ⟨"100005", "token"⟩⟩

/-- Two-factor is switched on, and the administrator checks the password again:
session 8 has the marker. -/
def halfway : Schedule :=
  opening ++ [.accept enroll] ++ steps 1 20 ++ [.close 1 {}] ++ confirming 2 ++
    [.accept login] ++ steps 3 13 ++ [.close 3 { sessionId := 8 }, .happen 60]

/-- Through session 7 the password is changed before the second step. -/
def changedMeanwhile : Schedule :=
  halfway ++ [.accept (changeOwnPassword 7)] ++ steps 4 12 ++ [.accept finish] ++ steps 5 20

/-- Through session 7 the password is changed after the second step has read the row. -/
def changedMidway : Schedule :=
  halfway ++ [.accept (changeOwnPassword 7)] ++ steps 4 11 ++ [.accept finish] ++ steps 5 12 ++
    steps 4 1 ++ steps 5 8

def checksPassword (item : Console.Item app) : Bool :=
  match item.request.route, item.seen with
  | .loginSubmit form, ⟨.spawnVerify idUser _ password, .ok verification⟩ =>
      decide (idUser = 1) && decide (password = form.password) && verification.valid
  | _, _ => false

theorem checksPassword_sound {item : Console.Item app} (passed : checksPassword item = true) :
    Console.ChecksPassword item 1 := by
  unfold checksPassword at passed
  split at passed
  · rename_i form idUser record password verification route seen
    simp only [Bool.and_eq_true, decide_eq_true_eq] at passed
    rcases passed with ⟨⟨rfl, rfl⟩, valid⟩
    exact ⟨form, record, verification, route, seen, valid⟩
  · cases passed

def signsInWithCode : Route -> Bool
  | .mfaVerify _ => true
  | _ => false

/-- The moments of the password check, of the newest change of the administrator's
authority and of the establishment that the second step has just made. -/
def moments (config : Config (Console.machine app)) : Option (Nat × Nat × Nat) := do
  let thread ← config.threads 5
  let established ← thread.flight.own.head?
  let mark ← Console.lastParked thread.flight.inherited
  let check ← config.world.log.find? fun item =>
    decide (item.ticket = mark.ticket) && checksPassword item
  let change ← config.world.log.find? fun item =>
    item.seen.command.opensEpoch item.seen.reply 1
  if Console.landmark established.seen.command = true ∧
      signsInWithCode thread.flight.request.route = true then
    some (check.moment, change.moment, established.moment)
  else none

theorem moments_some {config : Config (Console.machine app)} {checking changing establishing : Nat}
    (found : moments config = some (checking, changing, establishing)) :
    Exists fun thread => Exists fun form => Exists fun established => Exists fun older =>
    Exists fun mark => Exists fun check => Exists fun change =>
      config.threads 5 = some thread ∧ thread.flight.request.route = .mfaVerify form ∧
        thread.flight.own = established :: older ∧
        Console.landmark established.seen.command = true ∧
        Console.lastParked thread.flight.inherited = some mark ∧
        check ∈ config.world.log ∧ Console.ChecksPassword check 1 ∧ check.ticket = mark.ticket ∧
        change ∈ config.world.log ∧ Console.ChangesAuthority change 1 ∧
        check.moment = checking ∧ change.moment = changing ∧ established.moment = establishing := by
  rcases Option.bind_eq_some_iff.mp found with ⟨thread, running, opened⟩
  rcases Option.bind_eq_some_iff.mp opened with ⟨established, newest, parked⟩
  rcases Option.bind_eq_some_iff.mp parked with ⟨mark, last, checking⟩
  rcases Option.bind_eq_some_iff.mp checking with ⟨check, first, changing⟩
  rcases Option.bind_eq_some_iff.mp changing with ⟨change, second, ended⟩
  split at ended
  · rename_i holds
    simp only [Option.some.injEq, Prod.mk.injEq] at ended
    have changes := List.find?_some second
    have checks := List.find?_some first
    simp only [Bool.and_eq_true, decide_eq_true_eq] at checks
    rcases List.head?_eq_some_iff.mp newest with ⟨older, own⟩
    have routed : Exists fun form => thread.flight.request.route = .mfaVerify form := by
      have code := holds.2
      cases route : thread.flight.request.route with
      | mfaVerify form => exact ⟨form, rfl⟩
      | _ =>
          rw [route] at code
          cases code
    rcases routed with ⟨form, route⟩
    exact ⟨thread, form, established, older, mark, check, change, running, route, own, holds.1,
      last, List.mem_of_find?_eq_some first, checksPassword_sound checks.2, checks.1,
      List.mem_of_find?_eq_some second, changes, ended.1, ended.2.1, ended.2.2⟩
  · cases ended

set_option maxRecDepth 100000 in
theorem mfaVerify_adopts_read_midway :
    Exists fun config => Exists fun thread => Exists fun established => Exists fun older =>
    Exists fun operator => Exists fun check => Exists fun mark => Exists fun read =>
      run state changedMidway = some config ∧ config.threads 5 = some thread ∧
        thread.flight.own = established :: older ∧
        Console.Adoption config thread.flight established operator check mark read := by
  have replayed : ((run state changedMidway).bind moments).isSome = true := by decide +kernel
  rcases Option.isSome_iff_exists.mp replayed with ⟨⟨checking, changing, establishing⟩, found⟩
  rcases Option.bind_eq_some_iff.mp found with ⟨config, played, measured⟩
  rcases moments_some measured with
      ⟨thread, form, established, older, -, -, -, running, route, own, lands, -⟩
  rcases Console.mfaVerify_adopts_read state_blank (Config.play_reaches _ played) running route
      (own.trans (List.nil_append _).symm) lands with ⟨operator, check, mark, read, adoption⟩
  exact ⟨config, thread, established, older, operator, check, mark, read, played, running, own,
    adoption⟩

set_option maxRecDepth 100000 in
/-- A change of the password does not stop a login that has checked the old one. -/
theorem halfLogin_outlives_change :
    ¬ forall config, Reaches (Console.service app) anyCommand (Config.idle state) config ->
      forall ticket thread, config.threads ticket = some thread ->
      forall form, thread.flight.request.route = .mfaVerify form ->
      forall newer established older, thread.flight.own = newer ++ established :: older ->
      Console.landmark established.seen.command = true ->
      forall mark, Console.lastParked thread.flight.inherited = some mark ->
      forall check idUser, check ∈ config.world.log -> Console.ChecksPassword check idUser ->
      check.ticket = mark.ticket ->
      forall change, change ∈ config.world.log -> Console.ChangesAuthority change idUser ->
        ¬ (check.moment < change.moment ∧ change.moment < established.moment) := by
  intro excluded
  have replayed : ((run state changedMeanwhile).bind moments) = some (61, 80, 100) := by
    decide +kernel
  rcases Option.bind_eq_some_iff.mp replayed with ⟨config, played, measured⟩
  rcases moments_some measured with
      ⟨thread, form, established, older, mark, check, change, running, route, own, lands, last,
      checkMember, checks, same, changeMember, changes, checking, changing, establishing⟩
  apply excluded config (Config.play_reaches _ played) 5 thread running form route [] established
    older own lands mark last check 1 checkMember checks same change changeMember changes
  omega

end Sample
end KrakenUi
