import KrakenUi.Protocol.Accounts
import KrakenUi.Protocol.Finalisation
import KrakenUi.Protocol.Provenance

namespace KrakenUi

open Interaction Storage

/-!
# The epoch of an account and its copies

A session record keeps a copy of the epoch that its account had when a request
read the row.  The copy is written at a sign-in, and again whenever a request
refreshes the record after a change.  Epochs only rise, so an old copy tells
which changes it cannot have seen.

A change of an account overrules a session of it that had been established
before, unless the change was made through that session.  The invariant says
that no version of a record has the epoch of a change that overrules it.
-/

namespace Database

/-- If the account still has a row, its epoch is at least this. -/
structure AtLeast (database : Database) (idUser version : Int) : Prop where
  issued : idUser ≤ database.operators.sequence
  epoch : forall operator, operator ∈ database.operators.rows -> operator.idUser = idUser ->
    version ≤ operator.authzVersion

variable {database after : Database} {idUser version : Int} {operator : Operator}

theorem atLeast_of_member (member : operator ∈ database.operators.rows) :
    database.AtLeast operator.idUser operator.authzVersion where
  issued := database.operators.bounded operator member
  epoch := by
    intro other otherMember same
    rw [database.operators.unique otherMember member same]

theorem AtLeast.later (reached : database.AtLeast idUser version)
    (later : database.Later after) : after.AtLeast idUser version where
  issued := Int.le_trans reached.issued later.operators.1
  epoch := by
    rintro operator member rfl
    rcases later.operators.2 operator member reached.issued with ⟨old, oldMember, same, risen⟩
    exact Int.le_trans (reached.epoch old oldMember same) risen

end Database

namespace Console

variable {app : AppState}

section Steps

variable {state next : State} {session held : Session} {command : Command}
  {reply : command.Reply} {draw : Draw} {idUser version : Int}

/-- After a change of its authority the account has left every epoch before. -/
theorem atLeast_opened (reached : state.database.AtLeast idUser version)
    (opens : command.opensEpoch reply idUser = true)
    (performed : perform state session command draw = some (reply, next, held)) :
    next.database.AtLeast idUser (version + 1) where
  issued := (reached.later (later_database performed)).issued
  epoch := by
    rintro operator member rfl
    rcases row_before performed member with ⟨old, oldMember, descends⟩ | ⟨fresh, -⟩
    · have before := reached.epoch old oldMember descends.key
      have risen := descends.epoch
      rw [opens, if_pos rfl] at risen
      omega
    · have issued := reached.issued
      omega

end Steps

section Entries

variable {item : Item app} {operator : Operator}

/-- What a request has read of an account holds from then on. -/
theorem atLeast_read (genuine : item.Genuine) (reads : Reads item operator) :
    item.after.database.AtLeast operator.idUser operator.authzVersion := by
  have found : forall {idUser : Int}, item.after.database.findOperator idUser = some operator ->
      item.after.database.AtLeast operator.idUser operator.authzVersion :=
    fun stored => Database.atLeast_of_member (Database.findOperator_eq_some.mp stored).1
  rcases reads with ⟨username, seen⟩ | ⟨idUser, seen⟩ | ⟨idUser, input, hash, seen⟩ |
    ⟨idUser, hash, seen⟩
  · rcases performed_of_genuine genuine seen with ⟨draw, held, performed⟩
    have parts : some (item.before.database.operators.find fun operator =>
        operator.username = username, item.before, item.held) =
      some (some operator, item.after, held) := performed
    simp only [Option.some.injEq, Prod.mk.injEq] at parts
    rw [← parts.2.1]
    exact Database.atLeast_of_member (AutoTable.find_mem parts.1)
  · rcases performed_of_genuine genuine seen with ⟨draw, held, performed⟩
    rcases perform_findById performed with ⟨stored, same⟩
    apply found
    rw [same]
    exact stored.symm
  · rcases performed_of_genuine genuine seen with ⟨draw, held, performed⟩
    exact found (Database.changeAndLoad_spec (commit_some performed).1).2
  · rcases performed_of_genuine genuine seen with ⟨draw, held, performed⟩
    exact found (Database.changeAndLoad_spec (commit_some performed).1).2

end Entries

/-! ## Changes that overrule a session -/

/-- The entry committed a change of the account's authority. -/
def ChangesAuthority (item : Item app) (idUser : Int) : Prop :=
  item.seen.command.opensEpoch item.seen.reply idUser = true

/-- The change came after the establishment, and not from a request of its session. -/
structure Overrules (established change : Item app) (idUser : Int) : Prop where
  changes : ChangesAuthority change idUser
  later : established.moment < change.moment
  foreign : change.era ≠ some established.moment

/-- The epoch of the record is one the account had before every change that
overrules the record, and still had not passed. -/
def Antedated (world : World (machine app)) (history : List (Item app)) (data : SessionData) :
    Prop :=
  forall idUser version, data.authenticatedUserId = some idUser ->
    data.authenticatedAuthzVersion = some version ->
      world.state.database.AtLeast idUser version ∧
        forall established change, lastLandmark history = some established ->
          change ∈ world.log -> Overrules established change idUser ->
            change.before.database.AtLeast idUser version

namespace Antedated

variable {world world' : World (machine app)} {history newer : List (Item app)}
  {data changed : SessionData}

theorem empty (world : World (machine app)) (history : List (Item app)) :
    Antedated world history {} := by
  intro idUser version named
  cases named

theorem same (antedated : Antedated world history data)
    (account : changed.authenticatedUserId = data.authenticatedUserId)
    (epoch : changed.authenticatedAuthzVersion = data.authenticatedAuthzVersion) :
    Antedated world history changed := by
  intro idUser version named copied
  rw [account] at named
  rw [epoch] at copied
  exact antedated idUser version named copied

theorem append (antedated : Antedated world history data) (absent : Without landmark newer) :
    Antedated world (newer ++ history) data := by
  intro idUser version named copied
  rcases antedated idUser version named copied with ⟨current, before⟩
  refine ⟨current, ?_⟩
  intro established change last
  rw [lastLandmark_append absent] at last
  exact before established change last

/-- Time passes without a new entry. -/
theorem later (antedated : Antedated world history data)
    (grown : world.state.database.Later world'.state.database) (log : world'.log = world.log) :
    Antedated world' history data := by
  intro idUser version named copied
  rcases antedated idUser version named copied with ⟨current, before⟩
  refine ⟨current.later grown, ?_⟩
  rw [log]
  exact before

/-- Another command is performed, which may be a change. -/
theorem record (antedated : Antedated world history data) (flight : Flight app) {command : Command}
    {draw : Draw} {reply : command.Reply} {after : State} {held : Session}
    (performed : perform world.state flight.held command draw = some (reply, after, held)) :
    Antedated (world.record (flight.entry world command reply after)) history data := by
  intro idUser version named copied
  rcases antedated idUser version named copied with ⟨current, before⟩
  refine ⟨current.later (later_database performed), ?_⟩
  intro established change last member overrules
  rcases List.mem_cons.mp member with rfl | old
  · exact current
  · exact before established change last old overrules

end Antedated

/-! ## Refreshes -/

/-- Between a guard of the request and a read with this epoch no other session
changed the account's authority. -/
def InStep (world : World (machine app)) (flight : Flight app) (idUser version : Int) : Prop :=
  Exists fun guard => Exists fun read => Exists fun operator =>
    guard ∈ flight.own ∧ Passed guard idUser ∧ read ∈ flight.own ∧ Reads read operator ∧
      operator.idUser = idUser ∧ operator.authzVersion = version ∧
      forall change, change ∈ world.log -> ChangesAuthority change idUser ->
        change.era ≠ flight.era -> change.moment < guard.moment ∨ read.moment < change.moment

/-- A refresh copies an epoch in step with the guard that let its request pass. -/
def refreshesInStep : Condition (machine app) := fun world flight command =>
  forall idUser version, command = .insert (.authenticatedAuthzVersion version) ->
    flight.request.route.signsIn = false -> Identified flight idUser ->
      InStep world flight idUser version

section Requests

variable {world : World (machine app)} {flight : Flight app} {command : Command} {draw : Draw}
  {reply : command.Reply} {after : State} {held : Session} {data : SessionData}

/-- The rows of the store. -/
def StoredAntedated (world : World (machine app)) : Prop :=
  forall id row, world.state.sessions.row id = some row ->
    Antedated world (world.lineage id) row.record.data

/-- The copy of a request, and what its guards have ruled out. -/
structure Dated (world : World (machine app)) (flight : Flight app) : Prop where
  loaded : forall data, flight.held.data = some data ->
    ¬ HalfSigned flight.request.route flight.own ->
      Antedated world (flight.own ++ flight.inherited) data
  guards : forall newer guard older idUser, flight.own = newer ++ guard :: older ->
    Passed guard idUser -> ¬ HalfSigned flight.request.route older ->
      forall established change, lastLandmark (older ++ flight.inherited) = some established ->
        change ∈ world.log -> Overrules established change idUser ->
          guard.moment ≤ change.moment
  unsigned : flight.request.route.signsIn = false -> Without landmark flight.own

/-- A request that has not touched its session holds what it has always held. -/
theorem held_of_untouched {items : List (Item app)} {held : Session} (linked : Linked items held)
    (untouched : Without Command.touchesSession items) :
    forall item, item ∈ items -> item.held = held := by
  induction items generalizing held with
  | nil => exact fun item member => absurd member List.not_mem_nil
  | cons entry older inductionHypothesis =>
      rcases Without.cons_iff.mp untouched with ⟨quiet, rest⟩
      rcases linked with ⟨⟨draw, performed⟩, earlier⟩
      have same : held = entry.held := perform_held quiet performed
      intro item member
      rw [same]
      rcases List.mem_cons.mp member with rfl | old
      · rfl
      · exact inductionHypothesis earlier rest item old

/-- A new entry without a landmark does not end the middle of a sign-in. -/
theorem halfSigned_cons {route : Route} {item : Item app} {own : List (Item app)}
    (plain : landmark item.seen.command = false) (half : HalfSigned route own) :
    HalfSigned route (item :: own) := by
  rcases half with ⟨signs, ⟨naming, member, names⟩, absent⟩
  exact ⟨signs, ⟨naming, List.mem_cons_of_mem _ member, names⟩,
    Without.cons_iff.mpr ⟨plain, absent⟩⟩

/-- What a request has in hand when it uses the session is antedated. -/
theorem antedated_current (stored : StoredAntedated world) (traced : Traced flight)
    (dated : Dated world flight) (settled : ¬ HalfSigned flight.request.route flight.own)
    (command : Command) (accesses : accessesRecord command = true) :
    Antedated world (flight.own ++ flight.inheriting world command)
      (flight.held.current world.state) := by
  rcases fetched_cases world flight command accesses with ⟨data, loaded, current, inherits⟩ |
    ⟨missing, current, -, inherits⟩ | ⟨id, row, missing, -, found, current, -, inherits⟩
  · rw [current, inherits]
    exact dated.loaded data loaded settled
  · rw [current]
    exact Antedated.empty _ _
  · rw [current, inherits]
    apply (stored id row found).append
    exact (calm_of_untouched (traced.untouched missing)).narrow fun _ => unlandmarked_of_calm

/-- A refresh in step copies an epoch that is not newer than any overruling change. -/
theorem antedated_refresh (sound : world.Recorded (growth app))
    (recorded : flight.Recorded (growth app) world) (dated : Dated world flight) {idUser version : Int}
    (other : flight.request.route.signsIn = false) (inStep : InStep world flight idUser version) :
    world.state.database.AtLeast idUser version ∧
      forall established change,
        lastLandmark (flight.own ++ flight.inherited) = some established ->
          change ∈ world.log -> Overrules established change idUser ->
            change.before.database.AtLeast idUser version := by
  rcases inStep with
      ⟨guard, read, operator, guardMember, passed, readMember, reads, rfl, rfl, apart⟩
  have inLog := recorded.own read readMember
  have reached := atLeast_read (sound.genuine read inLog) reads
  refine ⟨reached.later (sound.current read inLog).database, ?_⟩
  intro established change last member overrules
  have foreign : change.era ≠ flight.era := by
    have era : flight.era = some established.moment := by
      unfold InFlight.era InFlight.history
      rw [last, Option.map_some]
    rw [era]
    exact overrules.foreign
  rcases apart change member overrules.changes foreign with before | afterwards
  · rcases List.append_of_mem guardMember with ⟨newer, older, own⟩
    have unsigned := dated.unsigned other
    have settled : ¬ HalfSigned flight.request.route older := by
      rintro ⟨signs, -⟩
      rw [other] at signs
      cases signs
    have same : lastLandmark (older ++ flight.inherited) = some established := by
      rw [own, List.append_cons] at unsigned
      rw [own, List.append_cons, List.append_assoc,
        lastLandmark_append (Without.append_iff.mp unsigned).1] at last
      exact last
    have bound := dated.guards newer guard older _ own passed settled established change same
      member overrules
    omega
  · exact reached.later (sound.between read change inLog member afterwards).database

/-- The copy after a command, wherever it came from. -/
theorem antedated_perform (sound : world.Recorded (growth app))
    (recorded : flight.Recorded (growth app) world) (stored : StoredAntedated world)
    (traced : Traced flight) (dated : Dated world flight) (permitted : Permitted flight command)
    (finalises : (finalising app).Permitted flight command)
    (meets : refreshesInStep world flight command)
    (performed : perform world.state flight.held command draw = some (reply, after, held))
    (loaded : held.data = some data)
    (settled : ¬ HalfSigned flight.request.route
      (flight.entry world command reply after :: flight.own)) :
    Antedated (world.record (flight.entry world command reply after))
      (flight.entry world command reply after :: flight.own ++ flight.inheriting world command)
      data := by
  -- A command that keeps the account and the epoch of the copy.
  have keeping : forall {old : SessionData}, landmark command = false ->
      (¬ HalfSigned flight.request.route flight.own ->
        Antedated world (flight.own ++ flight.inheriting world command) old) ->
      data.authenticatedUserId = old.authenticatedUserId ->
      data.authenticatedAuthzVersion = old.authenticatedAuthzVersion ->
      Antedated (world.record (flight.entry world command reply after))
        (flight.entry world command reply after :: flight.own ++ flight.inheriting world command)
        data := by
    intro old plain antedated account epoch
    have before := (antedated fun half => settled (halfSigned_cons plain half)).same account epoch
    have one : Without landmark [flight.entry world command reply after] :=
      Without.cons_iff.mpr ⟨plain, Without.nil⟩
    exact (before.append one).record flight performed
  have current : accessesRecord command = true ->
      ¬ HalfSigned flight.request.route flight.own ->
        Antedated world (flight.own ++ flight.inheriting world command)
          (flight.held.current world.state) :=
    fun accesses whole => antedated_current stored traced dated whole command accesses
  cases command with
  | record =>
      rw [(perform_record performed).2.2] at loaded
      cases loaded
      exact keeping rfl (current rfl) rfl rfl
  | cycleId =>
      rw [(perform_cycleId performed).2] at loaded
      cases loaded
      exact keeping rfl (current rfl) rfl rfl
  | flush =>
      rw [(perform_flush performed).2] at loaded
      cases loaded
      exact Antedated.empty _ _
  | remove key =>
      rw [(perform_remove performed).2] at loaded
      cases loaded
      cases key <;> exact keeping rfl (current rfl) rfl rfl
  | insert value =>
      rw [(perform_insert performed).2] at loaded
      cases loaded
      cases value with
      | authenticatedUserId idUser =>
          by_cases signs : flight.request.route.signsIn = true
          · simp only [Permitted, signs, if_true] at permitted
            refine absurd ⟨signs, ⟨_, List.mem_cons_self, rfl⟩, ?_⟩ settled
            refine Without.cons_iff.mpr ⟨rfl, ?_⟩
            exact permitted.2.2.1.narrow fun _ => unlandmarked_of_calm
          · simp only [Permitted, signs] at permitted
            rcases permitted with ⟨old, present, owner⟩
            have same : flight.held.current world.state = old := Session.current_of_data _ present
            apply keeping rfl (current rfl) _ rfl
            rw [same]
            exact owner.symm
      | authenticatedAuthzVersion version =>
          have other : flight.request.route.signsIn = false := by
            cases signs : flight.request.route.signsIn with
            | false => rfl
            | true => exact absurd (halfSigned_cons rfl (finalises signs)) settled
          rcases permitted with ⟨idUser, ⟨old, present, owner⟩, -⟩
          have same : flight.held.current world.state = old := Session.current_of_data _ present
          rw [inheriting_of_data present, same]
          intro named copied holds copies
          cases copies
          cases holds.symm.trans owner
          rcases antedated_refresh sound recorded dated other
              (meets idUser version rfl other ⟨old, present, owner⟩) with ⟨reached, before⟩
          refine ⟨reached.later (later_database performed), ?_⟩
          intro established change last member overrules
          rcases List.mem_cons.mp member with rfl | older
          · cases overrules.changes
          · apply before established change _ older overrules
            rw [← last]
            exact (lastLandmark_append (Without.cons_iff.mpr ⟨rfl, Without.nil⟩) _).symm
      | authenticatedAt timestamp =>
          rcases permitted with ⟨-, -, -, idUser, version, old, present, owner, epoch, -, -, read⟩
          have same : flight.held.current world.state = old := Session.current_of_data _ present
          rw [same]
          intro named copied holds copies
          cases holds.symm.trans owner
          cases copies.symm.trans epoch
          rcases read with ⟨item, member, operator, reads, rfl, rfl⟩
          have inLog := recorded.own item member
          have reached := (atLeast_read (sound.genuine item inLog) reads).later
            (sound.current item inLog).database
          refine ⟨reached.later (later_database performed), ?_⟩
          intro established change last inside overrules
          -- The new landmark is younger than every change so far.
          have newest : established =
              flight.entry world (.insert (.authenticatedAt timestamp)) reply after := by
            have first : lastLandmark (flight.entry world (.insert (.authenticatedAt timestamp))
                reply after :: flight.own ++
                  flight.inheriting world (.insert (.authenticatedAt timestamp))) =
                some (flight.entry world (.insert (.authenticatedAt timestamp)) reply after) :=
              List.find?_cons_of_pos rfl
            exact Option.some.inj (last.symm.trans first)
          have later := overrules.later
          rw [newest] at later
          rcases List.mem_cons.mp inside with rfl | older
          · exact absurd later (Nat.lt_irrefl _)
          · exact absurd (sound.counted change older) (Nat.not_lt.mpr (Nat.le_of_lt later))
      | _ => exact keeping rfl (current rfl) rfl rfl
  | _ =>
      rw [perform_held rfl performed] at loaded
      rw [inheriting_of_quiet rfl] at keeping ⊢
      exact keeping rfl (dated.loaded data loaded) rfl rfl

/-- A guard that passes excludes the overruling changes that came before it. -/
theorem passed_after_none (sound : world.Recorded (growth app)) {idUser : Int}
    {history : List (Item app)} (antedated : forall data, flight.held.data = some data ->
      Antedated world history data)
    (passed : Passed (flight.entry world command reply after) idUser)
    (performed : perform world.state flight.held command draw = some (reply, after, held))
    {established change : Item app} (last : lastLandmark history = some established)
    (member : change ∈ world.log) (overrules : Overrules established change idUser) : False := by
  rcases passed with ⟨operator, data, seen, owner, loaded, named, epoch⟩
  rcases antedated data loaded idUser operator.authzVersion named epoch with ⟨-, before⟩
  have reached := before established change last member overrules
  rcases sound.genuine change member with ⟨session, changing, changed⟩
  have opened := atLeast_opened reached overrules.changes changed
  have current := opened.later (sound.current change member).database
  have stored : world.state.database.findOperator idUser = some operator := by
    have genuine : (flight.entry world command reply after).Genuine := ⟨held, draw, performed⟩
    exact operator_read genuine seen
  have bound := current.epoch operator (Database.findOperator_eq_some.mp stored).1 owner
  omega

theorem dated_perform (sound : world.Recorded (growth app))
    (recorded : flight.Recorded (growth app) world) (stored : StoredAntedated world)
    (traced : Traced flight) (dated : Dated world flight) (permitted : Permitted flight command)
    (finalises : (finalising app).Permitted flight command)
    (meets : refreshesInStep world flight command)
    (performed : perform world.state flight.held command draw = some (reply, after, held)) :
    Dated (world.record (flight.entry world command reply after))
      (flight.advance world command reply after held) where
  loaded := fun data loaded settled => antedated_perform sound recorded stored traced dated
    permitted finalises meets performed loaded settled
  guards := by
    intro newer guard older idUser own passed settled established change last member overrules
    change flight.entry world command reply after :: flight.own = newer ++ guard :: older at own
    change lastLandmark (older ++ flight.inheriting world command) = some established at last
    change change ∈ flight.entry world command reply after :: world.log at member
    cases newer with
    | nil =>
        rcases List.cons.inj own with ⟨rfl, rfl⟩
        rcases List.mem_cons.mp member with rfl | old
        · exact Nat.le_refl _
        · exfalso
          rcases id passed with ⟨operator, data, seen, -, loaded, -⟩
          have inherits : flight.inheriting world command = flight.inherited :=
            inheriting_of_data loaded
          rw [inherits] at last
          exact passed_after_none sound (fun data loaded => dated.loaded data loaded settled)
            passed performed last old overrules
    | cons newest newer =>
        rcases List.cons.inj own with ⟨-, rest⟩
        have inside : guard ∈ flight.own := by
          rw [rest]
          exact List.mem_append_right _ List.mem_cons_self
        rcases List.mem_cons.mp member with rfl | old
        · exact Nat.le_of_lt (sound.counted guard (recorded.own guard inside))
        · cases present : flight.held.data with
          | none =>
              rcases passed with ⟨operator, data, -, -, loaded, -⟩
              rw [held_of_untouched recorded.linked (traced.untouched present) guard inside,
                present] at loaded
              cases loaded
          | some data =>
              rw [inheriting_of_data present] at last
              exact dated.guards newer guard older idUser rest passed settled established change
                last old overrules
  unsigned := by
    intro other
    apply Without.cons_iff.mpr
    refine ⟨?_, dated.unsigned other⟩
    cases command with
    | insert value =>
        cases value with
        | authenticatedAt timestamp =>
            have signs := permitted.1
            rw [show flight.request.route.signsIn = false from other] at signs
            cases signs
        | _ => rfl
    | _ => rfl

/-- Other requests go on while a command is performed. -/
theorem Dated.record {other : Flight app} (dated : Dated world other)
    (recorded : other.Recorded (growth app) world) (flight : Flight app)
    (sound : world.Recorded (growth app))
    (performed : perform world.state flight.held command draw = some (reply, after, held)) :
    Dated (world.record (flight.entry world command reply after)) other where
  loaded := fun data loaded settled => (dated.loaded data loaded settled).record flight performed
  guards := by
    intro newer guard older idUser own passed settled established change last member overrules
    rcases List.mem_cons.mp member with rfl | old
    · apply Nat.le_of_lt
      apply sound.counted guard (recorded.own guard _)
      rw [own]
      exact List.mem_append_right _ List.mem_cons_self
    · exact dated.guards newer guard older idUser own passed settled established change last old
        overrules
  unsigned := dated.unsigned

theorem Dated.later {world' : World (machine app)} (dated : Dated world flight)
    (grown : world.state.database.Later world'.state.database) (log : world'.log = world.log) :
    Dated world' flight where
  loaded := fun data loaded settled => (dated.loaded data loaded settled).later grown log
  guards := by
    rw [log]
    exact dated.guards
  unsigned := dated.unsigned

/-- Rows that are still there are still antedated. -/
theorem StoredAntedated.later (stored : StoredAntedated world) {world' : World (machine app)}
    (grown : world.state.database.Later world'.state.database) (log : world'.log = world.log)
    (fewer : State.Fewer world.state.sessions world'.state.sessions)
    (lineage : world'.lineage = world.lineage) : StoredAntedated world' := by
  intro id row found
  rw [lineage]
  exact (stored id row (fewer id row found)).later grown log

end Requests

/-- The invariant of the epochs in the records. -/
def epochs (app : AppState) : Invariant (machine app) where
  Sound := StoredAntedated
  Fits := Dated

theorem epochs_kept (app : AppState) :
    ((growth app).journal.and (provenance app)).Kept (epochs app)
      ((contract app).and (finalising app)) refreshesInStep where
  accept := by
    intro world ticket request _ stored
    refine ⟨stored.later (Database.Later.refl _) rfl (fun _ _ found => found) rfl, ?_, ?_⟩
    · exact {
        loaded := fun data loaded => by cases loaded
        guards := fun newer guard older idUser own => by cases newer <;> cases own
        unsigned := fun _ => Without.nil }
    · intro other _ dated
      exact dated.later (Database.Later.refl _) rfl
  execute := by
    intro world flight command draw reply after held sound fits stored dated permitted meets
      performed _ _
    refine ⟨?_, ?_, ?_⟩
    · intro id row found
      have fewer := (perform_frame performed).2.2
      exact (stored id row (fewer id row found)).record flight performed
    · exact dated_perform sound.1 fits.1 stored fits.2 dated permitted.1 permitted.2 meets
        performed
    · intro other otherFits otherDated
      exact otherDated.record otherFits.1 flight sound.1 performed
  close := by
    intro world flight draw after place sound fits stored dated settled closed _
    have grown : world.state.database.Later after.database := by
      rw [close_database closed]
      exact Database.Later.refl _
    refine ⟨?_, fun other _ otherDated => otherDated.later grown rfl⟩
    have whole := (whole_of_settled fits.2 settled.1).1
    intro id row found
    change Antedated _ (world.inscribe place flight.history id) row.record.data
    rcases row_written closed found with ⟨loaded, history⟩ | ⟨old, history⟩
    · rw [history]
      exact (dated.loaded row.record.data loaded whole).later grown rfl
    · rw [history]
      exact (stored id row old).later grown rfl
  happen := by
    intro world event after _ stored happened _
    cases happened
    refine ⟨stored.later (Database.Later.refl _) rfl (fun _ _ found => found) rfl, ?_⟩
    intro other _ dated
    exact dated.later (Database.Later.refl _) rfl

/-- Every run whose refreshes are in step keeps the epochs antedated. -/
theorem epochs_lasting {state : State} (blank : state.Blank) :
    (epochs app).Lasting (service app) refreshesInStep (Config.idle state) := by
  apply (epochs_kept app).lasting ((obeys app).and (obeys_finalising app)) (fun _ => rfl)
    (((growth app).journal_lasting (service app) refreshesInStep state).and
      (provenance_lasting blank refreshesInStep))
  intro id row found
  rw [blank id row found]
  exact Antedated.empty _ _

end Console
end KrakenUi
