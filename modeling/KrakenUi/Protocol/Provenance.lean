import KrakenUi.Protocol.Histories

namespace KrakenUi

open Interaction

/-!
# Every version of a record is vouched for

The invariant behind the law of the previous module.  Rows of the store are
vouched for by the lineage of their place, the copy of a request by its
history, and every reading that a request has made by its history at the time.
-/

namespace State

/-- Before the first request no stored session has data. -/
def Blank (state : State) : Prop :=
  forall id row, state.sessions.row id = some row -> row.record.data = {}

end State

namespace Console

variable {app : AppState} {world : World (machine app)} {flight : Flight app}

/-- Rows of the store. -/
def Provenance (world : World (machine app)) : Prop :=
  forall id row, world.state.sessions.row id = some row ->
    AccountVouched (world.lineage id) row.record.data ∧
      MarkerVouched (world.lineage id) row.record.data

/-- The copy and the readings of a request. -/
structure Traced (flight : Flight app) : Prop where
  loaded : forall data, flight.held.data = some data ->
    Vouched flight.request.route flight.own flight.inherited data
  readings : forall newer item older data, flight.own = newer ++ item :: older ->
    item.seen = ⟨.record, data⟩ -> Vouched flight.request.route older flight.inherited data
  untouched : flight.held.data = none -> Without Command.touchesSession flight.own
  unmarked : (forall form, flight.request.route ≠ .loginSubmit form) ->
    Without Command.marksPending flight.own ∧ Without Command.parksMarker flight.own

theorem accessesRecord_touches {command : Command} (quiet : command.touchesSession = false) :
    accessesRecord command = false := by
  cases command with
  | record | insert _ | remove _ | cycleId | flush => cases quiet
  | _ => rfl

theorem calm_of_untouched {items : List (Item app)}
    (untouched : Without Command.touchesSession items) : Calm items :=
  untouched.narrow fun _ => marksIdentity_of_quiet

/-- Once the record is loaded, nothing is inherited any more. -/
theorem inheriting_of_data {data : SessionData} {command : Command}
    (loaded : flight.held.data = some data) : flight.inheriting world command = flight.inherited := by
  have nothing : fetches world.state flight.held command = none := by
    simp only [fetches, Session.source, loaded, ite_self]
  exact InFlight.inheriting_none nothing

theorem inheriting_of_quiet {command : Command} (quiet : accessesRecord command = false) :
    flight.inheriting world command = flight.inherited := by
  have nothing : fetches world.state flight.held command = none := by
    simp only [fetches, quiet, Bool.false_eq_true, if_false]
  exact InFlight.inheriting_none nothing

/-- What a fetching command finds, and what it inherits. -/
theorem fetched_cases (world : World (machine app)) (flight : Flight app) (command : Command)
    (accesses : accessesRecord command = true) :
    (Exists fun data => flight.held.data = some data ∧
        flight.held.current world.state = data ∧
        flight.inheriting world command = flight.inherited) ∨
      (flight.held.data = none ∧ flight.held.current world.state = {} ∧
        flight.held.heldId world.state = none ∧
        flight.inheriting world command = flight.inherited) ∨
      (Exists fun id => Exists fun row => flight.held.data = none ∧ flight.held.id = some id ∧
        world.state.sessions.row id = some row ∧
        flight.held.current world.state = row.record.data ∧
        flight.held.heldId world.state = some id ∧
        flight.inheriting world command = world.lineage id) := by
  cases loaded : flight.held.data with
  | some data =>
      refine Or.inl ⟨data, rfl, ?_, inheriting_of_data loaded⟩
      simp only [Session.current, loaded]
  | none =>
      right
      have fetched : fetches world.state flight.held command =
          (flight.held.stored world.state).map Record.id := by
        simp only [fetches, accesses, if_true, Session.source, loaded]
      cases stored : flight.held.stored world.state with
      | none =>
          left
          rw [stored] at fetched
          refine ⟨rfl, ?_, ?_, InFlight.inheriting_none fetched⟩
          · simp only [Session.current, loaded, stored]
          · simp only [Session.heldId, loaded, stored, Option.map_none]
      | some record =>
          right
          rcases Option.bind_eq_some_iff.mp stored with ⟨id, presented, load⟩
          rcases SessionStore.load_eq_some.mp load with ⟨row, found, -, rfl⟩
          have keyed : row.record.id = id := world.state.sessions.keyed id row found
          rw [stored, Option.map_some, keyed] at fetched
          refine ⟨id, row, rfl, presented, found, ?_, ?_, InFlight.inheriting_some fetched⟩
          · simp only [Session.current, loaded, stored]
          · simp only [Session.heldId, loaded, stored, Option.map_some, keyed]

/-- What a request has in hand when it uses the session is vouched for. -/
theorem vouched_current (stored : Provenance world) (traced : Traced flight) (command : Command)
    (accesses : accessesRecord command = true) :
    Vouched flight.request.route flight.own (flight.inheriting world command)
      (flight.held.current world.state) := by
  rcases fetched_cases world flight command accesses with ⟨data, loaded, current, inherits⟩ |
    ⟨missing, current, -, inherits⟩ | ⟨id, row, missing, -, found, current, -, inherits⟩
  · rw [current, inherits]
    exact traced.loaded data loaded
  · rw [current]
    exact vouched_empty _ _ _
  · rcases stored id row found with ⟨account, marker⟩
    rw [current, inherits]
    exact vouched_of_stored account marker (calm_of_untouched (traced.untouched missing))

/-! ## One command -/

theorem le_of_saturatingSub {left right bound : Int} (small : bound < Auth.i64Max)
    (within : Auth.saturatingSub left right ≤ bound) : left - right ≤ bound := by
  simp only [Auth.saturatingSub, Auth.i64Max, Auth.i64Min] at within small
  omega

/-- The login behind an establishment. -/
theorem loggedIn_of_proven {idUser : Int} (sound : world.Recorded (growth app))
    (recorded : flight.Recorded (growth app) world) (traced : Traced flight)
    (proven : Proven flight idUser) : LoggedIn (flight.own ++ flight.inherited) idUser := by
  have mine : forall {part : List (Item app)}, part ⊆ flight.own -> forall item, item ∈ part ->
      item.ticket = flight.ticket ∧ item.request.route = flight.request.route := by
    intro part subset item member
    rcases recorded.signed item (subset member) with ⟨ticket, request, -⟩
    exact ⟨ticket, by rw [request]⟩
  unfold Proven at proven
  cases route : flight.request.route with
  | loginSubmit form =>
      rw [route] at proven
      refine ⟨flight.ticket, form, flight.own, false, ⟨List.subset_append_left _ _, ?_⟩,
        proven.1, proven.2, fun on => by cases on⟩
      rw [← route]
      exact mine (List.Subset.refl _)
  | mfaVerify form =>
      rw [route] at proven
      rcases proven with
          ⟨⟨data, startedAt, now, ⟨reading, member, seen⟩, owner, started, clock, fresh⟩, verified⟩
      rcases List.append_of_mem member with ⟨newer, older, own⟩
      have marked := traced.unmarked (by rw [route]; exact fun _ same => by cases same)
      have settled : ¬ HalfParked older := by
        rintro ⟨⟨item, memberOlder, marks⟩, -⟩
        have memberOwn : item ∈ flight.own := by
          rw [own]
          exact List.mem_append_right _ (List.mem_cons_of_mem _ memberOlder)
        rw [marked.1 item memberOwn] at marks
        cases marks
      rcases (traced.readings newer reading older data own seen).marker settled idUser startedAt
          owner started with ⟨mark, login, part, -, -, partOf, -, accepted, enabled, parkedAt⟩
      have wider : older ++ flight.inherited ⊆ flight.own ++ flight.inherited := by
        intro item memberOlder
        rcases List.mem_append.mp memberOlder with old | inherited
        · refine List.mem_append_left _ ?_
          rw [own]
          exact List.mem_append_right _ (List.mem_cons_of_mem _ old)
        · exact List.mem_append_right _ inherited
      refine ⟨mark.ticket, login, part, true,
        ⟨List.Subset.trans partOf.subset wider, partOf.signed⟩, accepted, enabled, ?_⟩
      intro _
      rcases verified with ⟨code, recent, segment, before, whole, returned⟩
      refine ⟨startedAt, form, code, flight.ticket, recent, segment, before ++ flight.inherited,
        parkedAt, ?_, ?_, returned⟩
      · rw [whole]
        simp only [List.append_assoc]
      · intro item memberSegment
        have memberOwn : item ∈ flight.own := by
          rw [whole]
          exact List.mem_append_left _ (List.mem_append_right _ memberSegment)
        rcases recorded.signed item memberOwn with ⟨ticket, request, opened⟩
        refine ⟨ticket, by rw [request]; exact route, ?_⟩
        rcases clock with ⟨reader, readerMember, read⟩
        have inLog := recorded.own reader readerMember
        have later : State.Later reader.opened reader.before := sound.opened reader inLog
        have time := clock_read (sound.genuine reader inLog) read
        have bound := le_of_saturatingSub (by decide) fresh
        have accepted : reader.opened.now ≤ reader.before.now := later.now
        rw [(recorded.signed reader readerMember).2.2, ← opened] at accepted
        omega
  | _ =>
      rw [route] at proven
      exact proven.elim

/-- The copy after a command, wherever it came from. -/
theorem vouched_perform (sound : world.Recorded (growth app))
    (recorded : flight.Recorded (growth app) world) (stored : Provenance world)
    (traced : Traced flight) {command : Command} {draw : Draw} {reply : command.Reply}
    {after : State} {held : Session} (permitted : Permitted flight command)
    (performed : perform world.state flight.held command draw = some (reply, after, held))
    {data : SessionData} (loaded : held.data = some data) :
    Vouched flight.request.route (flight.entry world command reply after :: flight.own)
      (flight.inheriting world command) data := by
  -- A command that keeps the four identity keys and marks nothing.
  have keeping : forall {old : SessionData},
      Vouched flight.request.route flight.own (flight.inheriting world command) old ->
      command.marksIdentity = false ->
      data.authenticatedUserId = old.authenticatedUserId ->
      data.authenticatedAt = old.authenticatedAt ->
      (data.mfaPendingUserId = old.mfaPendingUserId ∧ data.mfaPendingAt = old.mfaPendingAt) ∨
        data.mfaPendingUserId = none ∨ data.mfaPendingAt = none ->
      Vouched flight.request.route (flight.entry world command reply after :: flight.own)
        (flight.inheriting world command) data := by
    intro old vouched calm account time marker
    refine ⟨vouched.account_cons (unlandmarked_of_calm calm) account time, ?_⟩
    intro whole
    rcases marker with ⟨owner, started⟩ | gone | gone
    · exact vouched.marker_cons (unparked_of_calm calm) owner started whole
    · intro idUser startedAt named
      rw [gone] at named
      cases named
    · intro idUser startedAt _ started
      rw [gone] at started
      cases started
  have current : accessesRecord command = true ->
      Vouched flight.request.route flight.own (flight.inheriting world command)
        (flight.held.current world.state) := vouched_current stored traced command
  cases command with
  | record =>
      rw [(perform_record performed).2.2] at loaded
      cases loaded
      exact keeping (current rfl) rfl rfl rfl (Or.inl ⟨rfl, rfl⟩)
  | cycleId =>
      rw [(perform_cycleId performed).2] at loaded
      cases loaded
      exact keeping (current rfl) rfl rfl rfl (Or.inl ⟨rfl, rfl⟩)
  | flush =>
      rw [(perform_flush performed).2] at loaded
      cases loaded
      exact vouched_empty _ _ _
  | remove key =>
      rw [(perform_remove performed).2] at loaded
      cases loaded
      cases key with
      | mfaPendingUserId => exact keeping (current rfl) rfl rfl rfl (Or.inr (Or.inl rfl))
      | mfaPendingAt => exact keeping (current rfl) rfl rfl rfl (Or.inr (Or.inr rfl))
  | insert value =>
      have whole := current rfl
      rw [(perform_insert performed).2] at loaded
      cases loaded
      cases value with
      | authenticatedUserId idUser =>
          refine ⟨?_, whole.marker_cons rfl rfl rfl⟩
          intro settled
          by_cases signs : flight.request.route.signsIn = true
          · simp only [Permitted, signs, if_true] at permitted
            refine absurd ⟨signs, ⟨_, List.mem_cons_self, rfl⟩, ?_⟩ settled
            refine Without.cons_iff.mpr ⟨rfl, ?_⟩
            exact permitted.2.2.1.narrow fun _ => unlandmarked_of_calm
          · simp only [Permitted, signs] at permitted
            rcases permitted with ⟨old, present, owner⟩
            have same : flight.held.current world.state = old := Session.current_of_data _ present
            refine whole.account_cons rfl ?_ rfl settled
            rw [same]
            exact owner.symm
      | authenticatedAt timestamp =>
          rcases permitted with
              ⟨signs, -, clock, idUser, version, old, present, owner, -, -, proven, -⟩
          have same : flight.held.current world.state = old := Session.current_of_data _ present
          refine ⟨?_, whole.marker_cons rfl rfl rfl⟩
          intro _ named same'
          have equal : named = idUser := by
            rw [same] at same'
            exact Option.some.inj (same'.symm.trans owner)
          subst equal
          refine ⟨timestamp, rfl, ?_, ?_⟩
          · rcases clock with ⟨reader, member, read⟩
            refine ⟨flight.entry world (Command.insert (.authenticatedAt timestamp)) reply after,
              old, ?_, rfl, present, owner, reader, ?_, (recorded.signed reader member).1, read⟩
            · exact List.find?_cons_of_pos rfl
            · exact List.mem_append_left _ (List.mem_cons_of_mem _ member)
          · rw [inheriting_of_data present]
            exact (loggedIn_of_proven sound recorded traced proven).append [_]
      | mfaPendingUserId idUser =>
          refine ⟨whole.account_cons rfl rfl rfl, ?_⟩
          intro settled
          refine absurd ⟨⟨_, List.mem_cons_self, rfl⟩, ?_⟩ settled
          refine Without.cons_iff.mpr ⟨rfl, ?_⟩
          exact permitted.2.2.1.narrow fun _ => unparked_of_calm
      | mfaPendingAt timestamp =>
          rcases permitted with
              ⟨-, clock, form, idUser, old, route, present, owner, -, accepted, enabled⟩
          have same : flight.held.current world.state = old := Session.current_of_data _ present
          refine ⟨whole.account_cons rfl rfl rfl, ?_⟩
          intro _ named startedAt same' started
          have equal : named = idUser := by
            rw [same] at same'
            exact Option.some.inj (same'.symm.trans owner)
          subst equal
          cases started
          refine ⟨flight.entry world (Command.insert (.mfaPendingAt timestamp)) reply after, form,
            flight.own, List.find?_cons_of_pos rfl, rfl, ⟨?_, ?_⟩, ?_, accepted, enabled, clock⟩
          · intro item member
            exact List.mem_append_left _ (List.mem_cons_of_mem _ member)
          · intro item member
            rcases recorded.signed item member with ⟨ticket, request, -⟩
            exact ⟨ticket, by rw [request]; exact route⟩
          · intro item member
            exact sound.counted item (recorded.own item member)
      | _ => exact keeping whole rfl rfl rfl (Or.inl ⟨rfl, rfl⟩)
  | _ =>
      rw [perform_held rfl performed] at loaded
      rw [inheriting_of_quiet rfl] at keeping ⊢
      exact keeping (traced.loaded data loaded) rfl rfl rfl (Or.inl ⟨rfl, rfl⟩)

theorem data_of_touching {state next : State} {session held : Session} {command : Command}
    {reply : command.Reply} {draw : Draw} (touches : command.touchesSession = true)
    (performed : perform state session command draw = some (reply, next, held)) :
    held.data.isSome = true := by
  cases command with
  | record => rw [(perform_record performed).2.2]; rfl
  | insert value => rw [(perform_insert performed).2]; rfl
  | remove key => rw [(perform_remove performed).2]; rfl
  | cycleId => rw [(perform_cycleId performed).2]; rfl
  | flush => rw [(perform_flush performed).2]; rfl
  | _ => cases touches

theorem traced_perform (sound : world.Recorded (growth app))
    (recorded : flight.Recorded (growth app) world) (stored : Provenance world)
    (traced : Traced flight) {command : Command} {draw : Draw} {reply : command.Reply}
    {after : State} {held : Session} (permitted : Permitted flight command)
    (performed : perform world.state flight.held command draw = some (reply, after, held)) :
    Traced (flight.advance world command reply after held) where
  loaded := fun data loaded => vouched_perform sound recorded stored traced permitted performed loaded
  readings := by
    intro newer item older data own seen
    change flight.entry world command reply after :: flight.own = newer ++ item :: older at own
    change Vouched flight.request.route older (flight.inheriting world command) data
    cases newer with
    | nil =>
        rcases List.cons.inj own with ⟨rfl, rfl⟩
        cases seen
        rw [(perform_record performed).1]
        exact vouched_current stored traced .record rfl
    | cons newest newer =>
        rcases List.cons.inj own with ⟨-, rest⟩
        have member : item ∈ flight.own := by
          rw [rest]
          exact List.mem_append_right _ List.mem_cons_self
        cases present : flight.held.data with
        | none =>
            have quiet := traced.untouched present item member
            rw [seen] at quiet
            cases quiet
        | some old =>
            rw [inheriting_of_data present]
            exact traced.readings newer item older data rest seen
  untouched := by
    intro missing
    change held.data = none at missing
    change Without Command.touchesSession (flight.entry world command reply after :: flight.own)
    cases touches : command.touchesSession with
    | true =>
        have some := data_of_touching touches performed
        rw [missing] at some
        cases some
    | false =>
        rw [perform_held touches performed] at missing
        exact Without.cons_iff.mpr ⟨touches, traced.untouched missing⟩
  unmarked := by
    intro other
    rcases traced.unmarked other with ⟨marked, parked⟩
    have quiet : command.marksPending = false ∧ command.parksMarker = false := by
      cases command with
      | insert value =>
          cases value with
          | mfaPendingUserId idUser =>
              rcases permitted with ⟨-, -, -, form, route, -⟩
              exact absurd route (other form)
          | mfaPendingAt timestamp =>
              rcases permitted with ⟨-, -, form, -, -, route, -⟩
              exact absurd route (other form)
          | _ => exact ⟨rfl, rfl⟩
      | _ => exact ⟨rfl, rfl⟩
    exact ⟨Without.cons_iff.mpr ⟨quiet.1, marked⟩, Without.cons_iff.mpr ⟨quiet.2, parked⟩⟩

/-- The invariant of the records. -/
def provenance (app : AppState) : Invariant (machine app) where
  Sound := Provenance
  Fits := fun _ flight => Traced flight

/-- A request that has finished is not in the middle of signing in. -/
theorem whole_of_settled (traced : Traced flight)
    (settled : flight.request.route.signsIn = true -> Finished flight) :
    ¬ HalfSigned flight.request.route flight.own ∧ ¬ HalfParked flight.own := by
  have absent : forall {kind : Command -> Bool} {items : List (Item app)}, Without kind items ->
      ¬ Exists fun item => item ∈ items ∧ kind item.seen.command = true := by
    rintro kind items without ⟨item, member, is⟩
    rw [without item member] at is
    cases is
  by_cases signs : flight.request.route.signsIn = true
  · rcases settled signs with calm | ⟨unmarked, timestamp, item, member, seen⟩ |
      ⟨unnamed, timestamp, item, member, seen⟩
    · exact ⟨not_halfSigned_of_calm calm, not_halfParked_of_calm calm⟩
    · refine ⟨?_, fun half => absent unmarked half.1⟩
      rintro ⟨-, -, unlandmarked⟩
      have none := unlandmarked item member
      rw [seen] at none
      cases none
    · refine ⟨fun half => absent unnamed half.2.1, ?_⟩
      rintro ⟨-, unparked⟩
      have none := unparked item member
      rw [seen] at none
      cases none
  · refine ⟨fun half => signs half.1, ?_⟩
    have other : forall form, flight.request.route ≠ .loginSubmit form := by
      intro form same
      rw [same] at signs
      exact signs rfl
    exact fun half => absent (traced.unmarked other).1 half.1

/-- Rows that are still there are still vouched for. -/
theorem Provenance.fewer (stored : Provenance world) {world' : World (machine app)}
    (fewer : State.Fewer world.state.sessions world'.state.sessions)
    (lineage : world'.lineage = world.lineage) : Provenance world' := by
  intro id row found
  rw [lineage]
  exact stored id row (fewer id row found)

/-- A row after the end of a request was written by it and has its history, or
it was there before and keeps its own. -/
theorem row_written {after : State} {place : Option SessionId} {draw : Draw}
    (closed : close app world.state flight.held draw = some (after, place)) {id : SessionId}
    {row : SessionRow} (found : after.sessions.row id = some row) :
    (flight.held.data = some row.record.data ∧
        world.inscribe place flight.history id = flight.history) ∨
      (world.state.sessions.row id = some row ∧
        world.inscribe place flight.history id = world.lineage id) := by
  have writing : forall {written : SessionId} {data : SessionData},
      flight.held.data = some data -> place = some written ->
      (forall other row, after.sessions.row other = some row ->
        (other = written ∧
          row.record = ⟨written, data, world.state.now + app.sessionTimeoutSeconds⟩ ∧
          row.userId = data.authenticatedUserId.getD 0) ∨
        (other ≠ written ∧ world.state.sessions.row other = some row)) ->
      (flight.held.data = some row.record.data ∧
          world.inscribe place flight.history id = flight.history) ∨
        (world.state.sessions.row id = some row ∧
          world.inscribe place flight.history id = world.lineage id) := by
    intro written data loaded placed rows
    rcases rows id row found with ⟨rfl, record, -⟩ | ⟨different, old⟩
    · rcases world.inscribe_cases place flight.history id with ⟨-, history⟩ | ⟨missed, -⟩
      · left
        rw [record]
        exact ⟨loaded, history⟩
      · exact absurd placed missed
    · rcases world.inscribe_cases place flight.history id with ⟨hit, -⟩ | ⟨-, history⟩
      · rw [placed] at hit
        exact absurd (Option.some.inj hit).symm different
      · exact Or.inr ⟨old, history⟩
  rcases close_cases closed with ⟨rfl, rfl⟩ | ⟨written, placed, data, loaded, -, -, -, -, rows⟩ |
    ⟨written, placed, data, loaded, -, -, -, -, -, rows⟩
  · exact Or.inr ⟨found, rfl⟩
  · exact writing loaded placed rows
  · exact writing loaded placed rows

/-- A written row carries the history of its writer. -/
theorem Provenance.written (stored : Provenance world) (traced : Traced flight)
    (settled : flight.request.route.signsIn = true -> Finished flight) {after : State}
    {place : Option SessionId} {draw : Draw}
    (closed : close app world.state flight.held draw = some (after, place)) :
    @Provenance app
      { world with state := after, lineage := world.inscribe place flight.history } := by
  rcases whole_of_settled traced settled with ⟨notSigned, notParked⟩
  intro id row found
  change AccountVouched (world.inscribe place flight.history id) row.record.data ∧
    MarkerVouched (world.inscribe place flight.history id) row.record.data
  rcases row_written closed found with ⟨loaded, history⟩ | ⟨old, history⟩
  · rw [history]
    have vouched := traced.loaded row.record.data loaded
    exact ⟨vouched.account notSigned, vouched.marker notParked⟩
  · rw [history]
    exact stored id row old

theorem provenance_kept (app : AppState) (allowed : Condition (machine app)) :
    (growth app).journal.Kept (provenance app) (contract app) allowed where
  accept := by
    intro world ticket request _ stored
    refine ⟨stored.fewer (fun _ _ found => found) rfl, ?_, fun other _ traced => traced⟩
    exact {
      loaded := fun data loaded => by cases loaded
      readings := fun newer item older data own => by cases newer <;> cases own
      untouched := fun _ => Without.nil
      unmarked := fun _ => ⟨Without.nil, Without.nil⟩ }
  execute := by
    intro world flight command draw reply after held sound recorded stored traced permitted _
      performed _ _
    refine ⟨stored.fewer (perform_frame performed).2.2 rfl, ?_, fun other _ traced => traced⟩
    exact traced_perform sound recorded stored traced permitted performed
  close := by
    intro world flight draw after place _ _ stored traced settled closed _
    exact ⟨stored.written traced settled closed, fun other _ traced => traced⟩
  happen := by
    intro world event after _ stored happened _
    refine ⟨stored.fewer ?_ rfl, fun other _ traced => traced⟩
    cases happened
    exact fun _ _ found => found

/-- Every run that starts without session data keeps the records vouched for. -/
theorem provenance_lasting {state : State} (blank : state.Blank)
    (allowed : Condition (machine app)) :
    (provenance app).Lasting (service app) allowed (Config.idle state) := by
  refine (provenance_kept app allowed).lasting (obeys app) (fun _ => rfl)
    ((growth app).journal_lasting (service app) allowed state) ?_
  intro id row found
  rw [blank id row found]
  exact ⟨accountVouched_empty _, markerVouched_empty _⟩

end Console
end KrakenUi
