import KrakenUi.Guarantees.Authentication

namespace KrakenUi

open Interaction

/-!
# An id never changes sides

Whether the data under an id names an account is decided when the id is issued.
A request that signs an account in has given up its id before it writes the
account, and every other request only rewrites an account that is already
there.  So all copies under one id agree, stored or in flight, and a request
that ends can only write an id that it loaded or a fresh one.
-/

namespace State

/-- Stored ids are among those that have been issued or presented. -/
def Listed (state : State) : Prop :=
  forall id row, state.sessions.row id = some row -> id ∈ state.known

end State

namespace Console

variable {app : AppState} {world : World (machine app)} {flight : Flight app} {x : SessionId}
  {side : Bool}

/-! ## Copies of a record -/

/-- How a command can change the copy of a request. -/
theorem perform_copy {state next : State} {session held : Session} {command : Command}
    {reply : command.Reply} {draw : Draw}
    (performed : perform state session command draw = some (reply, next, held)) :
    held = session ∨ held.id = none ∨
      (accessesRecord command = true ∧ held.id = session.heldId state ∧
        Exists fun data => held.data = some data ∧
        (data.authenticatedUserId = (session.current state).authenticatedUserId ∨
          Exists fun idUser => command = .insert (.authenticatedUserId idUser) ∧
            data.authenticatedUserId = some idUser)) := by
  cases command with
  | record =>
      rw [(perform_record performed).2.2]
      exact Or.inr (Or.inr ⟨rfl, rfl, _, rfl, Or.inl rfl⟩)
  | insert value =>
      rw [(perform_insert performed).2]
      refine Or.inr (Or.inr ⟨rfl, rfl, _, rfl, ?_⟩)
      cases value with
      | authenticatedUserId idUser => exact Or.inr ⟨idUser, rfl, rfl⟩
      | _ => exact Or.inl rfl
  | remove key =>
      rw [(perform_remove performed).2]
      refine Or.inr (Or.inr ⟨rfl, rfl, _, rfl, ?_⟩)
      cases key <;> exact Or.inl rfl
  | cycleId =>
      rw [(perform_cycleId performed).2]
      exact Or.inr (Or.inl rfl)
  | flush =>
      rw [(perform_flush performed).2]
      exact Or.inr (Or.inl rfl)
  | _ => exact Or.inl (perform_held rfl performed)

/-- A request keeps the id it has loaded, or takes it from the store. -/
theorem heldId_cases {state : State} {session : Session} {id : SessionId}
    (held : session.heldId state = some id) :
    session.id = some id ∧
      ((Exists fun data => session.data = some data ∧ session.current state = data) ∨
        (session.data = none ∧ Exists fun row => state.sessions.row id = some row ∧
          session.current state = row.record.data)) := by
  cases loaded : session.data with
  | some data =>
      simp only [Session.heldId, loaded] at held
      exact ⟨held, Or.inl ⟨data, rfl, by simp only [Session.current, loaded]⟩⟩
  | none =>
      simp only [Session.heldId, loaded] at held
      rcases Option.map_eq_some_iff.mp held with ⟨record, stored, same⟩
      rcases Option.bind_eq_some_iff.mp stored with ⟨presented, cookie, load⟩
      rcases SessionStore.load_eq_some.mp load with ⟨row, found, -, rfl⟩
      have keyed := state.sessions.keyed presented row found
      have equal : presented = id := keyed.symm.trans same
      subst equal
      exact ⟨cookie, Or.inr ⟨rfl, row, found, by simp only [Session.current, loaded, stored]⟩⟩

/-! ## Ids in use are known -/

/-- Stored ids and the ids of requests are known. -/
def listed (app : AppState) : Invariant (machine app) where
  Sound := fun world => world.state.Listed
  Fits := fun world flight => forall id, flight.held.id = some id -> id ∈ world.state.known

theorem heldId_presented {state : State} {session held : Session} {command : Command}
    {reply : command.Reply} {next : State} {draw : Draw} {id : SessionId}
    (performed : perform state session command draw = some (reply, next, held))
    (keeps : held.id = some id) : session.id = some id := by
  rcases perform_copy performed with same | gone | ⟨-, taken, -⟩
  · rw [← same]
    exact keeps
  · rw [gone] at keeps
    cases keeps
  · rw [taken] at keeps
    exact (heldId_cases keeps).1

theorem listed_kept (app : AppState) (allowed : Condition (machine app)) :
    Invariant.trivial.Kept (listed app) (contract app) allowed where
  accept := by
    intro world ticket request _ stored
    refine ⟨fun id row found => List.mem_append_right _ (stored id row found), ?_, ?_⟩
    · intro id presented
      change request.visit.cookie = some id at presented
      change id ∈ request.visit.cookie.toList ++ world.state.known
      rw [presented]
      exact List.mem_append_left _ (List.mem_singleton.mpr rfl)
    · intro other _ fits id presented
      exact List.mem_append_right _ (fits id presented)
  execute := by
    intro world flight command draw reply after held _ _ stored fits _ _ performed _ _
    rcases perform_frame performed with ⟨-, known, fewer⟩
    have issued : forall {id : SessionId}, id ∈ world.state.known -> id ∈ after.known := by
      intro id member
      rw [known]
      exact member
    refine ⟨fun id row found => issued (stored id row (fewer id row found)), ?_, ?_⟩
    · intro id keeps
      exact issued (fits id (heldId_presented performed keeps))
    · intro other _ otherFits id presented
      exact issued (otherFits id presented)
  close := by
    intro world flight draw after place _ _ stored fits _ closed _
    have known := (later_close closed).known
    refine ⟨?_, fun other _ otherFits id presented => known (otherFits id presented)⟩
    intro id row found
    change after.sessions.row id = some row at found
    rcases close_cases closed with ⟨-, rfl⟩ | ⟨own, -, data, -, held, -, -, -, rows⟩ |
      ⟨fresh, -, data, -, -, -, appended, -, -, rows⟩
    · exact stored id row found
    · rcases rows id row found with ⟨rfl, -⟩ | ⟨-, old⟩
      · exact known (fits id held)
      · exact known (stored id row old)
    · rcases rows id row found with ⟨rfl, -⟩ | ⟨-, old⟩
      · show id ∈ after.known
        rw [appended]
        exact List.mem_cons_self
      · exact known (stored id row old)
  happen := by
    intro world event after _ stored happened _
    cases happened
    exact ⟨stored, fun other _ fits => fits⟩

/-! ## All copies under one id agree -/

/-- The id is known, and its copies all name an account or all name none. -/
def uniform (app : AppState) (x : SessionId) (side : Bool) : Invariant (machine app) where
  Sound := fun world => x ∈ world.state.known ∧
    forall row, world.state.sessions.row x = some row ->
      row.record.data.authenticatedUserId.isSome = side
  Fits := fun _ flight => flight.held.id = some x ->
    forall data, flight.held.data = some data -> data.authenticatedUserId.isSome = side

theorem uniform_current (sound : (uniform app x side).Sound world)
    (fits : (uniform app x side).Fits world flight)
    (held : flight.held.heldId world.state = some x) :
    (flight.held.current world.state).authenticatedUserId.isSome = side := by
  rcases heldId_cases held with ⟨presented, ⟨data, loaded, current⟩ | ⟨-, row, found, current⟩⟩
  · rw [current]
    exact fits presented data loaded
  · rw [current]
    exact sound.2 row found

theorem uniform_kept (app : AppState) (x : SessionId) (side : Bool)
    (allowed : Condition (machine app)) :
    Invariant.trivial.Kept (uniform app x side) (contract app) allowed where
  accept := by
    intro world ticket request _ sound
    refine ⟨⟨List.mem_append_right _ sound.1, sound.2⟩, ?_, fun other _ fits => fits⟩
    intro _ data loaded
    cases loaded
  execute := by
    intro world flight command draw reply after held _ _ sound fits permitted _ performed _ _
    rcases perform_frame performed with ⟨-, known, fewer⟩
    refine ⟨⟨?_, fun row found => sound.2 row (fewer x row found)⟩, ?_, fun other _ fits => fits⟩
    · show x ∈ after.known
      rw [known]
      exact sound.1
    · intro keeps data loaded
      change held.id = some x at keeps
      change held.data = some data at loaded
      rcases perform_copy performed with same | gone | ⟨-, taken, copy, present, written⟩
      · rw [same] at keeps loaded
        exact fits keeps data loaded
      · rw [gone] at keeps
        cases keeps
      · rw [present] at loaded
        cases loaded
        rw [taken] at keeps
        have agrees := uniform_current sound fits keeps
        rcases written with same | ⟨idUser, rfl, named⟩
        · rw [same]
          exact agrees
        · change Permitted flight (.insert (.authenticatedUserId idUser)) at permitted
          by_cases signs : flight.request.route.signsIn = true
          · simp only [Permitted, signs, if_true] at permitted
            rw [(heldId_cases keeps).1] at permitted
            cases permitted.1
          · simp only [Permitted, signs] at permitted
            rcases permitted with ⟨old, present, owner⟩
            have current : flight.held.current world.state = old :=
              Session.current_of_data _ present
            rw [current, owner] at agrees
            rw [named]
            exact agrees
  close := by
    intro world flight draw after place _ _ sound fits _ closed _
    refine ⟨⟨(later_close closed).known sound.1, ?_⟩, fun other _ fits => fits⟩
    intro row found
    change after.sessions.row x = some row at found
    rcases close_cases closed with ⟨-, rfl⟩ | ⟨own, -, data, loaded, held, -, -, -, rows⟩ |
      ⟨fresh, -, data, -, -, -, -, unknown, -, rows⟩
    · exact sound.2 row found
    · rcases rows x row found with ⟨rfl, record, -⟩ | ⟨-, old⟩
      · rw [record]
        exact fits held data loaded
      · exact sound.2 row old
    · rcases rows x row found with ⟨rfl, -⟩ | ⟨-, old⟩
      · exact absurd sound.1 unknown
      · exact sound.2 row old
  happen := by
    intro world event after _ sound happened _
    cases happened
    exact ⟨sound, fun other _ fits => fits⟩

/-! ## Every known id has a side -/

/-- No request has loaded anything under the id, and nothing is stored there. -/
def vacant (app : AppState) (x : SessionId) : Invariant (machine app) where
  Sound := fun world => x ∈ world.state.known ∧ world.state.sessions.row x = none
  Fits := fun _ flight => flight.held.id = some x -> flight.held.data = none

theorem uniform_of_vacant {config : Config (machine app)} (side : Bool)
    (holds : (vacant app x).Holds config) : (uniform app x side).Holds config := by
  rcases holds with ⟨⟨member, empty⟩, fits⟩
  refine ⟨⟨member, ?_⟩, ?_⟩
  · intro row found
    rw [empty] at found
    cases found
  · intro ticket thread running presented data loaded
    rw [fits ticket thread running presented] at loaded
    cases loaded

/-- Each known id is uniform, on one side or the other. -/
def Sided (config : Config (machine app)) : Prop :=
  forall x, x ∈ config.world.state.known -> Exists fun side => (uniform app x side).Holds config

theorem sided_moves {allowed : Condition (machine app)} {config after : Config (machine app)}
    (bound : Invariant.Bound (contract app) config) (known : (listed app).Holds config)
    (sided : Sided config) (moves : Moves (service app) allowed config after) : Sided after := by
  have nothing : forall {config : Config (machine app)},
      (Invariant.trivial : Invariant (machine app)).Holds config :=
    ⟨True.intro, fun _ _ _ => True.intro⟩
  have older : forall x, x ∈ config.world.state.known ->
      Exists fun side => (uniform app x side).Holds after := by
    intro x member
    rcases sided x member with ⟨side, holds⟩
    exact ⟨side, (uniform_kept app x side allowed).moves bound nothing holds nothing moves⟩
  intro x member
  by_cases earlier : x ∈ config.world.state.known
  · exact older x earlier
  -- The id is new: it has just been presented, or just been issued.
  have unheld : forall ticket thread, config.threads ticket = some thread ->
      thread.flight.held.id ≠ some x := by
    intro ticket thread running presented
    exact earlier (known.2 ticket thread running x presented)
  have unstored : config.world.state.sessions.row x = none := by
    cases found : config.world.state.sessions.row x with
    | none => rfl
    | some row => exact absurd (known.1 x row found) earlier
  cases moves with
  | accept request =>
      refine ⟨true, uniform_of_vacant true ⟨⟨member, unstored⟩, ?_⟩⟩
      intro other thread found presented
      rcases setThread_cases found with ⟨-, started⟩ | ⟨-, old⟩
      · cases started
        rfl
      · exact absurd presented (unheld other thread old)
  | step waiting meets executed =>
      rcases World.execute_some executed with ⟨state, held, performed, rfl, rfl⟩
      have same : state.known = config.world.state.known := (perform_frame performed).2.1
      change x ∈ state.known at member
      rw [same] at member
      exact absurd member earlier
  | close waiting closed =>
      rcases World.close_some closed with ⟨state, place, finished, rfl⟩
      rcases close_cases finished with ⟨-, rfl⟩ | ⟨own, -, data, -, held, -, -, same, -⟩ |
        ⟨fresh, -, data, loaded, -, -, appended, -, anonymous, rows⟩
      · exact absurd member earlier
      · change x ∈ state.known at member
        rw [same] at member
        exact absurd member earlier
      · refine ⟨data.authenticatedUserId.isSome, ⟨member, ?_⟩, ?_⟩
        · intro row found
          rcases rows x row found with ⟨-, record, -⟩ | ⟨-, old⟩
          · rw [record]
          · rw [unstored] at old
            cases old
        · intro other thread found presented
          rcases setThread_cases found with ⟨-, gone⟩ | ⟨-, old⟩
          · cases gone
          · exact absurd presented (unheld other thread old)
  | drop ticket => exact absurd member earlier
  | happen happened =>
      rcases World.happen_some happened with ⟨state, passed, rfl⟩
      cases passed
      exact absurd member earlier

section Runs

variable {state : State} {allowed : Condition (machine app)} {config : Config (machine app)}

theorem listed_reaches (stored : state.Listed)
    (reached : Reaches (service app) allowed (Config.idle state) config) :
    (listed app).Holds config := by
  have initial : (listed app).Sound (Config.idle state).world := stored
  exact (listed_kept app allowed).lasting (obeys app) (fun _ => rfl) Invariant.lasting_trivial
    initial config reached

theorem sided_reaches (stored : state.Listed)
    (reached : Reaches (service app) allowed (Config.idle state) config) : Sided config := by
  induction reached with
  | here =>
      intro x member
      cases found : state.sessions.row x with
      | none => exact ⟨true, uniform_of_vacant true ⟨⟨member, found⟩, fun _ _ gone => by cases gone⟩⟩
      | some row =>
          refine ⟨row.record.data.authenticatedUserId.isSome, ⟨member, ?_⟩, ?_⟩
          · intro other same
            cases found.symm.trans same
            rfl
          · intro ticket thread gone
            cases gone
  | next action reached meets acted inductionHypothesis =>
      exact sided_moves (Invariant.bound_reaches (obeys app) (fun _ => rfl) reached)
        (listed_reaches stored reached) inductionHypothesis (Config.act_moves meets acted)

end Runs

/-! ## Ids that are presented before they exist -/

/-- Nothing is stored under the id. -/
def unstored (app : AppState) (x : SessionId) : Invariant (machine app) where
  Sound := fun world => world.state.sessions.row x = none
  Fits := fun _ _ => True

/-- No request has loaded anything under the id. -/
def unloaded (app : AppState) (x : SessionId) : Invariant (machine app) where
  Sound := fun _ => True
  Fits := fun _ flight => flight.held.id = some x -> flight.held.data = none

theorem unloaded_perform {draw : Draw} {command : Command} {reply : command.Reply} {after : State}
    {held : Session} (empty : world.state.sessions.row x = none)
    (fits : flight.held.id = some x -> flight.held.data = none)
    (performed : perform world.state flight.held command draw = some (reply, after, held)) :
    held.id = some x -> held.data = none := by
  intro keeps
  rcases perform_copy performed with same | gone | ⟨-, taken, -⟩
  · rw [same] at keeps ⊢
    exact fits keeps
  · rw [gone] at keeps
    cases keeps
  · rw [taken] at keeps
    rcases heldId_cases keeps with ⟨presented, ⟨data, loaded, -⟩ | ⟨-, row, found, -⟩⟩
    · rw [fits presented] at loaded
      cases loaded
    · rw [empty] at found
      cases found

theorem unloaded_kept (app : AppState) (x : SessionId) (allowed : Condition (machine app)) :
    (unstored app x).Kept (unloaded app x) (contract app) allowed where
  accept := fun _ _ _ _ _ => ⟨True.intro, fun _ => rfl, fun _ _ fits => fits⟩
  execute := by
    intro world flight command draw reply after held empty _ _ fits _ _ performed _ _
    exact ⟨True.intro, unloaded_perform empty fits performed, fun _ _ fits => fits⟩
  close := fun _ _ _ _ _ _ _ _ _ _ _ _ => ⟨True.intro, fun _ _ fits => fits⟩
  happen := fun _ _ _ _ _ _ _ => ⟨True.intro, fun _ _ fits => fits⟩

theorem vacant_kept (app : AppState) (x : SessionId) (allowed : Condition (machine app)) :
    Invariant.trivial.Kept (vacant app x) (contract app) allowed where
  accept := by
    intro world ticket request _ sound
    exact ⟨⟨List.mem_append_right _ sound.1, sound.2⟩, fun _ => rfl, fun other _ fits => fits⟩
  execute := by
    intro world flight command draw reply after held _ _ sound fits _ _ performed _ _
    rcases perform_frame performed with ⟨-, known, fewer⟩
    refine ⟨⟨?_, ?_⟩, unloaded_perform sound.2 fits performed, fun other _ fits => fits⟩
    · show x ∈ after.known
      rw [known]
      exact sound.1
    · show after.sessions.row x = none
      cases found : after.sessions.row x with
      | none => rfl
      | some row =>
          have stored := fewer x row found
          rw [sound.2] at stored
          cases stored
  close := by
    intro world flight draw after place _ _ sound fits _ closed _
    refine ⟨⟨(later_close closed).known sound.1, ?_⟩, fun other _ fits => fits⟩
    show after.sessions.row x = none
    cases found : after.sessions.row x with
    | none => rfl
    | some row =>
        have stored : world.state.sessions.row x = some row := by
          rcases close_cases closed with ⟨-, rfl⟩ | ⟨own, -, data, loaded, held, -, -, -, rows⟩ |
            ⟨fresh, -, data, -, -, -, -, unknown, -, rows⟩
          · exact found
          · rcases rows x row found with ⟨rfl, -⟩ | ⟨-, old⟩
            · rw [fits held] at loaded
              cases loaded
            · exact old
          · rcases rows x row found with ⟨rfl, -⟩ | ⟨-, old⟩
            · exact absurd sound.1 unknown
            · exact old
        rw [sound.2] at stored
        cases stored
  happen := by
    intro world event after _ sound happened _
    cases happened
    exact ⟨sound, fun other _ fits => fits⟩

/-- While nothing is ever stored under an id, no request holds a copy under it. -/
theorem unloaded_stays {state : State} {allowed : Condition (machine app)}
    {config : Config (machine app)}
    (stayed : Stays (service app) allowed (fun config => config.world.state.sessions.row x = none)
      (Config.idle state) config) : (unloaded app x).Holds config := by
  induction stayed with
  | here _ => exact ⟨True.intro, fun _ _ gone => by cases gone⟩
  | next action stayed meets acted within inductionHypothesis =>
      exact (unloaded_kept app x allowed).moves
        (Invariant.bound_reaches (obeys app) (fun _ => rfl) stayed.reaches)
        ⟨stayed.last, fun _ _ _ => True.intro⟩ inductionHypothesis
        ⟨within, fun _ _ _ => True.intro⟩ (Config.act_moves meets acted)

/-! ## Ids that are older than a marker -/

/-- The two writes of a pending marker. -/
def writesMarker (command : Command) : Bool := command.marksPending || command.parksMarker

/-- A record that went through the marker of a login has a younger id. -/
def younger (app : AppState) : Invariant (machine app) where
  Sound := fun world => forall id mark, mark ∈ world.lineage id ->
    writesMarker mark.seen.command = true -> id ∉ mark.before.known
  Fits := fun _ flight =>
    (flight.held.data = none -> Without Command.touchesSession flight.own) ∧
      forall id mark, flight.held.id = some id -> flight.held.data.isSome = true ->
        mark ∈ flight.history -> writesMarker mark.seen.command = true -> id ∉ mark.before.known

/-- A marker is only written by a request that holds no id. -/
theorem anonymous_of_marker {command : Command} (permitted : Permitted flight command)
    (writes : writesMarker command = true) : flight.held.id = none := by
  cases command with
  | insert value =>
      cases value with
      | mfaPendingUserId idUser => exact permitted.1
      | mfaPendingAt timestamp => exact permitted.1
      | _ => cases writes
  | _ => cases writes

theorem younger_perform (sound : (younger app).Sound world) (fits : (younger app).Fits world flight)
    {command : Command} {draw : Draw} {reply : command.Reply} {after : State} {held : Session}
    (permitted : Permitted flight command)
    (performed : perform world.state flight.held command draw = some (reply, after, held)) :
    (younger app).Fits (world.record (flight.entry world command reply after))
      (flight.advance world command reply after held) := by
  rcases fits with ⟨untouched, young⟩
  constructor
  · intro missing
    change held.data = none at missing
    cases touches : command.touchesSession with
    | true =>
        have some := data_of_touching touches performed
        rw [missing] at some
        cases some
    | false =>
        rw [perform_held touches performed] at missing
        exact Without.cons_iff.mpr ⟨touches, untouched missing⟩
  · intro id mark keeps present member writes
    change held.id = some id at keeps
    change held.data.isSome = true at present
    change mark ∈ flight.entry world command reply after ::
      (flight.own ++ flight.inheriting world command) at member
    have presented := heldId_presented performed keeps
    rcases List.mem_cons.mp member with rfl | old
    · rw [anonymous_of_marker permitted writes] at presented
      cases presented
    · cases loaded : flight.held.data with
      | some data =>
          rw [inheriting_of_data loaded] at old
          exact young id mark presented (by rw [loaded]; rfl) old writes
      | none =>
          rcases List.mem_append.mp old with own | inherited
          · have quiet := untouched loaded mark own
            have harmless := marksIdentity_of_quiet quiet
            have unmarked := unmarked_of_calm harmless
            have unparked := unparked_of_calm harmless
            simp only [writesMarker, unmarked, unparked] at writes
            cases writes
          · rcases perform_copy performed with same | gone | ⟨accesses, taken, -⟩
            · rw [same, loaded] at present
              cases present
            · rw [gone] at keeps
              cases keeps
            · rw [taken] at keeps
              rcases fetched_cases world flight command accesses with
                ⟨data, some, -, -⟩ | ⟨-, -, lost, -⟩ | ⟨other, row, -, cookie, -, -, -, same⟩
              · rw [loaded] at some
                cases some
              · rw [lost] at keeps
                cases keeps
              · rw [same] at inherited
                rw [presented] at cookie
                cases cookie
                exact sound id mark inherited writes

theorem younger_kept (app : AppState) (allowed : Condition (machine app)) :
    (growth app).journal.Kept (younger app) (contract app) allowed where
  accept := by
    intro world ticket request _ sound
    refine ⟨sound, ⟨fun _ => Without.nil, ?_⟩, fun other _ fits => fits⟩
    intro id mark _ present
    cases present
  execute := by
    intro world flight command draw reply after held _ _ sound fits permitted _ performed _ _
    exact ⟨sound, younger_perform sound fits permitted performed, fun other _ fits => fits⟩
  close := by
    intro world flight draw after place recorded flightRecorded sound fits _ closed _
    refine ⟨?_, fun other _ fits => fits⟩
    intro id mark member writes
    change mark ∈ world.inscribe place flight.history id at member
    rcases world.inscribe_cases place flight.history id with ⟨placed, written⟩ | ⟨-, same⟩
    · rw [written] at member
      rcases close_cases closed with ⟨missing, -⟩ | ⟨own, there, data, loaded, held, -⟩ |
        ⟨fresh, there, data, -, -, -, -, unknown, -⟩
      · rw [missing] at placed
        cases placed
      · cases placed.symm.trans there
        exact fits.2 id mark held (by rw [loaded]; rfl) member writes
      · cases placed.symm.trans there
        -- The fresh id was not known when the marker was written either.
        have inLog := flightRecorded.history member
        have later : State.Later mark.before world.state :=
          Growth.before_current recorded inLog
        exact fun known => unknown (later.known known)
    · rw [same] at member
      exact sound id mark member writes
  happen := by
    intro world event after _ sound happened _
    exact ⟨sound, fun other _ fits => fits⟩

/-- Session fixation is impossible. -/
theorem session_ids_not_fixed (app : AppState) {state : State} (stored : state.Listed)
    (x : SessionId) :
    (forall config row, Reaches (service app) anyCommand (Config.idle state) config ->
      config.world.state.sessions.row x = some row ->
      row.record.data.authenticatedUserId = none ->
      forall later row, Reaches (service app) anyCommand config later ->
        later.world.state.sessions.row x = some row ->
        row.record.data.authenticatedUserId = none) ∧
    (forall config request after,
      Stays (service app) anyCommand (fun config => config.world.state.sessions.row x = none)
        (Config.idle state) config ->
      request.visit.cookie = some x -> config.act (service app) (.accept request) = some after ->
      forall later row, Reaches (service app) anyCommand after later ->
        later.world.state.sessions.row x = some row ->
        row.record.data.authenticatedUserId = none) ∧
    (forall config mark, Reaches (service app) anyCommand (Config.idle state) config ->
      mark ∈ config.world.lineage x -> writesMarker mark.seen.command = true ->
      x ∉ mark.before.known) ∧
    (state.Blank -> forall config row idUser startedAt,
      Reaches (service app) anyCommand (Config.idle state) config ->
      config.world.state.sessions.row x = some row ->
      row.record.data.mfaPendingUserId = some idUser ->
      row.record.data.mfaPendingAt = some startedAt ->
      Exists fun mark => Exists fun form => Exists fun login =>
        lastParked (config.world.lineage x) = some mark ∧
          mark.seen = ⟨.insert (.mfaPendingAt startedAt), ()⟩ ∧
          PartOf login (config.world.lineage x) mark.ticket (.loginSubmit form) ∧
          PasswordAccepted login form idUser ∧
          forall item, item ∈ login -> x ∉ item.before.known) := by
  have recording := (growth app).journal_lasting (service app) anyCommand state
  have initial : (younger app).Sound (Config.idle state).world :=
    fun _ _ member => absurd member List.not_mem_nil
  have young := (younger_kept app anyCommand).lasting (obeys app) (fun _ => rfl) recording initial
  refine ⟨?_, ?_, ?_, ?_⟩
  · intro config row reached found nameless later row' onward found'
    have member := (listed_reaches stored reached).1 x row found
    rcases sided_reaches stored reached x member with ⟨side, holds⟩
    have here := holds.1.2 row found
    have there := ((uniform_kept app x side anyCommand).onward (obeys app) (fun _ => rfl)
      Invariant.lasting_trivial reached holds later onward).1.2 row' found'
    rw [nameless] at here
    subst side
    simpa using there
  · intro config request after stayed cookie accepted later row onward found
    cases accepted
    have unheld := unloaded_stays stayed
    have empty : config.world.state.sessions.row x = none := stayed.last
    have holds : (vacant app x).Holds
        { world := (config.world.accept config.next request).1
          threads := setThread config.threads config.next
            (some ⟨(config.world.accept config.next request).2, service app request⟩)
          next := config.next + 1 } := by
      refine ⟨⟨?_, empty⟩, ?_⟩
      · show x ∈ request.visit.cookie.toList ++ config.world.state.known
        rw [cookie]
        exact List.mem_cons_self
      · intro ticket thread running presented
        rcases setThread_cases running with ⟨-, started⟩ | ⟨-, old⟩
        · cases started
          rfl
        · exact unheld.2 ticket thread old presented
    have reached := stayed.reaches.next (.accept request) True.intro rfl
    have vacant := ((vacant_kept app x anyCommand).onward (obeys app) (fun _ => rfl)
      Invariant.lasting_trivial reached holds later onward).1.2
    rw [vacant] at found
    cases found
  · intro config mark reached member writes
    exact (young config reached).1 x mark member writes
  · intro blank config row idUser startedAt reached found named started
    rcases recording config reached with ⟨sound, -⟩
    rcases ((provenance_lasting blank anyCommand config reached).1 x row found).2 idUser startedAt
        named started with ⟨mark, form, login, last, seen, partOf, earlier, accepted, -⟩
    refine ⟨mark, form, login, last, seen, partOf, accepted, ?_⟩
    intro item member known
    have inLineage : mark ∈ config.world.lineage x := List.mem_of_find?_eq_some last
    have before : State.Later item.before mark.before :=
      Growth.before_before sound (sound.lineage x item (partOf.subset member))
        (sound.lineage x mark inLineage) (earlier item member)
    have writes : writesMarker mark.seen.command = true := by
      rw [seen]
      rfl
    exact (young config reached).1 x mark inLineage writes (before.known known)

end Console

namespace Sample

theorem state_listed : state.Listed := by
  intro id row found
  cases found

/-- A visitor comes with an id of its own choice before anything was stored. -/
def planted : Option (Config (Console.machine app)) :=
  (Config.idle state).act (Console.service app)
    (.accept ⟨visit (some 7), .page OperatorRole.all⟩)

theorem session_ids_not_fixed_planted :
    Exists fun config => planted = some config ∧
      forall later row, Reaches (Console.service app) anyCommand config later ->
        later.world.state.sessions.row 7 = some row ->
        row.record.data.authenticatedUserId = none :=
  ⟨_, rfl, (Console.session_ids_not_fixed app state_listed 7).2.1 (Config.idle state)
    ⟨visit (some 7), .page OperatorRole.all⟩ _ (Stays.here rfl) rfl rfl⟩

end Sample
end KrakenUi
