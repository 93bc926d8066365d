import KrakenUi.Interaction.Program
import Mathlib.Data.List.Basic

namespace Interaction

/-!
# Machines that keep a journal

A semantics says what each command does to the shared state and to the data
that one request holds privately.  It also names two things that proofs about
servers keep asking for.  `fetches` says which stored place a command copies
into the request, and `close` says which place the request writes when its
program is over.  `landmark` picks the commands that open a new era in the
history of a record.

The machine built on a semantics performs the commands and writes down what
happened.  Every performed command becomes an `Entry`.  The world keeps all
entries, a request keeps its own ones, and every place keeps its lineage: the
entries of all requests through whose hands its present content went.  None of
these records can influence a run.  They only let a theorem about a reachable
state speak about the past of that state.
-/

/-- The meaning of the commands of a signature on a shared state. -/
structure Semantics (S : Signature) where
  State : Type
  /-- What a running request holds privately. -/
  Held : Type
  Request : Type
  /-- Values the environment supplies to a command: random numbers, verdicts. -/
  Draw : Type
  /-- Changes of the state that no request makes. -/
  Event : Type
  /-- Names of the stored records whose history is followed. -/
  Place : Type
  placeEq : DecidableEq Place
  accept : State -> Request -> State × Held
  perform : State -> Held -> (command : S.Command) -> Draw ->
    Option (S.Reply command × State × Held)
  fetches : State -> Held -> S.Command -> Option Place
  landmark : S.Command -> Bool
  close : State -> Held -> Draw -> Option (State × Option Place)
  happen : State -> Event -> Option State

variable {S : Signature}

/-- One performed command.  `moment` counts the commands performed before it
by anyone, and `era` is the moment of the last landmark in the history that
the request had at that time. -/
structure Entry (M : Semantics S) where
  ticket : Nat
  request : M.Request
  opened : M.State
  moment : Nat
  before : M.State
  after : M.State
  held : M.Held
  era : Option Nat
  seen : Observation S

/-- The shared state and what is written down about it, newest entry first. -/
structure World (M : Semantics S) where
  state : M.State
  log : List (Entry M)
  lineage : M.Place -> List (Entry M)

/-- A running request.  `inherited` is the lineage of the record it has
fetched and `own` holds the commands it performed itself, newest first. -/
structure InFlight (M : Semantics S) where
  ticket : Nat
  request : M.Request
  opened : M.State
  held : M.Held
  inherited : List (Entry M)
  own : List (Entry M)

variable {M : Semantics S}

namespace Entry

/-- The semantics produced this entry and left the request with `held`. -/
def Leads (entry : Entry M) (held : M.Held) : Prop :=
  Exists fun draw =>
    M.perform entry.before entry.held entry.seen.command draw =
      some (entry.seen.reply, entry.after, held)

/-- The semantics really produced this entry. -/
def Genuine (entry : Entry M) : Prop :=
  Exists fun held => entry.Leads held

end Entry

/-- Each entry of a journal, newest first, leads to what the next one found. -/
def Linked : List (Entry M) -> M.Held -> Prop
  | [], _ => True
  | entry :: older, held => entry.Leads held ∧ Linked older entry.held

/-- Two neighbours in a journal: the older one leads to what the newer one found. -/
theorem Linked.leads {newer older : List (Entry M)} {next entry : Entry M} {held : M.Held}
    (linked : Linked (newer ++ next :: entry :: older) held) : entry.Leads next.held := by
  induction newer generalizing held with
  | nil => exact linked.2.1
  | cons newest newer inductionHypothesis => exact inductionHypothesis linked.2

/-- Every entry of a journal led somewhere. -/
theorem Linked.genuine {newer older : List (Entry M)} {entry : Entry M} {held : M.Held}
    (linked : Linked (newer ++ entry :: older) held) : entry.Genuine := by
  induction newer generalizing held with
  | nil => exact ⟨held, linked.1⟩
  | cons newest newer inductionHypothesis => exact inductionHypothesis linked.2

/-- The newest entry of a history that opens an era. -/
def lastLandmark (history : List (Entry M)) : Option (Entry M) :=
  history.find? fun entry => M.landmark entry.seen.command

theorem landmark_of_last {history : List (Entry M)} {entry : Entry M}
    (last : lastLandmark history = some entry) : M.landmark entry.seen.command = true := by
  unfold lastLandmark at last
  have found := List.find?_some last
  exact found

namespace InFlight

/-- Everything that led to the data this request holds, newest first. -/
def history (flight : InFlight M) : List (Entry M) :=
  flight.own ++ flight.inherited

/-- The commands of the request and their replies, oldest first. -/
def transcript (flight : InFlight M) : List (Observation S) :=
  flight.own.reverse.map Entry.seen

def era (flight : InFlight M) : Option Nat :=
  (lastLandmark flight.history).map Entry.moment

/-- The entry for a command that this request performs now. -/
def entry (flight : InFlight M) (world : World M) (command : S.Command)
    (reply : S.Reply command) (after : M.State) : Entry M where
  ticket := flight.ticket
  request := flight.request
  opened := flight.opened
  moment := world.log.length
  before := world.state
  after := after
  held := flight.held
  era := flight.era
  seen := ⟨command, reply⟩

/-- A fetching command replaces what was inherited before. -/
def inheriting (flight : InFlight M) (world : World M) (command : S.Command) : List (Entry M) :=
  match M.fetches world.state flight.held command with
  | some place => world.lineage place
  | none => flight.inherited

theorem inheriting_none {flight : InFlight M} {world : World M} {command : S.Command}
    (nothing : M.fetches world.state flight.held command = none) :
    flight.inheriting world command = flight.inherited := by
  unfold inheriting
  rw [nothing]

theorem inheriting_some {flight : InFlight M} {world : World M} {command : S.Command}
    {place : M.Place} (fetched : M.fetches world.state flight.held command = some place) :
    flight.inheriting world command = world.lineage place := by
  unfold inheriting
  rw [fetched]

/-- The request after a command. -/
def advance (flight : InFlight M) (world : World M) (command : S.Command)
    (reply : S.Reply command) (after : M.State) (held : M.Held) : InFlight M :=
  { flight with
    held := held
    inherited := flight.inheriting world command
    own := flight.entry world command reply after :: flight.own }

end InFlight

namespace World

/-- The world after a command. -/
def record (world : World M) (entry : Entry M) : World M :=
  { world with state := entry.after, log := entry :: world.log }

def accept (world : World M) (ticket : Nat) (request : M.Request) : World M × InFlight M :=
  let accepted := M.accept world.state request
  ({ world with state := accepted.1 },
    ⟨ticket, request, accepted.1, accepted.2, [], []⟩)

def execute (world : World M) (flight : InFlight M) (command : S.Command) (draw : M.Draw) :
    Option (S.Reply command × World M × InFlight M) :=
  match M.perform world.state flight.held command draw with
  | none => none
  | some (reply, after, held) =>
      some (reply, world.record (flight.entry world command reply after),
        flight.advance world command reply after held)

/-- The lineage of a written place becomes the history of the writer. -/
def inscribe (world : World M) (place : Option M.Place) (history : List (Entry M)) :
    M.Place -> List (Entry M) :=
  match place with
  | none => world.lineage
  | some written => fun other =>
      have := M.placeEq
      if other = written then history else world.lineage other

def close (world : World M) (flight : InFlight M) (draw : M.Draw) : Option (World M) :=
  match M.close world.state flight.held draw with
  | none => none
  | some (after, place) =>
      some { world with state := after, lineage := world.inscribe place flight.history }

def happen (world : World M) (event : M.Event) : Option (World M) :=
  (M.happen world.state event).map fun after => { world with state := after }

/-- What one successful command does to the world and to its request. -/
theorem execute_some {world world' : World M} {flight flight' : InFlight M}
    {command : S.Command} {draw : M.Draw} {reply : S.Reply command}
    (executed : world.execute flight command draw = some (reply, world', flight')) :
    Exists fun after => Exists fun held =>
      M.perform world.state flight.held command draw = some (reply, after, held) ∧
        world' = world.record (flight.entry world command reply after) ∧
        flight' = flight.advance world command reply after held := by
  unfold execute at executed
  cases performed : M.perform world.state flight.held command draw with
  | none =>
      rw [performed] at executed
      cases executed
  | some result =>
      rcases result with ⟨given, after, held⟩
      rw [performed] at executed
      cases executed
      exact ⟨after, held, rfl, rfl, rfl⟩

theorem close_some {world world' : World M} {flight : InFlight M} {draw : M.Draw}
    (closed : world.close flight draw = some world') :
    Exists fun after => Exists fun place =>
      M.close world.state flight.held draw = some (after, place) ∧
        world' = { world with state := after, lineage := world.inscribe place flight.history } := by
  unfold close at closed
  cases finished : M.close world.state flight.held draw with
  | none =>
      rw [finished] at closed
      cases closed
  | some result =>
      rcases result with ⟨after, place⟩
      rw [finished] at closed
      cases closed
      exact ⟨after, place, rfl, rfl⟩

theorem happen_some {world world' : World M} {event : M.Event}
    (happened : world.happen event = some world') :
    Exists fun after => M.happen world.state event = some after ∧
      world' = { world with state := after } := by
  unfold happen at happened
  cases passed : M.happen world.state event with
  | none =>
      rw [passed] at happened
      cases happened
  | some after =>
      rw [passed] at happened
      cases happened
      exact ⟨after, rfl, rfl⟩

theorem inscribe_cases (world : World M) (place : Option M.Place) (history : List (Entry M))
    (other : M.Place) :
    (place = some other ∧ world.inscribe place history other = history) ∨
      (place ≠ some other ∧ world.inscribe place history other = world.lineage other) := by
  cases place with
  | none => exact Or.inr ⟨by simp, rfl⟩
  | some written =>
      by_cases same : other = written
      · subst same
        exact Or.inl ⟨rfl, by simp [inscribe]⟩
      · refine Or.inr ⟨fun equal => same (Option.some.inj equal).symm, ?_⟩
        simp [inscribe, same]

end World
end Interaction
