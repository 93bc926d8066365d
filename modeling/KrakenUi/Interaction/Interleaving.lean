import KrakenUi.Interaction.Semantics

namespace Interaction

variable {S : Signature} {M : Semantics S}

/-!
# Interleavings of requests

A configuration holds the world and the requests in progress.  An action
accepts a new request, lets one request perform its next command, finishes a
request whose program is over, drops a request in the middle, or lets the
environment change the state.  Nothing restricts the order, so the reachable
configurations are those of every scheduler.

A dropped request leaves the effects of the commands it has performed and
never reaches its final write.  This is how a failing call, a lost connection
and a cancelled handler look from the outside.

Some theorems only hold of runs in which each command meets a condition.  The
relation `Reaches` carries that condition, and the trivial condition gives
all runs.
-/

/-- A request in progress together with the rest of its program. -/
structure Thread (M : Semantics S) where
  flight : InFlight M
  program : Program S Unit

structure Config (M : Semantics S) where
  world : World M
  threads : Nat -> Option (Thread M)
  next : Nat

/-- What a scheduler may choose to do. -/
inductive Action (M : Semantics S) where
  | accept (request : M.Request)
  | step (ticket : Nat) (draw : M.Draw)
  | close (ticket : Nat) (draw : M.Draw)
  | drop (ticket : Nat)
  | happen (event : M.Event)

/-- The thread table with the entry of one ticket replaced. -/
def setThread (threads : Nat -> Option (Thread M)) (ticket : Nat)
    (thread : Option (Thread M)) : Nat -> Option (Thread M) :=
  fun other => if other = ticket then thread else threads other

theorem setThread_cases {threads : Nat -> Option (Thread M)} {ticket other : Nat}
    {changed : Option (Thread M)} {thread : Thread M}
    (found : setThread threads ticket changed other = some thread) :
    (other = ticket ∧ changed = some thread) ∨ (other ≠ ticket ∧ threads other = some thread) := by
  unfold setThread at found
  by_cases same : other = ticket
  · rw [if_pos same] at found
    exact Or.inl ⟨same, found⟩
  · rw [if_neg same] at found
    exact Or.inr ⟨same, found⟩

/-- The program that answers each request. -/
abbrev Service (M : Semantics S) := M.Request -> Program S Unit

/-- A condition on the commands of a run, evaluated just before each one. -/
abbrev Condition (M : Semantics S) := World M -> InFlight M -> S.Command -> Prop

/-- The condition that every command meets. -/
def anyCommand : Condition M := fun _ _ _ => True

namespace Config

/-- A configuration before the first request, with nothing written down. -/
def idle (state : M.State) : Config M where
  world := ⟨state, [], fun _ => []⟩
  threads := fun _ => none
  next := 0

def act (service : Service M) (config : Config M) : Action M -> Option (Config M)
  | .accept request =>
      let accepted := config.world.accept config.next request
      some {
        world := accepted.1
        threads := setThread config.threads config.next (some ⟨accepted.2, service request⟩)
        next := config.next + 1 }
  | .step ticket draw =>
      match config.threads ticket with
      | some ⟨flight, .call command rest⟩ =>
          match config.world.execute flight command draw with
          | some (reply, world, flight) => some { config with
              world := world
              threads := setThread config.threads ticket (some ⟨flight, rest reply⟩) }
          | none => none
      | _ => none
  | .close ticket draw =>
      match config.threads ticket with
      | some ⟨flight, .done _⟩ =>
          (config.world.close flight draw).map fun world => { config with
            world := world
            threads := setThread config.threads ticket none }
      | _ => none
  | .drop ticket =>
      some { config with threads := setThread config.threads ticket none }
  | .happen event =>
      (config.world.happen event).map fun world => { config with world := world }

/-- The command that an action performs meets the condition. -/
def Meets (allowed : Condition M) (config : Config M) : Action M -> Prop
  | .step ticket _ => forall flight command rest,
      config.threads ticket = some ⟨flight, .call command rest⟩ ->
        allowed config.world flight command
  | _ => True

theorem meets_anyCommand (config : Config M) (action : Action M) :
    config.Meets anyCommand action := by
  cases action <;> simp [Meets, anyCommand]

/-- The command that an action performs passes a test. -/
def passes (test : World M -> InFlight M -> S.Command -> Bool) (config : Config M) :
    Action M -> Bool
  | .step ticket _ =>
      match config.threads ticket with
      | some ⟨flight, .call command _⟩ => test config.world flight command
      | _ => true
  | _ => true

/-- Perform a schedule.  A choice that is not possible, or a command that does
not pass the test, ends the run. -/
def playWhile (service : Service M) (test : World M -> InFlight M -> S.Command -> Bool)
    (config : Config M) : List (Action M) -> Option (Config M)
  | [] => some config
  | action :: schedule =>
      if config.passes test action then
        match config.act service action with
        | some after => after.playWhile service test schedule
        | none => none
      else none

/-- Perform a schedule whatever its commands are. -/
def play (service : Service M) (config : Config M) (schedule : List (Action M)) :
    Option (Config M) :=
  config.playWhile service (fun _ _ _ => true) schedule

theorem meets_of_passes {allowed : Condition M}
    {test : World M -> InFlight M -> S.Command -> Bool}
    (sound : forall world flight command, test world flight command = true ->
      allowed world flight command)
    {config : Config M} {action : Action M} (passed : config.passes test action = true) :
    config.Meets allowed action := by
  cases action with
  | step ticket draw =>
      intro flight command rest waiting
      simp only [passes, waiting] at passed
      exact sound _ _ _ passed
  | _ => exact True.intro

end Config

/-- Runs from one configuration in which every command meets the condition. -/
inductive Reaches (service : Service M) (allowed : Condition M) (start : Config M) :
    Config M -> Prop
  | here : Reaches service allowed start start
  | next {config after : Config M} (action : Action M)
      (reached : Reaches service allowed start config)
      (meets : config.Meets allowed action)
      (acted : config.act service action = some after) :
      Reaches service allowed start after

/-- One more action. -/
inductive Moves (service : Service M) (allowed : Condition M) (config : Config M) :
    Config M -> Prop
  | accept (request : M.Request) :
      Moves service allowed config {
        world := (config.world.accept config.next request).1
        threads := setThread config.threads config.next
          (some ⟨(config.world.accept config.next request).2, service request⟩)
        next := config.next + 1 }
  | step {ticket : Nat} {draw : M.Draw} {flight : InFlight M} {command : S.Command}
      {rest : S.Reply command -> Program S Unit} {reply : S.Reply command}
      {world : World M} {advanced : InFlight M}
      (waiting : config.threads ticket = some ⟨flight, .call command rest⟩)
      (meets : allowed config.world flight command)
      (executed : config.world.execute flight command draw = some (reply, world, advanced)) :
      Moves service allowed config { config with
        world := world
        threads := setThread config.threads ticket (some ⟨advanced, rest reply⟩) }
  | close {ticket : Nat} {draw : M.Draw} {flight : InFlight M} {value : Unit} {world : World M}
      (waiting : config.threads ticket = some ⟨flight, .done value⟩)
      (closed : config.world.close flight draw = some world) :
      Moves service allowed config { config with
        world := world
        threads := setThread config.threads ticket none }
  | drop (ticket : Nat) :
      Moves service allowed config { config with threads := setThread config.threads ticket none }
  | happen {event : M.Event} {world : World M}
      (happened : config.world.happen event = some world) :
      Moves service allowed config { config with world := world }

/-- Everything a possible action can do. -/
theorem Config.act_moves {service : Service M} {allowed : Condition M} {config after : Config M}
    {action : Action M} (meets : config.Meets allowed action)
    (acted : config.act service action = some after) : Moves service allowed config after := by
  cases action with
  | accept request =>
      cases acted
      exact Moves.accept request
  | step ticket draw =>
      cases waiting : config.threads ticket with
      | none =>
          simp only [Config.act, waiting] at acted
          cases acted
      | some thread =>
          rcases thread with ⟨flight, program⟩
          cases program with
          | done value =>
              simp only [Config.act, waiting] at acted
              cases acted
          | call command rest =>
              simp only [Config.act, waiting] at acted
              cases executed : config.world.execute flight command draw with
              | none =>
                  rw [executed] at acted
                  cases acted
              | some result =>
                  rcases result with ⟨reply, world, advanced⟩
                  rw [executed] at acted
                  cases acted
                  exact Moves.step waiting (meets flight command rest waiting) executed
  | close ticket draw =>
      cases waiting : config.threads ticket with
      | none =>
          simp only [Config.act, waiting] at acted
          cases acted
      | some thread =>
          rcases thread with ⟨flight, program⟩
          cases program with
          | call command rest =>
              simp only [Config.act, waiting] at acted
              cases acted
          | done value =>
              simp only [Config.act, waiting, Option.map_eq_some_iff] at acted
              rcases acted with ⟨world, closed, rfl⟩
              exact Moves.close waiting closed
  | drop ticket =>
      cases acted
      exact Moves.drop ticket
  | happen event =>
      simp only [Config.act, Option.map_eq_some_iff] at acted
      rcases acted with ⟨world, happened, rfl⟩
      exact Moves.happen happened

namespace Reaches

variable {service : Service M} {allowed : Condition M} {start config after : Config M}

theorem trans (first : Reaches service allowed start config)
    (second : Reaches service allowed config after) : Reaches service allowed start after := by
  induction second with
  | here => exact first
  | next action _ meets acted inductionHypothesis =>
      exact Reaches.next action inductionHypothesis meets acted

/-- A run goes on with the next command of a request. -/
theorem step {flight advanced : InFlight M} {command : S.Command}
    {rest : S.Reply command -> Program S Unit} {reply : S.Reply command} {world : World M}
    (reached : Reaches service anyCommand start config) (ticket : Nat) (draw : M.Draw)
    (waiting : config.threads ticket = some ⟨flight, .call command rest⟩)
    (executed : config.world.execute flight command draw = some (reply, world, advanced)) :
    Reaches service anyCommand start { config with
      world := world
      threads := setThread config.threads ticket (some ⟨advanced, rest reply⟩) } := by
  apply reached.next (.step ticket draw) (Config.meets_anyCommand _ _)
  simp only [Config.act, waiting, executed]

/-- A property that every action keeps holds at the end of every run. -/
theorem keep {property : Config M -> Prop} (initial : property start)
    (moves : forall config after, property config -> Moves service allowed config after ->
      property after)
    (reached : Reaches service allowed start config) : property config := by
  induction reached with
  | here => exact initial
  | next action _ meets acted inductionHypothesis =>
      exact moves _ _ inductionHypothesis (Config.act_moves meets acted)

end Reaches

/-- The state that an entry left behind was the state of a reachable configuration. -/
theorem Reaches.state_after {service : Service M} {allowed : Condition M} {start config : Config M}
    (blank : start.world.log = []) (reached : Reaches service allowed start config)
    {item : Entry M} (member : item ∈ config.world.log) :
    Exists fun earlier : Config M => Reaches service allowed start earlier ∧
      earlier.world.state = item.after := by
  induction reached with
  | here =>
      rw [blank] at member
      cases member
  | @next before after action reached meets acted inductionHypothesis =>
      have arrived := Reaches.next action reached meets acted
      cases Config.act_moves meets acted with
      | accept request => exact inductionHypothesis member
      | step waiting _ executed =>
          rcases World.execute_some executed with ⟨state, held, -, rfl, -⟩
          rcases List.mem_cons.mp member with rfl | old
          · exact ⟨_, arrived, rfl⟩
          · exact inductionHypothesis old
      | close waiting closed =>
          rcases World.close_some closed with ⟨state, place, -, rfl⟩
          exact inductionHypothesis member
      | drop ticket => exact inductionHypothesis member
      | happen happened =>
          rcases World.happen_some happened with ⟨state, -, rfl⟩
          exact inductionHypothesis member

/-- What each request in progress still has to do is what its journal has left of
the program that answers it. -/
theorem Config.resumed {service : Service M} {allowed : Condition M} {start config : Config M}
    (idle : forall ticket, start.threads ticket = none)
    (reached : Reaches service allowed start config) {ticket : Nat} {thread : Thread M}
    (running : config.threads ticket = some thread) :
    Program.Resumes (service thread.flight.request) thread.flight.transcript thread.program := by
  have initial : forall ticket thread, start.threads ticket = some thread ->
      Program.Resumes (service thread.flight.request) thread.flight.transcript thread.program := by
    intro other thread found
    rw [idle other] at found
    cases found
  have moves : forall before after : Config M,
      (forall ticket thread, before.threads ticket = some thread ->
        Program.Resumes (service thread.flight.request) thread.flight.transcript thread.program) ->
      Moves service allowed before after ->
      forall ticket thread, after.threads ticket = some thread ->
        Program.Resumes (service thread.flight.request) thread.flight.transcript
          thread.program := by
    intro before after holds moved other thread found
    cases moved with
    | accept request =>
        rcases setThread_cases found with ⟨-, started⟩ | ⟨-, old⟩
        · cases started
          exact Program.Resumes.start _
        · exact holds other thread old
    | step waiting meets executed =>
        rcases setThread_cases found with ⟨-, stepped⟩ | ⟨-, old⟩
        · cases stepped
          rcases World.execute_some executed with ⟨state, held, -, -, rfl⟩
          have resumed := (holds _ _ waiting).step
          simp only [InFlight.transcript, InFlight.advance, List.reverse_cons, List.map_append,
            List.map_cons, List.map_nil]
          exact resumed _
        · exact holds other thread old
    | close waiting closed =>
        rcases setThread_cases found with ⟨-, gone⟩ | ⟨-, old⟩
        · cases gone
        · exact holds other thread old
    | drop ticket =>
        rcases setThread_cases found with ⟨-, gone⟩ | ⟨-, old⟩
        · cases gone
        · exact holds other thread old
    | happen happened => exact holds other thread found
  exact reached.keep initial moves ticket thread running

/-- Runs of which every configuration, the first one included, is inside a set. -/
inductive Stays (service : Service M) (allowed : Condition M) (inside : Config M -> Prop)
    (start : Config M) : Config M -> Prop
  | here (initial : inside start) : Stays service allowed inside start start
  | next {config after : Config M} (action : Action M)
      (stayed : Stays service allowed inside start config)
      (meets : config.Meets allowed action)
      (acted : config.act service action = some after) (within : inside after) :
      Stays service allowed inside start after

namespace Stays

variable {service : Service M} {allowed : Condition M} {inside : Config M -> Prop}
  {start config : Config M}

theorem reaches (stayed : Stays service allowed inside start config) :
    Reaches service allowed start config := by
  induction stayed with
  | here _ => exact Reaches.here
  | next action _ meets acted _ inductionHypothesis =>
      exact Reaches.next action inductionHypothesis meets acted

theorem last (stayed : Stays service allowed inside start config) : inside config := by
  cases stayed with
  | here initial => exact initial
  | next action _ _ _ within => exact within

end Stays

/-- A schedule whose commands pass a test is a run under the condition it tests. -/
theorem Config.playWhile_reaches {service : Service M} {allowed : Condition M}
    {test : World M -> InFlight M -> S.Command -> Bool}
    (sound : forall world flight command, test world flight command = true ->
      allowed world flight command)
    {start config : Config M} (schedule : List (Action M))
    (played : start.playWhile service test schedule = some config) :
    Reaches service allowed start config := by
  induction schedule generalizing start with
  | nil =>
      cases played
      exact Reaches.here
  | cons action schedule inductionHypothesis =>
      unfold Config.playWhile at played
      split at played
      · rename_i passed
        cases acted : start.act service action with
        | none =>
            rw [acted] at played
            cases played
        | some after =>
            rw [acted] at played
            exact (Reaches.next action Reaches.here (Config.meets_of_passes sound passed)
              acted).trans (inductionHypothesis played)
      · cases played

/-- A schedule that plays to its end is a run. -/
theorem Config.play_reaches {service : Service M} {start config : Config M}
    (schedule : List (Action M)) (played : start.play service schedule = some config) :
    Reaches service anyCommand start config :=
  Config.playWhile_reaches (fun _ _ _ _ => True.intro) schedule played

end Interaction
