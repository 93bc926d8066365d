import KrakenUi.Interaction.Beside
import KrakenUi.Interaction.Contract

namespace Interaction

variable {S T : Signature} {M : Semantics S} {Request Choice : Type}
  {underlying : Request -> M.Request}
  {answer : M.State -> (command : T.Command) -> Choice -> Option (T.Reply command)}

/-!
# The machine behind a machine that talks to others

A machine whose requests also talk to somebody outside is followed by the machine
without the outside.  Calls to the outside are left out of the journals, and so is a
command of the inner machine that changes nothing, when it is declared to be a look.
Everything else is mirrored, entry by entry, up to the numbering.

What a program keeps in the inner machine, the embedded program keeps in the outer
one; and a service that does what the inner one does, with calls to the outside and
looks in between, has its runs mirrored by runs of the inner one.
-/

/-- The same entry in both machines. -/
structure Entry.Reflects (inner : Entry M)
    (outer : Entry (M.outward T underlying Choice answer)) : Prop where
  ticket : outer.ticket = inner.ticket
  request : underlying outer.request = inner.request
  opened : outer.opened = inner.opened
  before : outer.before = inner.before
  after : outer.after = inner.after
  held : outer.held = inner.held
  seen : outer.seen = (Signature.inner S T).carry inner.seen

/-- The same journal, but for the entries that may be left out. -/
inductive Mirrored (omitted : Entry (M.outward T underlying Choice answer) -> Prop) :
    List (Entry M) -> List (Entry (M.outward T underlying Choice answer)) -> Prop
  | nil : Mirrored omitted [] []
  | both {first : Entry M} {second : Entry (M.outward T underlying Choice answer)}
      {inner : List (Entry M)} {outer : List (Entry (M.outward T underlying Choice answer))}
      (reflects : first.Reflects second) (rest : Mirrored omitted inner outer) :
      Mirrored omitted (first :: inner) (second :: outer)
  | aside {second : Entry (M.outward T underlying Choice answer)}
      {inner : List (Entry M)} {outer : List (Entry (M.outward T underlying Choice answer))}
      (out : omitted second) (rest : Mirrored omitted inner outer) :
      Mirrored omitted inner (second :: outer)

/-- The same request, as far as it can be seen in the inner machine. -/
structure InFlight.Mirrors
    (omitted : Entry (M.outward T underlying Choice answer) -> Prop) (inner : InFlight M)
    (outer : InFlight (M.outward T underlying Choice answer)) : Prop where
  ticket : outer.ticket = inner.ticket
  request : underlying outer.request = inner.request
  opened : outer.opened = inner.opened
  held : outer.held = inner.held
  own : Mirrored omitted inner.own outer.own

section Journals

variable {omitted : Entry (M.outward T underlying Choice answer) -> Prop}
  {inner : List (Entry M)}
  {outer : List (Entry (M.outward T underlying Choice answer))}

/-- Each entry of the inner journal is in the outer one. -/
theorem Mirrored.reflected (mirrored : Mirrored omitted inner outer) {first : Entry M}
    (member : first ∈ inner) :
    Exists fun second => second ∈ outer ∧ first.Reflects second := by
  induction mirrored with
  | nil => exact absurd member List.not_mem_nil
  | both reflects _ inductionHypothesis =>
      rcases List.mem_cons.mp member with rfl | later
      · exact ⟨_, List.mem_cons_self, reflects⟩
      · rcases inductionHypothesis later with ⟨second, among, same⟩
        exact ⟨second, List.mem_cons_of_mem _ among, same⟩
  | aside _ _ inductionHypothesis =>
      rcases inductionHypothesis member with ⟨second, among, same⟩
      exact ⟨second, List.mem_cons_of_mem _ among, same⟩

end Journals

namespace InFlight.Mirrors

variable {omitted : Entry (M.outward T underlying Choice answer) -> Prop}
  {inner : InFlight M} {outer : InFlight (M.outward T underlying Choice answer)}
  {world : World M} {world' : World (M.outward T underlying Choice answer)}

/-- The entries of a command that both perform. -/
theorem reflects (mirrors : inner.Mirrors omitted outer) (same : world'.state = world.state)
    {command : S.Command} {reply : S.Reply command} {after : M.State} :
    (inner.entry world command reply after).Reflects
      (outer.entry world' (.inl command) reply after) where
  ticket := mirrors.ticket
  request := mirrors.request
  opened := mirrors.opened
  before := same
  after := rfl
  held := mirrors.held
  seen := rfl

theorem advance (mirrors : inner.Mirrors omitted outer) (same : world'.state = world.state)
    {command : S.Command} {reply : S.Reply command} {after : M.State} {held : M.Held} :
    (inner.advance world command reply after held).Mirrors omitted
      (outer.advance world' (.inl command) reply after held) where
  ticket := mirrors.ticket
  request := mirrors.request
  opened := mirrors.opened
  held := rfl
  own := Mirrored.both (mirrors.reflects same) mirrors.own

/-- A command that is left out. -/
theorem aside (mirrors : inner.Mirrors omitted outer) {command : (S.beside T).Command}
    {reply : (S.beside T).Reply command} {after : M.State}
    (out : omitted (outer.entry world' command reply after)) :
    inner.Mirrors omitted (outer.advance world' command reply after outer.held) where
  ticket := mirrors.ticket
  request := mirrors.request
  opened := mirrors.opened
  held := mirrors.held
  own := Mirrored.aside out mirrors.own

end InFlight.Mirrors

/-- What a program keeps in the inner machine, it keeps when it is embedded. -/
theorem Keeps.embed {omitted : Entry (M.outward T underlying Choice answer) -> Prop}
    {contract : Contract M}
    {contract' : Contract (M.outward T underlying Choice answer)}
    (permits : forall (inner : InFlight M)
      (outer : InFlight (M.outward T underlying Choice answer)) (command : S.Command),
      inner.Mirrors omitted outer -> contract.Permitted inner command ->
        contract'.Permitted outer (.inl command))
    {α : Type} {program : Program S α} {inner : InFlight M} {post : α -> InFlight M -> Prop}
    (keeps : Keeps contract program inner post)
    {outer : InFlight (M.outward T underlying Choice answer)}
    (mirrors : inner.Mirrors omitted outer) :
    Keeps contract' (program.embed (Signature.inner S T)) outer (fun value after =>
      Exists fun before : InFlight M => before.Mirrors omitted after ∧ post value before) := by
  induction program generalizing inner outer with
  | done value => exact Keeps.pure ⟨inner, mirrors, Keeps.done_iff.mp keeps⟩
  | call command next inductionHypothesis =>
      rcases Keeps.call_iff.mp keeps with ⟨permitted, later⟩
      refine Keeps.call_iff.mpr ⟨permits inner outer command mirrors permitted, ?_⟩
      intro world' draw reply after held performed
      -- any world of the inner machine in this state will do
      let world : World M := ⟨world'.state, [], fun _ => []⟩
      rw [mirrors.held] at performed
      exact inductionHypothesis reply (later world draw.1 reply after held performed)
        (mirrors.advance rfl)

/-! ## Runs -/

/-- Commands that only look, for a request that holds what they look at. -/
structure Looks (M : Semantics S) where
  look : S.Command -> Prop
  settles : S.Command -> Prop
  settled : M.Held -> Prop
  settling : forall {state held command draw reply after held'}, settles command ->
    M.perform state held command draw = some (reply, after, held') -> settled held'
  stays : forall {state held command draw reply after held'}, settled held ->
    M.perform state held command draw = some (reply, after, held') -> settled held'
  still : forall {state held command draw reply after held'}, settled held -> look command ->
    M.perform state held command draw = some (reply, after, held') ->
      after = state ∧ held' = held

/-- What may follow in the outer machine once a request is settled. -/
def Looks.unheard (looks : Looks M) : (S.beside T).Command -> Prop :=
  Sum.elim looks.look fun _ => True

/-- What the inner machine does not hear of: calls to the outside, and looks of a request
that is settled, none of which change anything. -/
def Looks.omitted (looks : Looks M) (entry : Entry (M.outward T underlying Choice answer)) :
    Prop :=
  entry.after = entry.before ∧
    Sum.elim (fun command => looks.look command ∧ looks.settled entry.held) (fun _ => True)
      entry.seen.command

/-- The outer program does what the inner one does, with calls to the outside and,
once the request is settled, looks. -/
inductive Tracks (looks : Looks M) : Bool -> Program S Unit -> Program (S.beside T) Unit -> Prop
  | done {settled : Bool} {value : Unit} : Tracks looks settled (.done value) (.done value)
  | step {settled : Bool} {command : S.Command} {next : S.Reply command -> Program S Unit}
      {next' : S.Reply command -> Program (S.beside T) Unit}
      (later : forall reply, Tracks looks settled (next reply) (next' reply)) :
      Tracks looks settled (.call command next) (.call (.inl command) next')
  | settle {settled : Bool} {command : S.Command} {next : S.Reply command -> Program S Unit}
      {next' : S.Reply command -> Program (S.beside T) Unit} (settles : looks.settles command)
      (later : forall reply, Tracks looks true (next reply) (next' reply)) :
      Tracks looks settled (.call command next) (.call (.inl command) next')
  | outside {settled : Bool} {inner : Program S Unit} {command : T.Command}
      {next' : T.Reply command -> Program (S.beside T) Unit}
      (later : forall reply, Tracks looks settled inner (next' reply)) :
      Tracks looks settled inner (.call (.inr command) next')
  | look {inner : Program S Unit} {command : S.Command}
      {next' : S.Reply command -> Program (S.beside T) Unit} (looked : looks.look command)
      (later : forall reply, Tracks looks true inner (next' reply)) :
      Tracks looks true inner (.call (.inl command) next')

/-- A request in progress and its counterpart. -/
structure Thread.Mirrors (looks : Looks M) (inner : Thread M)
    (outer : Thread (M.outward T underlying Choice answer)) : Prop where
  flight : inner.flight.Mirrors looks.omitted outer.flight
  tracks : Exists fun settled => Tracks looks settled inner.program outer.program ∧
    (settled = true -> looks.settled inner.flight.held)

/-- The same situation in both machines. -/
structure Config.Mirrors (looks : Looks M) (inner : Config M)
    (outer : Config (M.outward T underlying Choice answer)) : Prop where
  state : outer.world.state = inner.world.state
  log : Mirrored looks.omitted inner.world.log outer.world.log
  next : outer.next = inner.next
  threads : forall ticket, Option.Rel (Thread.Mirrors looks) (inner.threads ticket)
    (outer.threads ticket)

/-- The condition on the commands that both perform. -/
def Condition.mirrored (looks : Looks M) (allowed : Condition M) :
    Condition (M.outward T underlying Choice answer) :=
  fun world' flight' command =>
    match command with
    | .inl command => forall (world : World M) (flight : InFlight M),
        world'.state = world.state -> Mirrored looks.omitted world.log world'.log ->
          flight.Mirrors looks.omitted flight' -> allowed world flight command
    | .inr _ => True

section Runs

variable {looks : Looks M} {inner : Config M}
  {outer : Config (M.outward T underlying Choice answer)}

theorem rel_setThread {threads : Nat -> Option (Thread M)}
    {threads' : Nat -> Option (Thread (M.outward T underlying Choice answer))}
    (rel : forall ticket, Option.Rel (Thread.Mirrors looks) (threads ticket) (threads' ticket))
    (ticket : Nat) {changed : Option (Thread M)}
    {changed' : Option (Thread (M.outward T underlying Choice answer))}
    (new : Option.Rel (Thread.Mirrors looks) changed changed') (other : Nat) :
    Option.Rel (Thread.Mirrors looks) (setThread threads ticket changed other)
      (setThread threads' ticket changed' other) := by
  unfold setThread
  split
  · exact new
  · exact rel other

/-- The counterpart of a request that is waiting. -/
theorem Config.Mirrors.thread (mirrors : inner.Mirrors looks outer) {ticket : Nat}
    {thread' : Thread (M.outward T underlying Choice answer)}
    (waiting : outer.threads ticket = some thread') :
    Exists fun thread => inner.threads ticket = some thread ∧ thread.Mirrors looks thread' := by
  have related := mirrors.threads ticket
  rw [waiting] at related
  cases found : inner.threads ticket with
  | none =>
      rw [found] at related
      cases related
  | some thread =>
      rw [found] at related
      cases related with
      | some same => exact ⟨thread, rfl, same⟩

/-- A request of the inner machine performs its next command. -/
theorem act_step {service : Service M} {ticket : Nat} {flight : InFlight M} {command : S.Command}
    {next : S.Reply command -> Program S Unit} {draw : M.Draw} {reply : S.Reply command}
    {after : M.State} {held : M.Held}
    (waiting : inner.threads ticket = some ⟨flight, .call command next⟩)
    (performed : M.perform inner.world.state flight.held command draw =
      some (reply, after, held)) :
    inner.act service (.step ticket draw) = some { inner with
      world := inner.world.record (flight.entry inner.world command reply after)
      threads := setThread inner.threads ticket
        (some ⟨flight.advance inner.world command reply after held, next reply⟩) } := by
  rw [Config.act, waiting]
  dsimp only
  rw [World.execute, performed]

/-- A command that both perform, whatever is known afterwards. -/
theorem Reaches.both {service : Service M} {allowed : Condition M} {start : Config M}
    (reached : Reaches service allowed start inner) (mirrors : inner.Mirrors looks outer)
    {ticket : Nat} {flight : InFlight M} {flight' : InFlight (M.outward T underlying Choice answer)}
    {command : S.Command} {next : S.Reply command -> Program S Unit}
    {next' : S.Reply command -> Program (S.beside T) Unit} {draw : M.Draw}
    {reply : S.Reply command} {state : M.State} {held : M.Held}
    (waiting : inner.threads ticket = some ⟨flight, .call command next⟩)
    (permitted : allowed.mirrored looks outer.world flight' (.inl command))
    (performed : M.perform outer.world.state flight'.held command draw =
      some (reply, state, held))
    (same : flight.Mirrors looks.omitted flight') {settled : Bool}
    (tracked : Tracks looks settled (next reply) (next' reply))
    (holds : settled = true -> looks.settled held) :
    Exists fun inner' => Reaches service allowed start inner' ∧ inner'.Mirrors looks
      { outer with
        world := outer.world.record (flight'.entry outer.world (.inl command) reply state)
        threads := setThread outer.threads ticket (some ⟨flight'.advance outer.world
          (.inl command) reply state held, next' reply⟩) } := by
  have meets : inner.Meets allowed (.step ticket draw) := by
    intro other command₁ next₁ waiting₁
    rw [waiting] at waiting₁
    cases waiting₁
    exact permitted inner.world flight mirrors.state mirrors.log same
  rw [mirrors.state, same.held] at performed
  exact ⟨_, reached.next _ meets (act_step waiting performed), rfl,
    Mirrored.both (same.reflects mirrors.state) mirrors.log, mirrors.next,
    rel_setThread mirrors.threads ticket (Option.Rel.some
      ⟨same.advance mirrors.state, settled, tracked, holds⟩)⟩

/-- A command that the inner machine does not hear of. -/
theorem Config.Mirrors.aside (mirrors : inner.Mirrors looks outer) {ticket : Nat}
    {flight : InFlight M} {flight' : InFlight (M.outward T underlying Choice answer)}
    {program : Program S Unit} (waiting : inner.threads ticket = some ⟨flight, program⟩)
    (same : flight.Mirrors looks.omitted flight') {command : (S.beside T).Command}
    {next' : (S.beside T).Reply command -> Program (S.beside T) Unit}
    {reply : (S.beside T).Reply command}
    (out : looks.omitted (flight'.entry outer.world command reply outer.world.state))
    {settled : Bool}
    (tracked : Tracks looks settled program (next' reply))
    (holds : settled = true -> looks.settled flight.held) :
    inner.Mirrors looks { outer with
      world := outer.world.record (flight'.entry outer.world command reply outer.world.state)
      threads := setThread outer.threads ticket (some ⟨flight'.advance outer.world command reply
        outer.world.state flight'.held, next' reply⟩) } := by
  refine ⟨mirrors.state, Mirrored.aside out mirrors.log, mirrors.next, ?_⟩
  intro other
  have restored : inner.threads other =
      setThread inner.threads ticket (some ⟨flight, program⟩) other := by
    unfold setThread
    split
    · rename_i equal
      rw [equal, waiting]
    · rfl
  rw [restored]
  exact rel_setThread mirrors.threads ticket (Option.Rel.some
    ⟨same.aside out, settled, tracked, holds⟩) other

/-- One action of the outer machine is one of the inner machine, or none. -/
theorem Config.Mirrors.moves {service : Service M}
    {service' : Service (M.outward T underlying Choice answer)} {allowed : Condition M}
    (tracks : forall request, Tracks looks false (service (underlying request))
      (service' request))
    {start : Config M} (reached : Reaches service allowed start inner)
    (mirrors : inner.Mirrors looks outer)
    {after : Config (M.outward T underlying Choice answer)}
    (moves : Moves service' (allowed.mirrored looks) outer after) :
    Exists fun inner' => Reaches service allowed start inner' ∧ inner'.Mirrors looks after := by
  cases moves with
  | accept request =>
      refine ⟨_, reached.next (.accept (underlying request)) True.intro rfl, ?_⟩
      have same : M.accept outer.world.state (underlying request) =
          M.accept inner.world.state (underlying request) :=
        congrArg (fun state => M.accept state (underlying request)) mirrors.state
      refine ⟨congrArg Prod.fst same, mirrors.log, congrArg (· + 1) mirrors.next, ?_⟩
      intro ticket
      rw [mirrors.next]
      apply rel_setThread mirrors.threads
      refine Option.Rel.some ⟨⟨rfl, rfl, congrArg Prod.fst same, congrArg Prod.snd same,
        Mirrored.nil⟩, false, tracks request, ?_⟩
      intro impossible
      cases impossible
  | drop ticket =>
      exact ⟨_, reached.next (.drop ticket) True.intro rfl, mirrors.state, mirrors.log,
        mirrors.next, rel_setThread mirrors.threads ticket Option.Rel.none⟩
  | @happen event world' happened =>
      rcases World.happen_some happened with ⟨state, passed, rfl⟩
      have acted : inner.act service (.happen event) = some
          { inner with world := { inner.world with state := state } } := by
        change M.happen outer.world.state event = some state at passed
        rw [mirrors.state] at passed
        rw [Config.act, World.happen, passed]
        rfl
      exact ⟨_, reached.next (.happen event) True.intro acted, rfl, mirrors.log, mirrors.next,
        mirrors.threads⟩
  | @close ticket draw flight' value world' waiting closed =>
      rcases World.close_some closed with ⟨state, place, finished, rfl⟩
      rcases mirrors.thread waiting with ⟨⟨flight, program⟩, found, ⟨same, settled, tracked, -⟩⟩
      cases tracked
      change M.close outer.world.state flight'.held draw.1 = some (state, place) at finished
      rw [mirrors.state, same.held] at finished
      have acted : inner.act service (.close ticket draw.1) = some { inner with
          world := { inner.world with
            state := state, lineage := inner.world.inscribe place flight.history }
          threads := setThread inner.threads ticket none } := by
        rw [Config.act, found]
        dsimp only
        rw [World.close, finished]
        rfl
      exact ⟨_, reached.next (.close ticket draw.1) True.intro acted, rfl, mirrors.log,
        mirrors.next, rel_setThread mirrors.threads ticket Option.Rel.none⟩
  | @step ticket draw flight' command rest reply world' advanced waiting meets executed =>
      rcases World.execute_some executed with ⟨state, held, performed, rfl, rfl⟩
      rcases mirrors.thread waiting with ⟨⟨flight, program⟩, found, ⟨same, settled, tracked, held'⟩⟩
      cases tracked with
      | step later =>
          refine reached.both mirrors found meets performed same (later reply) ?_
          intro known
          have inside : M.perform outer.world.state flight'.held _ draw.1 =
            some (reply, state, held) := performed
          rw [same.held] at inside
          exact looks.stays (held' known) inside
      | settle settles later =>
          refine reached.both mirrors found meets performed same (later reply) ?_
          intro _
          have inside : M.perform outer.world.state flight'.held _ draw.1 =
            some (reply, state, held) := performed
          exact looks.settling settles inside
      | outside later =>
          rcases Option.map_eq_some_iff.mp performed with ⟨given, -, parts⟩
          cases parts
          exact ⟨inner, reached, mirrors.aside found same ⟨rfl, True.intro⟩ (later reply) held'⟩
      | look looked later =>
          have inside : M.perform outer.world.state flight'.held _ draw.1 =
            some (reply, state, held) := performed
          rw [same.held] at inside
          rcases looks.still (held' rfl) looked inside with ⟨unchanged, kept⟩
          subst unchanged
          rw [kept.trans same.held.symm]
          have settled' : looks.settled flight'.held := by
            rw [same.held]
            exact held' rfl
          exact ⟨inner, reached,
            mirrors.aside found same ⟨rfl, looked, settled'⟩ (later reply) held'⟩

/-- The runs of the outer machine are mirrored by runs of the inner one. -/
theorem mirrored_reaches {service : Service M}
    {service' : Service (M.outward T underlying Choice answer)} {allowed : Condition M}
    (tracks : forall request, Tracks looks false (service (underlying request))
      (service' request))
    {state : M.State}
    (reached : Reaches service' (allowed.mirrored looks) (Config.idle state) outer) :
    Exists fun inner : Config M => Reaches service allowed (Config.idle state) inner ∧
      inner.Mirrors looks outer := by
  induction reached with
  | here =>
      exact ⟨Config.idle state, Reaches.here, rfl, Mirrored.nil, rfl, fun _ => Option.Rel.none⟩
  | next action _ meets acted inductionHypothesis =>
      rcases inductionHypothesis with ⟨inner, reached, mirrors⟩
      exact mirrors.moves tracks reached (Config.act_moves meets acted)

/-- A run without conditions on its commands. -/
theorem reaches_mirrored {service' : Service (M.outward T underlying Choice answer)}
    {start : Config (M.outward T underlying Choice answer)}
    (reached : Reaches service' anyCommand start outer) :
    Reaches service' ((anyCommand : Condition M).mirrored looks) start outer := by
  induction reached with
  | here => exact Reaches.here
  | next action _ meets acted inductionHypothesis =>
      refine inductionHypothesis.next action ?_ acted
      cases action with
      | step ticket draw =>
          intro flight command rest waiting
          cases command with
          | inl command => exact fun _ _ _ _ _ => True.intro
          | inr command => exact True.intro
      | _ => exact True.intro

/-! ## Programs that are followed -/

/-- An embedded program is followed by the program itself. -/
theorem tracks_bind {α : Type} {settled : Bool} {program : Program S α}
    {next : α -> Program S Unit} {next' : α -> Program (S.beside T) Unit}
    (later : forall value, Tracks looks settled (next value) (next' value)) :
    Tracks looks settled (program >>= next)
      (program.embed (Signature.inner S T) >>= next') := by
  induction program with
  | done value => exact later value
  | call command rest inductionHypothesis =>
      exact Tracks.step fun reply => inductionHypothesis reply

/-- Once a request is settled, calls to the outside and looks may follow. -/
theorem tracks_omitted {α : Type} {program : Program (S.beside T) α}
    (only : program.Only looks.unheard) {next' : α -> Program (S.beside T) Unit}
    {inner : Program S Unit} (later : forall value, Tracks looks true inner (next' value)) :
    Tracks looks true inner (program >>= next') := by
  induction program with
  | done value => exact later value
  | call command rest inductionHypothesis =>
      rcases (Program.only_call _ _ _).mp only with ⟨first, others⟩
      cases command with
      | inl command =>
          exact Tracks.look first fun reply => inductionHypothesis reply (others reply)
      | inr command => exact Tracks.outside fun reply => inductionHypothesis reply (others reply)

end Runs

end Interaction
