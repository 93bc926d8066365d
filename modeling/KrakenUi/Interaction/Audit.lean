import KrakenUi.Interaction.Contract

namespace Interaction

variable {S : Signature} {M : Semantics S}

/-!
# The log as the journal of every request

The log of the world and the journal of a request are written at the same time, so
the journal of a request is the part of the log that carries its ticket.  Together
with a contract this turns the log into an audit: in front of every entry stands,
among the older entries of its own request, what the contract asks for.

The log also says how a request has gone on, whether it is still there or not.  Where
some commands are the last ones of a program, an entry with such a command tells what
its program has returned.
-/

/-! ## Last commands -/

namespace Program

variable {α β : Type} {plain : S.Command -> Prop} {value : Observation S -> α}

/-- Behind a command that is not plain the program ends, with a value that the reply
determines. -/
def Ends (plain : S.Command -> Prop) (value : Observation S -> α) : Program S α -> Prop
  | done _ => True
  | call command next =>
      (¬ plain command -> forall reply, next reply = done (value ⟨command, reply⟩)) ∧
        forall reply, (next reply).Ends plain value

theorem Ends.of_only {program : Program S α} (only : program.Only plain) :
    program.Ends plain value := by
  induction program with
  | done result => exact True.intro
  | call command next inductionHypothesis =>
      rcases (only_call _ _ _).mp only with ⟨first, later⟩
      exact ⟨fun last => absurd first last, fun reply => inductionHypothesis reply (later reply)⟩

/-- The rule for a last command. -/
theorem Ends.perform_bind {command : S.Command} {next : S.Reply command -> Program S α}
    (ended : forall reply, next reply = done (value ⟨command, reply⟩)) :
    (perform command >>= next).Ends plain value := by
  refine ⟨fun _ => ended, ?_⟩
  intro reply
  change (next reply).Ends plain value
  rw [ended]
  exact True.intro

theorem Ends.bind {program : Program S β} (only : program.Only plain) {next : β -> Program S α}
    (ends : forall middle, (next middle).Ends plain value) :
    (program >>= next).Ends plain value := by
  induction program with
  | done result => exact ends result
  | call command rest inductionHypothesis =>
      rcases (only_call _ _ _).mp only with ⟨first, later⟩
      exact ⟨fun last => absurd first last, fun reply => inductionHypothesis reply (later reply)⟩

/-- A run with such a command is complete, and the command was its last one. -/
theorem Ends.returns {program : Program S α} (ends : program.Ends plain value)
    {earlier later : List (Observation S)} {seen : Observation S} {remaining : Program S α}
    (resumed : Resumes program (earlier ++ seen :: later) remaining)
    (last : ¬ plain seen.command) :
    later = [] ∧ program.Returns (earlier ++ seen :: later) (value seen) := by
  induction program generalizing earlier with
  | done result =>
      exact absurd (resumes_done.mp resumed).1
        (List.append_ne_nil_of_right_ne_nil _ (List.cons_ne_nil _ _))
  | call command next inductionHypothesis =>
      rcases resumes_call.mp resumed with ⟨none, -⟩ | ⟨reply, tail, whole, rest⟩
      · exact absurd none (List.append_ne_nil_of_right_ne_nil _ (List.cons_ne_nil _ _))
      cases earlier with
      | nil =>
          rcases List.cons.inj whole with ⟨rfl, rfl⟩
          have ended := ends.1 last reply
          rw [ended] at rest
          rcases resumes_done.mp rest with ⟨rfl, -⟩
          refine ⟨rfl, (returns_call _ _ _ _).mpr ⟨reply, [], rfl, ?_⟩⟩
          rw [ended]
          exact (returns_done _ _ _).mpr ⟨rfl, rfl⟩
      | cons first earlier =>
          rcases List.cons.inj whole with ⟨rfl, rfl⟩
          rcases inductionHypothesis reply (ends.2 reply) rest with ⟨none, returned⟩
          exact ⟨none, (returns_call _ _ _ _).mpr ⟨reply, _, rfl, returned⟩⟩

attribute [irreducible] Ends

end Program

/-! ## The journals in the log -/

/-- What the request with this ticket has done, newest first. -/
def entriesOf (log : List (Entry M)) (ticket : Nat) : List (Entry M) :=
  log.filter fun entry => decide (entry.ticket = ticket)

theorem mem_entriesOf {log : List (Entry M)} {ticket : Nat} {entry : Entry M} :
    entry ∈ entriesOf log ticket ↔ entry ∈ log ∧ entry.ticket = ticket := by
  rw [entriesOf, List.mem_filter, decide_eq_true_eq]

theorem entriesOf_cons_same {log : List (Entry M)} {ticket : Nat} {entry : Entry M}
    (same : entry.ticket = ticket) :
    entriesOf (entry :: log) ticket = entry :: entriesOf log ticket :=
  List.filter_cons_of_pos (decide_eq_true same)

theorem entriesOf_cons_other {log : List (Entry M)} {ticket : Nat} {entry : Entry M}
    (other : entry.ticket ≠ ticket) : entriesOf (entry :: log) ticket = entriesOf log ticket :=
  List.filter_cons_of_neg (by rw [decide_eq_true_eq]; exact other)

/-- The commands and replies of a request, oldest first, as the log shows them. -/
def callOf (log : List (Entry M)) (ticket : Nat) : List (Observation S) :=
  (entriesOf log ticket).reverse.map Entry.seen

/-- What is last in a call is newest in the log. -/
theorem newest_of_callOf {log : List (Entry M)} {ticket : Nat} {earlier : List (Observation S)}
    {last : Observation S} (ended : callOf log ticket = earlier ++ [last]) :
    Exists fun newest => Exists fun older => entriesOf log ticket = newest :: older ∧
      newest.seen = last := by
  unfold callOf at ended
  cases journal : entriesOf log ticket with
  | nil =>
      rw [journal] at ended
      exact absurd ended.symm (List.append_ne_nil_of_right_ne_nil _ (List.cons_ne_nil _ _))
  | cons newest older =>
      rw [journal, List.reverse_cons, List.map_append] at ended
      exact ⟨newest, older, rfl, (List.singleton_inj.mp (List.append_inj' ended rfl).2)⟩

theorem callOf_split {log newer older : List (Entry M)} {item : Entry M} {ticket : Nat}
    (split : entriesOf log ticket = newer ++ item :: older) : callOf log ticket =
      older.reverse.map Entry.seen ++ item.seen :: newer.reverse.map Entry.seen := by
  unfold callOf
  rw [split, List.reverse_append, List.reverse_cons, List.append_assoc, List.map_append]
  rfl

/-- Tickets are given out in order, and every journal is a part of the log. -/
structure Config.Attributed (config : Config M) : Prop where
  issued : forall entry, entry ∈ config.world.log -> entry.ticket < config.next
  ticket : forall ticket thread, config.threads ticket = some thread ->
    ticket < config.next ∧ thread.flight.ticket = ticket
  own : forall ticket thread, config.threads ticket = some thread ->
    thread.flight.own = entriesOf config.world.log ticket

section Runs

variable {service : Service M} {allowed : Condition M} {start config after : Config M}

theorem Config.Attributed.moves (attributed : config.Attributed)
    (moves : Moves service allowed config after) : after.Attributed := by
  cases moves with
  | accept request =>
      refine ⟨?_, ?_, ?_⟩
      · intro entry member
        exact Nat.lt_succ_of_lt (attributed.issued entry member)
      · intro ticket thread found
        rcases setThread_cases found with ⟨rfl, started⟩ | ⟨-, old⟩
        · cases started
          exact ⟨Nat.lt_succ_self _, rfl⟩
        · rcases attributed.ticket ticket thread old with ⟨below, same⟩
          exact ⟨Nat.lt_succ_of_lt below, same⟩
      · intro ticket thread found
        rcases setThread_cases found with ⟨rfl, started⟩ | ⟨-, old⟩
        · cases started
          refine (List.filter_eq_nil_iff.mpr ?_).symm
          intro entry member
          rw [decide_eq_true_eq]
          exact Nat.ne_of_lt (attributed.issued entry member)
        · exact attributed.own ticket thread old
  | step waiting meets executed =>
      rcases World.execute_some executed with ⟨state, held, performed, rfl, rfl⟩
      rcases attributed.ticket _ _ waiting with ⟨below, same⟩
      refine ⟨?_, ?_, ?_⟩
      · intro entry member
        rcases List.mem_cons.mp member with rfl | old
        · exact same ▸ below
        · exact attributed.issued entry old
      · intro ticket thread found
        rcases setThread_cases found with ⟨rfl, stepped⟩ | ⟨-, old⟩
        · cases stepped
          exact ⟨below, same⟩
        · exact attributed.ticket ticket thread old
      · intro ticket thread found
        rcases setThread_cases found with ⟨rfl, stepped⟩ | ⟨different, old⟩
        · cases stepped
          exact (congrArg _ (attributed.own _ _ waiting)).trans (entriesOf_cons_same same).symm
        · refine (attributed.own ticket thread old).trans (entriesOf_cons_other ?_).symm
          intro equal
          exact different (equal.symm.trans same)
  | close waiting closed =>
      rcases World.close_some closed with ⟨state, place, finished, rfl⟩
      refine ⟨attributed.issued, ?_, ?_⟩
      · intro ticket thread found
        rcases setThread_cases found with ⟨-, gone⟩ | ⟨-, old⟩
        · cases gone
        · exact attributed.ticket ticket thread old
      · intro ticket thread found
        rcases setThread_cases found with ⟨-, gone⟩ | ⟨-, old⟩
        · cases gone
        · exact attributed.own ticket thread old
  | drop ticket =>
      refine ⟨attributed.issued, ?_, ?_⟩
      · intro ticket thread found
        rcases setThread_cases found with ⟨-, gone⟩ | ⟨-, old⟩
        · cases gone
        · exact attributed.ticket ticket thread old
      · intro ticket thread found
        rcases setThread_cases found with ⟨-, gone⟩ | ⟨-, old⟩
        · cases gone
        · exact attributed.own ticket thread old
  | happen happened =>
      rcases World.happen_some happened with ⟨state, passed, rfl⟩
      exact ⟨attributed.issued, attributed.ticket, attributed.own⟩

theorem attributed_idle (state : M.State) : (Config.idle state).Attributed where
  issued := fun _ member => absurd member List.not_mem_nil
  ticket := fun _ _ found => by cases found
  own := fun _ _ found => by cases found

theorem attributed_reaches {state : M.State}
    (reached : Reaches service allowed (Config.idle state) config) : config.Attributed :=
  reached.keep (attributed_idle state) fun _ _ attributed moves => attributed.moves moves

/-- The entries of a request carry the request. -/
theorem requests_reaches {state : M.State}
    (reached : Reaches service allowed (Config.idle state) config) {ticket : Nat}
    {thread : Thread M} (running : config.threads ticket = some thread) :
    forall entry, entry ∈ thread.flight.own -> entry.request = thread.flight.request := by
  induction reached generalizing ticket thread with
  | here => cases running
  | next action _ meets acted inductionHypothesis =>
      cases Config.act_moves meets acted with
      | accept request =>
          rcases setThread_cases running with ⟨-, started⟩ | ⟨-, old⟩
          · cases started
            exact fun _ member => absurd member List.not_mem_nil
          · exact inductionHypothesis old
      | step waiting meets executed =>
          rcases setThread_cases running with ⟨-, stepped⟩ | ⟨-, old⟩
          · cases stepped
            rcases World.execute_some executed with ⟨state, held, performed, rfl, rfl⟩
            intro entry member
            rcases List.mem_cons.mp member with rfl | earlier
            · rfl
            · exact inductionHypothesis waiting entry earlier
          · exact inductionHypothesis old
      | close waiting closed =>
          rcases setThread_cases running with ⟨-, gone⟩ | ⟨-, old⟩
          · cases gone
          · exact inductionHypothesis old
      | drop ticket =>
          rcases setThread_cases running with ⟨-, gone⟩ | ⟨-, old⟩
          · cases gone
          · exact inductionHypothesis old
      | happen happened => exact inductionHypothesis running

/-- The entries of one ticket are those of one request. -/
theorem request_of_ticket {state : M.State}
    (reached : Reaches service allowed (Config.idle state) config) {first second : Entry M}
    (firstMember : first ∈ config.world.log) (secondMember : second ∈ config.world.log)
    (same : first.ticket = second.ticket) : first.request = second.request := by
  induction reached generalizing first second with
  | here => exact absurd firstMember List.not_mem_nil
  | @next before after action reached meets acted inductionHypothesis =>
      cases Config.act_moves meets acted with
      | accept request => exact inductionHypothesis firstMember secondMember same
      | close waiting closed =>
          rcases World.close_some closed with ⟨state, place, finished, rfl⟩
          exact inductionHypothesis firstMember secondMember same
      | drop ticket => exact inductionHypothesis firstMember secondMember same
      | happen happened =>
          rcases World.happen_some happened with ⟨state, passed, rfl⟩
          exact inductionHypothesis firstMember secondMember same
      | @step ticket draw flight command rest reply world' advanced waiting meets executed =>
          rcases World.execute_some executed with ⟨state, held, performed, rfl, rfl⟩
          have attributed := attributed_reaches reached
          have signed := (attributed.ticket _ _ waiting).2
          -- what the request has done before carries the request it is now
          have own : forall entry, entry ∈ before.world.log -> entry.ticket = ticket ->
              entry.request = flight.request := fun entry member signed =>
            requests_reaches reached waiting entry (by
              rw [attributed.own _ _ waiting]
              exact mem_entriesOf.mpr ⟨member, signed⟩)
          rcases List.mem_cons.mp firstMember with rfl | firstOld <;>
            rcases List.mem_cons.mp secondMember with rfl | secondOld
          · rfl
          · exact (own second secondOld (same.symm.trans signed)).symm
          · exact own first firstOld (same.trans signed)
          · exact inductionHypothesis firstOld secondOld same

/-- Whatever has become of a request, the log shows a part of its program's run. -/
theorem resumes_callOf {state : M.State}
    (reached : Reaches service allowed (Config.idle state) config) {item : Entry M}
    (member : item ∈ config.world.log) :
    Exists fun rest => Program.Resumes (service item.request)
      (callOf config.world.log item.ticket) rest := by
  induction reached with
  | here => exact absurd member List.not_mem_nil
  | @next before after action reached meets acted inductionHypothesis =>
      have arrived := reached.next action meets acted
      cases Config.act_moves meets acted with
      | accept request => exact inductionHypothesis member
      | close waiting closed =>
          rcases World.close_some closed with ⟨state, place, finished, rfl⟩
          exact inductionHypothesis member
      | drop ticket => exact inductionHypothesis member
      | happen happened =>
          rcases World.happen_some happened with ⟨state, passed, rfl⟩
          exact inductionHypothesis member
      | @step ticket draw flight command rest reply world' advanced waiting meets executed =>
          rcases World.execute_some executed with ⟨state, held, performed, rfl, rfl⟩
          have signed := ((attributed_reaches reached).ticket _ _ waiting).2
          change flight.ticket = ticket at signed
          by_cases own : item.ticket = ticket
          · -- the request that has just performed a command
            have running : setThread before.threads ticket
                (some ⟨flight.advance before.world command reply state held, rest reply⟩) ticket =
                  some ⟨flight.advance before.world command reply state held, rest reply⟩ :=
              if_pos rfl
            have journal := (attributed_reaches arrived).own ticket _ running
            have resumed := Config.resumed (fun _ => rfl) arrived running
            have same := requests_reaches arrived running item (by
              rw [journal]
              exact mem_entriesOf.mpr ⟨member, own⟩)
            rw [same, own]
            refine ⟨rest reply, ?_⟩
            unfold callOf
            rw [← journal]
            exact resumed
          · have old : item ∈ before.world.log := (List.mem_cons.mp member).resolve_left (by
              rintro rfl
              exact own signed)
            rcases inductionHypothesis old with ⟨remaining, resumed⟩
            refine ⟨remaining, ?_⟩
            have journal : entriesOf (flight.entry before.world command reply state ::
                before.world.log) item.ticket = entriesOf before.world.log item.ticket :=
              entriesOf_cons_other fun equal => own (equal.symm.trans signed)
            unfold callOf
            dsimp only [World.record]
            rw [journal]
            exact resumed

/-- An entry with a last command is the newest one of its request, and its program has
returned. -/
theorem last_of_ends {α : Type} {program : Program S α} {plain : S.Command -> Prop}
    {value : Observation S -> α} (ends : program.Ends plain value) {state : M.State}
    (reached : Reaches service allowed (Config.idle state) config) {item : Entry M}
    (member : item ∈ config.world.log) (last : ¬ plain item.seen.command)
    (runs : service item.request = program >>= fun _ => pure ()) :
    (Exists fun older => entriesOf config.world.log item.ticket = item :: older) ∧
      program.Returns (callOf config.world.log item.ticket) (value item.seen) := by
  rcases resumes_callOf reached member with ⟨remaining, resumed⟩
  rw [runs] at resumed
  rcases Program.resumes_discard resumed with ⟨rest, inside⟩
  rcases List.append_of_mem (mem_entriesOf.mpr ⟨member, rfl⟩) with ⟨newer, older, split⟩
  rw [callOf_split split] at inside ⊢
  rcases ends.returns inside last with ⟨none, returned⟩
  have newest : newer = [] := List.reverse_eq_nil_iff.mp (List.map_eq_nil_iff.mp none)
  rw [newest] at split
  exact ⟨⟨older, split⟩, returned⟩

/-- Every entry was permitted to its request, as the older part of the log shows it. -/
def Contract.Audited (contract : Contract M) (log : List (Entry M)) : Prop :=
  forall newer item older, log = newer ++ item :: older ->
    Exists fun flight : InFlight M => flight.own = entriesOf older item.ticket ∧
      flight.request = item.request ∧ flight.held = item.held ∧
      contract.Permitted flight item.seen.command

theorem Contract.Audited.moves {contract : Contract M} (audited : contract.Audited config.world.log)
    (attributed : config.Attributed) (bound : Invariant.Bound contract config)
    (moves : Moves service allowed config after) : contract.Audited after.world.log := by
  cases moves with
  | accept request => exact audited
  | close waiting closed =>
      rcases World.close_some closed with ⟨state, place, finished, rfl⟩
      exact audited
  | drop ticket => exact audited
  | happen happened =>
      rcases World.happen_some happened with ⟨state, passed, rfl⟩
      exact audited
  | step waiting meets executed =>
      rcases World.execute_some executed with ⟨state, held, performed, rfl, rfl⟩
      intro newer item older split
      change _ :: config.world.log = newer ++ item :: older at split
      cases newer with
      | nil =>
          rcases List.cons.inj split with ⟨rfl, rfl⟩
          refine ⟨_, ?_, rfl, rfl, (Keeps.call_iff.mp (bound _ _ waiting)).1⟩
          rw [attributed.own _ _ waiting]
          exact congrArg _ (attributed.ticket _ _ waiting).2.symm
      | cons newest newer =>
          exact audited newer item older (List.cons.inj split).2

/-- A service that keeps a contract leaves an audited log behind. -/
theorem Contract.audited_reaches {contract : Contract M} (obeys : Obeys contract service)
    {state : M.State} (reached : Reaches service allowed (Config.idle state) config) :
    contract.Audited config.world.log := by
  induction reached with
  | here =>
      intro newer item older split
      cases newer <;> cases split
  | next action reached meets acted inductionHypothesis =>
      exact inductionHypothesis.moves (attributed_reaches reached)
        (Invariant.bound_reaches obeys (fun _ => rfl) reached) (Config.act_moves meets acted)

end Runs
end Interaction
