import KrakenUi.Interaction.Interleaving

namespace Interaction

variable {S : Signature} {M : Semantics S}

/-!
# Contracts of programs

A program running among others cannot rely on the shared state between two
of its commands.  What it can rely on is its own journal: the replies it has
received, and the data it holds.  A contract says which commands a request may
issue with a given journal, and `Keeps` states that a program stays within the
contract and ends in a postcondition, whatever the replies are.

The judgement follows the program tree.  A command must be permitted and every
possible reply must lead to a program that keeps the contract; a sequence is
treated by `bind`.  Nothing is assumed about the worlds in between, which is
what makes a contract sound for every interleaving.
-/

/-- Which commands a request may issue, and how it may end. -/
structure Contract (M : Semantics S) where
  Permitted : InFlight M -> S.Command -> Prop
  Settled : InFlight M -> Prop

/-- The program only issues permitted commands and ends in the postcondition. -/
def Keeps (contract : Contract M) {α : Type} :
    Program S α -> InFlight M -> (α -> InFlight M -> Prop) -> Prop
  | .done value, flight, post => post value flight
  | .call command rest, flight, post =>
      contract.Permitted flight command ∧
        forall world draw reply after held,
          M.perform world.state flight.held command draw = some (reply, after, held) ->
            Keeps contract (rest reply) (flight.advance world command reply after held) post

namespace Keeps

variable {contract : Contract M} {α β : Type} {flight : InFlight M}

@[simp] theorem done_iff {value : α} {post : α -> InFlight M -> Prop} :
    Keeps contract (.done value) flight post ↔ post value flight := Iff.rfl

theorem call_iff {command : S.Command} {rest : S.Reply command -> Program S α}
    {post : α -> InFlight M -> Prop} :
    Keeps contract (.call command rest) flight post ↔
      contract.Permitted flight command ∧
        forall world draw reply after held,
          M.perform world.state flight.held command draw = some (reply, after, held) ->
            Keeps contract (rest reply) (flight.advance world command reply after held) post :=
  Iff.rfl

theorem mono {program : Program S α} {post weaker : α -> InFlight M -> Prop}
    (keeps : Keeps contract program flight post)
    (implies : forall value flight, post value flight -> weaker value flight) :
    Keeps contract program flight weaker := by
  induction program generalizing flight with
  | done value => exact implies value flight keeps
  | call command rest inductionHypothesis =>
      exact ⟨keeps.1, fun world draw reply after held performed =>
        inductionHypothesis reply (keeps.2 world draw reply after held performed)⟩

/-- A sequence keeps the contract when its first part ends where its second
part may begin. -/
theorem bind {program : Program S α} {next : α -> Program S β}
    {middle : α -> InFlight M -> Prop} {post : β -> InFlight M -> Prop}
    (first : Keeps contract program flight middle)
    (second : forall value flight, middle value flight -> Keeps contract (next value) flight post) :
    Keeps contract (program >>= next) flight post := by
  induction program generalizing flight with
  | done value => exact second value flight first
  | call command rest inductionHypothesis =>
      exact ⟨first.1, fun world draw reply after held performed =>
        inductionHypothesis reply (first.2 world draw reply after held performed)⟩

end Keeps

/-- No entry has a command of this kind. -/
def Without (kind : S.Command -> Bool) (items : List (Entry M)) : Prop :=
  forall item, item ∈ items -> kind item.seen.command = false

namespace Without

variable {kind other : S.Command -> Bool} {items more : List (Entry M)}

@[simp] theorem nil : Without kind ([] : List (Entry M)) :=
  fun _ member => absurd member List.not_mem_nil

@[simp] theorem cons_iff {item : Entry M} :
    Without kind (item :: items) ↔ kind item.seen.command = false ∧ Without kind items := by
  simp [Without]

@[simp] theorem append_iff :
    Without kind (more ++ items) ↔ Without kind more ∧ Without kind items := by
  constructor
  · intro absent
    exact ⟨fun item member => absent item (List.mem_append_left _ member),
      fun item member => absent item (List.mem_append_right _ member)⟩
  · rintro ⟨newer, older⟩ item member
    rcases List.mem_append.mp member with recent | old
    · exact newer item recent
    · exact older item old

theorem narrow (absent : Without kind items)
    (narrower : forall command, kind command = false -> other command = false) :
    Without other items :=
  fun item member => narrower _ (absent item member)

end Without

/-- Some entry has this command and this reply. -/
def Saw (items : List (Entry M)) (command : S.Command) (reply : S.Reply command) : Prop :=
  Exists fun item => item ∈ items ∧ item.seen = ⟨command, reply⟩

theorem Saw.mono {items more : List (Entry M)} {command : S.Command} {reply : S.Reply command}
    (saw : Saw items command reply) (subset : items ⊆ more) : Saw more command reply := by
  rcases saw with ⟨item, member, seen⟩
  exact ⟨item, subset member, seen⟩

theorem saw_of_transcript {flight : InFlight M} {command : S.Command} {reply : S.Reply command}
    (member : (⟨command, reply⟩ : Observation S) ∈ flight.transcript) :
    Saw flight.own command reply := by
  rcases List.mem_map.mp member with ⟨item, found, seen⟩
  exact ⟨item, List.mem_reverse.mp found, seen⟩

/-- The last observation of a transcript is the newest entry of the journal. -/
theorem InFlight.newest_of_transcript {flight : InFlight M} {earlier : List (Observation S)}
    {last : Observation S} (ended : flight.transcript = earlier ++ [last]) :
    Exists fun newest => Exists fun older => flight.own = newest :: older ∧ newest.seen = last := by
  unfold InFlight.transcript at ended
  cases own : flight.own with
  | nil =>
      rw [own] at ended
      exact absurd ended.symm (List.append_ne_nil_of_right_ne_nil _ (List.cons_ne_nil _ _))
  | cons newest older =>
      rw [own, List.reverse_cons, List.map_append] at ended
      exact ⟨newest, older, rfl, List.head_eq_of_cons_eq (List.append_inj_right' ended rfl)⟩

/-- `after` is the request once it has performed the command. -/
def InFlight.Follows (flight after : InFlight M) (command : S.Command)
    (reply : S.Reply command) : Prop :=
  Exists fun world => Exists fun draw => Exists fun state => Exists fun held =>
    M.perform world.state flight.held command draw = some (reply, state, held) ∧
      after = flight.advance world command reply state held

namespace InFlight.Follows

variable {flight after : InFlight M} {command : S.Command} {reply : S.Reply command}

theorem request (follows : flight.Follows after command reply) : after.request = flight.request := by
  rcases follows with ⟨world, draw, state, held, -, rfl⟩
  rfl

/-- The command stands at the head of the journal of the request. -/
theorem own (follows : flight.Follows after command reply) :
    Exists fun entry : Entry M => after.own = entry :: flight.own ∧
      entry.seen = ⟨command, reply⟩ ∧ entry.held = flight.held := by
  rcases follows with ⟨world, draw, state, held, -, rfl⟩
  exact ⟨flight.entry world command reply state, rfl, rfl, rfl⟩

theorem saw (follows : flight.Follows after command reply) : Saw after.own command reply := by
  rcases follows.own with ⟨entry, own, seen, -⟩
  exact ⟨entry, by rw [own]; exact List.mem_cons_self, seen⟩

theorem subset (follows : flight.Follows after command reply) : flight.own ⊆ after.own := by
  rcases follows.own with ⟨entry, own, -⟩
  rw [own]
  exact List.subset_cons_self _ _

theorem without {kind : S.Command -> Bool} (follows : flight.Follows after command reply)
    (other : kind command = false) (before : Without kind flight.own) : Without kind after.own := by
  rcases follows.own with ⟨entry, own, seen, -⟩
  rw [own, Without.cons_iff, seen]
  exact ⟨other, before⟩

theorem performed (follows : flight.Follows after command reply) :
    Exists fun before => Exists fun draw => Exists fun state =>
      M.perform before flight.held command draw = some (reply, state, after.held) := by
  rcases follows with ⟨world, draw, state, held, performed, rfl⟩
  exact ⟨world.state, draw, state, performed⟩

end InFlight.Follows

/-- The rule for a command: what comes next only has to be right for a request
that has this reply in its journal. -/
theorem Keeps.call {contract : Contract M} {α : Type} {flight : InFlight M} {command : S.Command}
    {rest : S.Reply command -> Program S α} {post : α -> InFlight M -> Prop}
    (permitted : contract.Permitted flight command)
    (next : forall reply after, flight.Follows after command reply ->
      Keeps contract (rest reply) after post) :
    Keeps contract (.call command rest) flight post :=
  ⟨permitted, fun world draw reply state held performed =>
    next reply _ ⟨world, draw, state, held, performed, rfl⟩⟩

/-- The rule for a command in front of a program. -/
theorem Keeps.perform {contract : Contract M} {α : Type} {flight : InFlight M}
    {command : S.Command} {rest : S.Reply command -> Program S α} {post : α -> InFlight M -> Prop}
    (permitted : contract.Permitted flight command)
    (next : forall reply after, flight.Follows after command reply ->
      Keeps contract (rest reply) after post) :
    Keeps contract (Program.perform command >>= rest) flight post :=
  Keeps.call permitted next

theorem Keeps.pure {contract : Contract M} {α : Type} {flight : InFlight M} {value : α}
    {post : α -> InFlight M -> Prop} (holds : post value flight) :
    Keeps contract (Pure.pure value) flight post := holds

-- From here on a program is taken apart by the rules, never by computing it.
attribute [irreducible] Keeps

/-- A program made of commands that are always permitted keeps the contract,
and what each of its commands does to the request, the whole program does. -/
theorem Keeps.only {contract : Contract M} {α : Type} {allowed : S.Command -> Prop}
    (relation : InFlight M -> InFlight M -> Prop)
    (refl : forall flight, relation flight flight)
    (trans : forall {first second third}, relation first second -> relation second third ->
      relation first third)
    (permitted : forall flight command, allowed command -> contract.Permitted flight command)
    (step : forall {flight after command reply}, allowed command ->
      flight.Follows after command reply -> relation flight after)
    {program : Program S α} (only : program.Only allowed) (flight : InFlight M) :
    Keeps contract program flight (fun _ after => relation flight after) := by
  induction program generalizing flight with
  | done value => exact Keeps.done_iff.mpr (refl flight)
  | call command rest inductionHypothesis =>
      rcases (Program.only_call allowed command rest).mp only with ⟨first, later⟩
      refine Keeps.call (permitted flight command first) ?_
      intro reply after follows
      refine (inductionHypothesis reply (later reply) after).mono ?_
      intro _ last related
      exact trans (step first follows) related

section Guarding

variable {κ : Type} {key : S.Command -> Option κ} {evidence : InFlight M -> κ -> Prop}

/-- The contract that asks for evidence in front of every command of one kind. -/
def Contract.guarding (key : S.Command -> Option κ) (evidence : InFlight M -> κ -> Prop) :
    Contract M where
  Permitted := fun flight command => forall named, key command = some named -> evidence flight named
  Settled := fun _ => True

theorem Contract.guarding_plain {command : S.Command} (plain : key command = none)
    (flight : InFlight M) : (Contract.guarding key evidence).Permitted flight command := by
  intro named guarded
  rw [plain] at guarded
  cases guarded

theorem Keeps.plain {α : Type} {program : Program S α}
    (only : program.Only fun command => key command = none) (flight : InFlight M) :
    Keeps (Contract.guarding key evidence) program flight (fun _ _ => True) := by
  apply Keeps.only (fun _ _ => True) (fun _ => True.intro) (fun _ _ => True.intro) _ _ only flight
  · intro flight command plain
    exact Contract.guarding_plain plain flight
  · intros
    exact True.intro

end Guarding

/-- The entries a program adds are the transcript of a complete run of it. -/
theorem Keeps.returns {contract : Contract M} {α : Type} {program : Program S α}
    {flight : InFlight M} {post : α -> InFlight M -> Prop}
    (keeps : Keeps contract program flight post) :
    Keeps contract program flight (fun value after => post value after ∧
      Exists fun segment => after.own = segment ++ flight.own ∧
        program.Returns (segment.reverse.map Entry.seen) value) := by
  induction program generalizing flight with
  | done value =>
      exact Keeps.done_iff.mpr ⟨Keeps.done_iff.mp keeps, [], rfl,
        (Program.returns_done _ _ _).mpr ⟨rfl, rfl⟩⟩
  | call command rest inductionHypothesis =>
      rcases Keeps.call_iff.mp keeps with ⟨permitted, later⟩
      refine Keeps.call_iff.mpr ⟨permitted, ?_⟩
      intro world draw reply after held performed
      refine (inductionHypothesis reply (later world draw reply after held performed)).mono ?_
      rintro value last ⟨holds, segment, own, returned⟩
      refine ⟨holds, segment ++ [flight.entry world command reply after], ?_, ?_⟩
      · rw [own, List.append_assoc]
        rfl
      · rw [List.reverse_append]
        exact (Program.returns_call _ _ _ _).mpr ⟨reply, _, rfl, returned⟩

/-- Both contracts at once. -/
def Contract.and (first second : Contract M) : Contract M where
  Permitted := fun flight command =>
    first.Permitted flight command ∧ second.Permitted flight command
  Settled := fun flight => first.Settled flight ∧ second.Settled flight

/-- What two contracts say of one program. -/
theorem Keeps.and {first second : Contract M} {α : Type} {program : Program S α}
    {flight : InFlight M} {post post' : α -> InFlight M -> Prop}
    (one : Keeps first program flight post) (two : Keeps second program flight post') :
    Keeps (first.and second) program flight
      (fun value after => post value after ∧ post' value after) := by
  induction program generalizing flight with
  | done value => exact Keeps.done_iff.mpr ⟨Keeps.done_iff.mp one, Keeps.done_iff.mp two⟩
  | call command rest inductionHypothesis =>
      rcases Keeps.call_iff.mp one with ⟨permitted, later⟩
      rcases Keeps.call_iff.mp two with ⟨permitted', later'⟩
      refine Keeps.call_iff.mpr ⟨⟨permitted, permitted'⟩, ?_⟩
      intro world draw reply after held performed
      exact inductionHypothesis reply (later world draw reply after held performed)
        (later' world draw reply after held performed)

/-- A contract that permits more is kept as well. -/
theorem Keeps.weaken {first second : Contract M} {α : Type} {program : Program S α}
    {flight : InFlight M} {post : α -> InFlight M -> Prop}
    (keeps : Keeps first program flight post)
    (weaker : forall flight command, first.Permitted flight command ->
      second.Permitted flight command) : Keeps second program flight post := by
  induction program generalizing flight with
  | done value => exact Keeps.done_iff.mpr (Keeps.done_iff.mp keeps)
  | call command rest inductionHypothesis =>
      rcases Keeps.call_iff.mp keeps with ⟨permitted, later⟩
      refine Keeps.call_iff.mpr ⟨weaker flight command permitted, ?_⟩
      intro world draw reply after held performed
      exact inductionHypothesis reply (later world draw reply after held performed)

/-- What is shown of a program under one contract can be used under another one. -/
theorem Keeps.recall {first second : Contract M} {α : Type} {program : Program S α}
    {flight : InFlight M} {post post' : α -> InFlight M -> Prop}
    (one : Keeps first program flight post) (two : Keeps second program flight post') :
    Keeps second program flight (fun value after => post value after ∧ post' value after) :=
  (one.and two).weaken fun _ _ both => both.2

/-- A request to which everything is permitted. -/
theorem Keeps.unchecked {contract : Contract M} {α : Type} (program : Program S α)
    {flight : InFlight M}
    (permitted : forall after : InFlight M, after.request = flight.request ->
      forall command, contract.Permitted after command) :
    Keeps contract program flight (fun _ _ => True) := by
  induction program generalizing flight with
  | done value => exact Keeps.done_iff.mpr True.intro
  | call command rest inductionHypothesis =>
      apply Keeps.call (permitted flight rfl command)
      intro reply after follows
      apply inductionHypothesis
      intro last same
      exact permitted last (same.trans follows.request)

/-- Every request of a service is answered within the contract. -/
def Obeys (contract : Contract M) (service : Service M) : Prop :=
  forall world ticket request,
    Keeps contract (service request) (World.accept world ticket request).2
      (fun _ flight => contract.Settled flight)

theorem Obeys.and {first second : Contract M} {service : Service M} (one : Obeys first service)
    (two : Obeys second service) : Obeys (first.and second) service :=
  fun world ticket request => (one world ticket request).and (two world ticket request)

/-- The contract that only looks at the request. -/
def Contract.requested (allowed : M.Request -> S.Command -> Prop) : Contract M where
  Permitted := fun flight command => allowed flight.request command
  Settled := fun _ => True

theorem Keeps.requested {allowed : M.Request -> S.Command -> Prop} {α : Type}
    {program : Program S α} {flight : InFlight M} (only : program.Only (allowed flight.request)) :
    Keeps (Contract.requested allowed) program flight (fun _ _ => True) := by
  induction program generalizing flight with
  | done value => exact Keeps.done_iff.mpr True.intro
  | call command rest inductionHypothesis =>
      rcases (Program.only_call _ command rest).mp only with ⟨first, later⟩
      apply Keeps.call first
      intro reply after follows
      apply inductionHypothesis
      rw [follows.request]
      exact later reply

theorem obeys_requested {allowed : M.Request -> S.Command -> Prop} {service : Service M}
    (only : forall request, (service request).Only (allowed request)) :
    Obeys (Contract.requested allowed) service :=
  fun _ _ request => (Keeps.requested (only request)).mono fun _ _ _ => True.intro

/-!
## Invariants under a contract

An invariant has one part about the world and one part about each request.
Its proof obligations are about single commands.  A command is performed by a
request that satisfies its part and is permitted to issue it, and it has to
keep the world's part, its own part and the part of every other request.
-/

/-- The two parts of an invariant. -/
structure Invariant (M : Semantics S) where
  Sound : World M -> Prop
  Fits : World M -> InFlight M -> Prop

namespace Invariant

/-- Both invariants at once. -/
def and (first second : Invariant M) : Invariant M where
  Sound := fun world => first.Sound world ∧ second.Sound world
  Fits := fun world flight => first.Fits world flight ∧ second.Fits world flight

/-- The invariant that says nothing. -/
def trivial : Invariant M where
  Sound := fun _ => True
  Fits := fun _ _ => True

/-- The invariant holds of the world and of every request in progress. -/
def Holds (invariant : Invariant M) (config : Config M) : Prop :=
  invariant.Sound config.world ∧
    forall ticket thread, config.threads ticket = some thread ->
      invariant.Fits config.world thread.flight

/-- The obligations of an invariant.  The invariant `given` may be used: it
holds before and after each action. -/
structure Kept (given invariant : Invariant M) (contract : Contract M)
    (allowed : Condition M) : Prop where
  accept : forall world ticket request, given.Sound world -> invariant.Sound world ->
    invariant.Sound (world.accept ticket request).1 ∧
      invariant.Fits (world.accept ticket request).1 (world.accept ticket request).2 ∧
      forall other, given.Fits world other -> invariant.Fits world other ->
        invariant.Fits (world.accept ticket request).1 other
  execute : forall (world : World M) (flight : InFlight M) command draw reply after held,
    given.Sound world -> given.Fits world flight ->
    invariant.Sound world -> invariant.Fits world flight ->
    contract.Permitted flight command -> allowed world flight command ->
    M.perform world.state flight.held command draw = some (reply, after, held) ->
    given.Sound (world.record (flight.entry world command reply after)) ->
    given.Fits (world.record (flight.entry world command reply after))
      (flight.advance world command reply after held) ->
    invariant.Sound (world.record (flight.entry world command reply after)) ∧
      invariant.Fits (world.record (flight.entry world command reply after))
        (flight.advance world command reply after held) ∧
      forall other, given.Fits world other -> invariant.Fits world other ->
        invariant.Fits (world.record (flight.entry world command reply after)) other
  close : forall (world : World M) (flight : InFlight M) draw after place,
    given.Sound world -> given.Fits world flight ->
    invariant.Sound world -> invariant.Fits world flight -> contract.Settled flight ->
    M.close world.state flight.held draw = some (after, place) ->
    given.Sound
      { world with state := after, lineage := world.inscribe place flight.history } ->
    invariant.Sound
        { world with state := after, lineage := world.inscribe place flight.history } ∧
      forall other, given.Fits world other -> invariant.Fits world other ->
        invariant.Fits
          { world with state := after, lineage := world.inscribe place flight.history } other
  happen : forall (world : World M) event after,
    given.Sound world -> invariant.Sound world ->
    M.happen world.state event = some after ->
    given.Sound { world with state := after } ->
    invariant.Sound { world with state := after } ∧
      forall other, given.Fits world other -> invariant.Fits world other ->
        invariant.Fits { world with state := after } other

/-- Each request in progress still keeps the contract. -/
def Bound (contract : Contract M) (config : Config M) : Prop :=
  forall ticket thread, config.threads ticket = some thread ->
    Keeps contract thread.program thread.flight (fun _ flight => contract.Settled flight)

variable {given invariant : Invariant M} {contract : Contract M} {allowed : Condition M}
  {service : Service M} {config after : Config M}

theorem bound_moves (obeys : Obeys contract service) (bound : Bound contract config)
    (moves : Moves service allowed config after) : Bound contract after := by
  cases moves with
  | accept request =>
      intro other thread found
      rcases setThread_cases found with ⟨-, started⟩ | ⟨-, old⟩
      · cases started
        exact obeys config.world config.next request
      · exact bound other thread old
  | step waiting meets executed =>
      intro other thread found
      rcases World.execute_some executed with ⟨state, held, performed, rfl, rfl⟩
      rcases setThread_cases found with ⟨-, stepped⟩ | ⟨-, old⟩
      · cases stepped
        exact (Keeps.call_iff.mp (bound _ _ waiting)).2 config.world _ _ state held performed
      · exact bound other thread old
  | close waiting closed =>
      intro other thread found
      rcases setThread_cases found with ⟨-, gone⟩ | ⟨-, old⟩
      · cases gone
      · exact bound other thread old
  | drop ticket =>
      intro other thread found
      rcases setThread_cases found with ⟨-, gone⟩ | ⟨-, old⟩
      · cases gone
      · exact bound other thread old
  | happen happened => exact bound

/-- One action keeps an invariant whose obligations are met. -/
theorem Kept.moves (kept : Kept given invariant contract allowed)
    (bound : Bound contract config) (before : given.Holds config)
    (holds : invariant.Holds config) (afterwards : given.Holds after)
    (moves : Moves service allowed config after) : invariant.Holds after := by
  rcases before with ⟨givenSound, givenFits⟩
  rcases holds with ⟨sound, fits⟩
  cases moves with
  | accept request =>
      rcases kept.accept config.world config.next request givenSound sound with
          ⟨sound', fits', others⟩
      refine ⟨sound', ?_⟩
      intro other thread found
      rcases setThread_cases found with ⟨-, started⟩ | ⟨-, old⟩
      · cases started
        exact fits'
      · exact others _ (givenFits other thread old) (fits other thread old)
  | step waiting meets executed =>
      rcases World.execute_some executed with ⟨state, held, performed, rfl, rfl⟩
      have mine := afterwards.2 _ _ (show setThread config.threads _ _ _ = some _ by
        rw [setThread, if_pos rfl])
      rcases kept.execute config.world _ _ _ _ state held givenSound (givenFits _ _ waiting) sound
          (fits _ _ waiting) (Keeps.call_iff.mp (bound _ _ waiting)).1 meets performed afterwards.1
          mine with ⟨sound', fits', others⟩
      refine ⟨sound', ?_⟩
      intro other thread found
      rcases setThread_cases found with ⟨-, stepped⟩ | ⟨-, old⟩
      · cases stepped
        exact fits'
      · exact others _ (givenFits other thread old) (fits other thread old)
  | close waiting closed =>
      rcases World.close_some closed with ⟨state, place, finished, rfl⟩
      have settled := bound _ _ waiting
      simp only [Keeps.done_iff] at settled
      rcases kept.close config.world _ _ state place givenSound (givenFits _ _ waiting) sound
          (fits _ _ waiting) settled finished afterwards.1 with ⟨sound', others⟩
      refine ⟨sound', ?_⟩
      intro other thread found
      rcases setThread_cases found with ⟨-, gone⟩ | ⟨-, old⟩
      · cases gone
      · exact others _ (givenFits other thread old) (fits other thread old)
  | drop ticket =>
      refine ⟨sound, ?_⟩
      intro other thread found
      rcases setThread_cases found with ⟨-, gone⟩ | ⟨-, old⟩
      · cases gone
      · exact fits other thread old
  | happen happened =>
      rcases World.happen_some happened with ⟨state, passed, rfl⟩
      rcases kept.happen config.world _ state givenSound sound passed afterwards.1 with
          ⟨sound', others⟩
      refine ⟨sound', ?_⟩
      intro other thread found
      exact others _ (givenFits other thread found) (fits other thread found)

/-- An invariant that every run of the service keeps. -/
def Lasting (invariant : Invariant M) (service : Service M) (allowed : Condition M)
    (start : Config M) : Prop :=
  forall config, Reaches service allowed start config -> invariant.Holds config

theorem bound_reaches (obeys : Obeys contract service) {start : Config M}
    (idle : forall ticket, start.threads ticket = none)
    (reached : Reaches service allowed start config) : Bound contract config := by
  have initial : Bound contract start := by
    intro ticket thread found
    rw [idle ticket] at found
    cases found
  have moves : forall before after, Bound contract before ->
      Moves service allowed before after -> Bound contract after := by
    intro before after bound moves
    exact bound_moves obeys bound moves
  exact reached.keep initial moves

/-- An invariant that has come to hold in the middle of a run stays. -/
theorem Kept.onward (kept : Kept given invariant contract allowed)
    (obeys : Obeys contract service) {start middle : Config M}
    (idle : forall ticket, start.threads ticket = none)
    (before : given.Lasting service allowed start)
    (reached : Reaches service allowed start middle) (holds : invariant.Holds middle) :
    invariant.Lasting service allowed middle := by
  intro config later
  induction later with
  | here => exact holds
  | next action later meets acted inductionHypothesis =>
      have sofar := reached.trans later
      exact kept.moves (bound_reaches obeys idle sofar) (before _ sofar) inductionHypothesis
        (before _ (sofar.next action meets acted)) (Config.act_moves meets acted)

/-- Obligations about single commands give an invariant of all runs. -/
theorem Kept.lasting (kept : Kept given invariant contract allowed)
    (obeys : Obeys contract service) {start : Config M}
    (idle : forall ticket, start.threads ticket = none)
    (before : given.Lasting service allowed start) (initial : invariant.Sound start.world) :
    invariant.Lasting service allowed start := by
  refine kept.onward obeys idle before Reaches.here ⟨initial, ?_⟩
  intro ticket thread found
  rw [idle ticket] at found
  cases found

theorem Lasting.and {first second : Invariant M} {start : Config M}
    (one : first.Lasting service allowed start) (two : second.Lasting service allowed start) :
    (first.and second).Lasting service allowed start := by
  intro config reached
  rcases one config reached with ⟨sound, fits⟩
  rcases two config reached with ⟨sound', fits'⟩
  exact ⟨⟨sound, sound'⟩, fun ticket thread found =>
    ⟨fits ticket thread found, fits' ticket thread found⟩⟩

theorem lasting_trivial {start : Config M} :
    (trivial : Invariant M).Lasting service allowed start := by
  intro config reached
  exact ⟨True.intro, fun _ _ _ => True.intro⟩

end Invariant
end Interaction
