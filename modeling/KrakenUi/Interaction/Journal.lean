import KrakenUi.Interaction.Contract

namespace Interaction

variable {S : Signature} {M : Semantics S}

/-!
# What the journal always satisfies

The journal is kept by the machine, so its basic properties need no contract.
Entries are numbered in the order in which they were performed, each of them
was produced by the semantics, and everything a request or a lineage mentions
stands in the log.

A semantics usually comes with a direction of time: a relation between states
that every change respects, such as a clock that does not run backwards or
identifiers that are never issued again.  `Growth` collects the obligations
for such a relation.  The journal then orders the states it has written down,
which turns a fact about two entries into a fact about the way from one to the
other.
-/

/-- A relation between earlier and later states that every change respects. -/
structure Growth (M : Semantics S) where
  Later : M.State -> M.State -> Prop
  refl : forall state, Later state state
  trans : forall {first second third}, Later first second -> Later second third ->
    Later first third
  accept : forall state request, Later state (M.accept state request).1
  perform : forall {state held command draw reply after held'},
    M.perform state held command draw = some (reply, after, held') -> Later state after
  close : forall {state held draw after place},
    M.close state held draw = some (after, place) -> Later state after
  happen : forall {state event after}, M.happen state event = some after -> Later state after

/-- The journal of the world. -/
structure World.Recorded (growth : Growth M) (world : World M) : Prop where
  counted : forall entry, entry ∈ world.log -> entry.moment < world.log.length
  ordered : world.log.Pairwise fun newer older => older.moment < newer.moment
  genuine : forall entry, entry ∈ world.log -> entry.Genuine
  opened : forall entry, entry ∈ world.log -> growth.Later entry.opened entry.before
  between : forall first second, first ∈ world.log -> second ∈ world.log ->
    first.moment < second.moment -> growth.Later first.after second.before
  current : forall entry, entry ∈ world.log -> growth.Later entry.after world.state
  lineage : forall place entry, entry ∈ world.lineage place -> entry ∈ world.log

/-- The journal of one request. -/
structure InFlight.Recorded (growth : Growth M) (world : World M) (flight : InFlight M) : Prop where
  opened : growth.Later flight.opened world.state
  own : forall entry, entry ∈ flight.own -> entry ∈ world.log
  inherited : forall entry, entry ∈ flight.inherited -> entry ∈ world.log
  signed : forall entry, entry ∈ flight.own ->
    entry.ticket = flight.ticket ∧ entry.request = flight.request ∧ entry.opened = flight.opened
  ordered : flight.own.Pairwise fun newer older => older.moment < newer.moment
  linked : Linked flight.own flight.held

namespace Growth

variable (growth : Growth M)

/-- The invariant that every run of every service keeps. -/
def journal : Invariant M where
  Sound := World.Recorded growth
  Fits := InFlight.Recorded growth

variable {growth}

theorem before_after {world : World M} (recorded : world.Recorded growth) {entry : Entry M}
    (member : entry ∈ world.log) : growth.Later entry.before entry.after := by
  rcases recorded.genuine entry member with ⟨held, draw, performed⟩
  exact growth.perform performed

/-- The state before an entry has grown into the present state. -/
theorem before_current {world : World M} (recorded : world.Recorded growth) {entry : Entry M}
    (member : entry ∈ world.log) : growth.Later entry.before world.state :=
  growth.trans (before_after recorded member) (recorded.current entry member)

/-- Of two entries, the one with the smaller moment saw the earlier state. -/
theorem before_before {world : World M} (recorded : world.Recorded growth)
    {first second : Entry M} (firstMember : first ∈ world.log) (secondMember : second ∈ world.log)
    (earlier : first.moment < second.moment) : growth.Later first.before second.before :=
  growth.trans (before_after recorded firstMember)
    (recorded.between first second firstMember secondMember earlier)

end Growth

namespace World.Recorded

variable {growth : Growth M} {world : World M}

/-- A moment names at most one entry of the log. -/
theorem unique (recorded : world.Recorded growth) {first second : Entry M}
    (firstMember : first ∈ world.log) (secondMember : second ∈ world.log)
    (same : first.moment = second.moment) : first = second := by
  have ordered := recorded.ordered
  generalize world.log = log at ordered firstMember secondMember
  induction log with
  | nil => cases firstMember
  | cons head tail inductionHypothesis =>
      rcases List.pairwise_cons.mp ordered with ⟨smaller, rest⟩
      rcases List.mem_cons.mp firstMember with rfl | firstTail <;>
        rcases List.mem_cons.mp secondMember with rfl | secondTail
      · rfl
      · have := smaller second secondTail
        omega
      · have := smaller first firstTail
        omega
      · exact inductionHypothesis rest firstTail secondTail

/-- Performing one more command keeps the journal in order. -/
theorem record (recorded : world.Recorded growth) (flight : InFlight M)
    (fits : flight.Recorded growth world) {command : S.Command} {draw : M.Draw}
    {reply : S.Reply command} {after : M.State} {held : M.Held}
    (performed : M.perform world.state flight.held command draw = some (reply, after, held)) :
    (world.record (flight.entry world command reply after)).Recorded growth := by
  have grown : growth.Later world.state after := growth.perform performed
  constructor
  · intro entry member
    rcases List.mem_cons.mp member with rfl | old
    · exact Nat.lt_succ_self world.log.length
    · exact Nat.lt_succ_of_lt (recorded.counted entry old)
  · exact List.pairwise_cons.mpr ⟨recorded.counted, recorded.ordered⟩
  · intro entry member
    rcases List.mem_cons.mp member with rfl | old
    · exact ⟨held, draw, performed⟩
    · exact recorded.genuine entry old
  · intro entry member
    rcases List.mem_cons.mp member with rfl | old
    · exact fits.opened
    · exact recorded.opened entry old
  · intro first second firstMember secondMember earlier
    rcases List.mem_cons.mp secondMember with rfl | secondOld
    · rcases List.mem_cons.mp firstMember with rfl | firstOld
      · exact absurd earlier (Nat.lt_irrefl _)
      · exact recorded.current first firstOld
    · rcases List.mem_cons.mp firstMember with rfl | firstOld
      · have bound := recorded.counted second secondOld
        exact absurd (Nat.lt_trans earlier bound) (Nat.lt_irrefl _)
      · exact recorded.between first second firstOld secondOld earlier
  · intro entry member
    rcases List.mem_cons.mp member with rfl | old
    · exact growth.refl after
    · exact growth.trans (recorded.current entry old) grown
  · intro place entry member
    exact List.mem_cons_of_mem _ (recorded.lineage place entry member)

end World.Recorded

namespace InFlight.Recorded

variable {growth : Growth M} {world : World M} {flight : InFlight M}

/-- Whatever the request can point at stands in the log. -/
theorem history (recorded : flight.Recorded growth world) {entry : Entry M}
    (member : entry ∈ flight.history) : entry ∈ world.log := by
  rcases List.mem_append.mp member with own | inherited
  · exact recorded.own entry own
  · exact recorded.inherited entry inherited

/-- A request that does nothing still fits a world that has moved on. -/
theorem mono (recorded : flight.Recorded growth world) {world' : World M}
    (grown : growth.Later world.state world'.state)
    (kept : forall entry, entry ∈ world.log -> entry ∈ world'.log) :
    flight.Recorded growth world' where
  opened := growth.trans recorded.opened grown
  own := fun entry member => kept entry (recorded.own entry member)
  inherited := fun entry member => kept entry (recorded.inherited entry member)
  signed := recorded.signed
  ordered := recorded.ordered
  linked := recorded.linked

/-- The request that performs a command writes it down under its own name. -/
theorem advance (recorded : flight.Recorded growth world) (sound : world.Recorded growth)
    {command : S.Command} {draw : M.Draw}
    {reply : S.Reply command} {after : M.State} {held : M.Held}
    (performed : M.perform world.state flight.held command draw = some (reply, after, held)) :
    (flight.advance world command reply after held).Recorded growth
      (world.record (flight.entry world command reply after)) where
  opened := growth.trans recorded.opened (growth.perform performed)
  own := by
    intro entry member
    rcases List.mem_cons.mp member with rfl | old
    · exact List.mem_cons_self
    · exact List.mem_cons_of_mem _ (recorded.own entry old)
  inherited := by
    intro entry member
    refine List.mem_cons_of_mem _ ?_
    simp only [InFlight.advance, InFlight.inheriting] at member
    split at member
    · exact sound.lineage _ entry member
    · exact recorded.inherited entry member
  signed := by
    intro entry member
    rcases List.mem_cons.mp member with rfl | old
    · exact ⟨rfl, rfl, rfl⟩
    · exact recorded.signed entry old
  ordered := by
    refine List.pairwise_cons.mpr ⟨?_, recorded.ordered⟩
    intro entry member
    exact sound.counted entry (recorded.own entry member)
  linked := ⟨⟨draw, performed⟩, recorded.linked⟩

end InFlight.Recorded

/-- The journal is kept whatever the requests do. -/
theorem Growth.journal_kept (growth : Growth M) (contract : Contract M) (allowed : Condition M) :
    Invariant.trivial.Kept growth.journal contract allowed where
  accept := by
    intro world ticket request _ sound
    have grown := growth.accept world.state request
    refine ⟨?_, ?_, ?_⟩
    · exact {
        counted := sound.counted
        ordered := sound.ordered
        genuine := sound.genuine
        opened := sound.opened
        between := sound.between
        current := fun entry member => growth.trans (sound.current entry member) grown
        lineage := sound.lineage }
    · exact {
        opened := growth.refl _
        own := fun entry member => absurd member (List.not_mem_nil)
        inherited := fun entry member => absurd member (List.not_mem_nil)
        signed := fun entry member => absurd member (List.not_mem_nil)
        ordered := List.Pairwise.nil
        linked := True.intro }
    · intro other _ fits
      exact fits.mono grown (fun _ member => member)
  execute := by
    intro world flight command draw reply after held _ _ sound fits _ _ performed _ _
    refine ⟨sound.record flight fits performed, fits.advance sound performed, ?_⟩
    intro other _ otherFits
    exact otherFits.mono (growth.perform performed) (fun _ member => List.mem_cons_of_mem _ member)
  close := by
    intro world flight draw after place _ _ sound fits _ closed _
    have grown := growth.close closed
    refine ⟨?_, ?_⟩
    · exact {
        counted := sound.counted
        ordered := sound.ordered
        genuine := sound.genuine
        opened := sound.opened
        between := sound.between
        current := fun entry member => growth.trans (sound.current entry member) grown
        lineage := by
          intro other entry member
          change entry ∈ world.inscribe place flight.history other at member
          rcases world.inscribe_cases place flight.history other with ⟨-, written⟩ | ⟨-, same⟩
          · rw [written] at member
            exact fits.history member
          · rw [same] at member
            exact sound.lineage other entry member }
    · intro other _ otherFits
      exact otherFits.mono grown (fun _ member => member)
  happen := by
    intro world event after _ sound happened _
    have grown := growth.happen happened
    refine ⟨?_, ?_⟩
    · exact {
        counted := sound.counted
        ordered := sound.ordered
        genuine := sound.genuine
        opened := sound.opened
        between := sound.between
        current := fun entry member => growth.trans (sound.current entry member) grown
        lineage := sound.lineage }
    · intro other _ otherFits
      exact otherFits.mono grown (fun _ member => member)

/-- A contract that permits everything. -/
def freely : Contract M where
  Permitted := fun _ _ => True
  Settled := fun _ => True

theorem keeps_freely {α : Type} (program : Program S α) (flight : InFlight M) :
    Keeps freely program flight (fun _ _ => True) := by
  induction program generalizing flight with
  | done value => exact Keeps.done_iff.mpr True.intro
  | call command rest inductionHypothesis =>
      exact Keeps.call True.intro fun reply after follows => inductionHypothesis reply after

theorem obeys_freely (service : Service M) : Obeys freely service := by
  intro world ticket request
  exact (keeps_freely (service request) _).mono (fun _ _ _ => True.intro)

/-- Every run that starts without a past has a journal in order. -/
theorem Growth.journal_lasting (growth : Growth M) (service : Service M) (allowed : Condition M)
    (state : M.State) : growth.journal.Lasting service allowed (Config.idle state) := by
  refine (growth.journal_kept freely allowed).lasting (obeys_freely service) (fun _ => rfl)
    Invariant.lasting_trivial ?_
  exact {
    counted := fun entry member => absurd member (List.not_mem_nil)
    ordered := List.Pairwise.nil
    genuine := fun entry member => absurd member (List.not_mem_nil)
    opened := fun entry member => absurd member (List.not_mem_nil)
    between := fun first _ member => absurd member (List.not_mem_nil)
    current := fun entry member => absurd member (List.not_mem_nil)
    lineage := fun _ entry member => absurd member (List.not_mem_nil) }

/-! ## Every entry was permitted -/

/-- Behind every entry stands the request as it was when it issued the command. -/
def Contract.audited (contract : Contract M) : Invariant M where
  Sound := fun world => forall item, item ∈ world.log -> Exists fun flight : InFlight M =>
    contract.Permitted flight item.seen.command ∧ flight.request = item.request ∧
      forall other, other ∈ flight.own -> other ∈ world.log ∧ other.ticket = item.ticket ∧
        other.moment < item.moment
  Fits := fun _ _ => True

theorem Contract.audited_kept (growth : Growth M) (contract : Contract M)
    (allowed : Condition M) : growth.journal.Kept contract.audited contract allowed where
  accept := fun _ _ _ _ sound => ⟨sound, True.intro, fun _ _ _ => True.intro⟩
  execute := by
    intro world flight command draw reply after held recorded fits sound _ permitted _ _ _ _
    refine ⟨?_, True.intro, fun _ _ _ => True.intro⟩
    intro item member
    rcases List.mem_cons.mp member with rfl | old
    · refine ⟨flight, permitted, rfl, ?_⟩
      intro other own
      have inLog := fits.own other own
      exact ⟨List.mem_cons_of_mem _ inLog, (fits.signed other own).1, recorded.counted other inLog⟩
    · rcases sound item old with ⟨earlier, permitted, request, among⟩
      refine ⟨earlier, permitted, request, ?_⟩
      intro other own
      rcases among other own with ⟨inLog, same, before⟩
      exact ⟨List.mem_cons_of_mem _ inLog, same, before⟩
  close := fun _ _ _ _ _ _ _ sound _ _ _ _ => ⟨sound, fun _ _ _ => True.intro⟩
  happen := fun _ _ _ _ sound _ _ => ⟨sound, fun _ _ _ => True.intro⟩

theorem Contract.audited_lasting (growth : Growth M) {contract : Contract M}
    {service : Service M} (obeys : Obeys contract service) (allowed : Condition M)
    (state : M.State) : contract.audited.Lasting service allowed (Config.idle state) := by
  apply (Contract.audited_kept growth contract allowed).lasting obeys (fun _ => rfl)
    (growth.journal_lasting service allowed state)
  intro item member
  exact absurd member List.not_mem_nil

/-- Each entry of a request was permitted to the request as it was then. -/
def Contract.obeyed (contract : Contract M) : Invariant M where
  Sound := fun _ => True
  Fits := fun _ flight => forall newer item older, flight.own = newer ++ item :: older ->
    Exists fun earlier : InFlight M => earlier.own = older ∧ earlier.held = item.held ∧
      earlier.request = flight.request ∧ contract.Permitted earlier item.seen.command

theorem Contract.obeyed_kept (contract : Contract M) (allowed : Condition M) :
    Invariant.trivial.Kept contract.obeyed contract allowed where
  accept := by
    intro world ticket request _ _
    refine ⟨True.intro, ?_, fun other _ fits => fits⟩
    intro newer item older own
    cases newer <;> cases own
  execute := by
    intro world flight command draw reply after held _ _ _ fits permitted _ _ _ _
    refine ⟨True.intro, ?_, fun other _ otherFits => otherFits⟩
    intro newer item older own
    change flight.entry world command reply after :: flight.own = newer ++ item :: older at own
    cases newer with
    | nil =>
        rcases List.cons.inj own with ⟨rfl, rfl⟩
        exact ⟨flight, rfl, rfl, rfl, permitted⟩
    | cons newest newer =>
        rcases List.cons.inj own with ⟨-, rest⟩
        exact fits newer item older rest
  close := fun _ _ _ _ _ _ _ _ _ _ _ _ => ⟨True.intro, fun _ _ fits => fits⟩
  happen := fun _ _ _ _ _ _ _ => ⟨True.intro, fun _ _ fits => fits⟩

theorem Contract.obeyed_lasting {contract : Contract M} {service : Service M}
    (obeys : Obeys contract service) (allowed : Condition M) (state : M.State) :
    contract.obeyed.Lasting service allowed (Config.idle state) :=
  (contract.obeyed_kept allowed).lasting obeys (fun _ => rfl) Invariant.lasting_trivial True.intro

/-- Every entry has a command that the program of its request may issue. -/
theorem Growth.requested_of_log (growth : Growth M) {allowed : M.Request -> S.Command -> Prop}
    {service : Service M} (only : forall request, (service request).Only (allowed request))
    {condition : Condition M} {state : M.State} {config : Config M}
    (reached : Reaches service condition (Config.idle state) config) {item : Entry M}
    (member : item ∈ config.world.log) : allowed item.request item.seen.command := by
  rcases (Contract.audited_lasting growth (obeys_requested only) condition state config reached).1
      item member with ⟨flight, permitted, same, -⟩
  rw [← same]
  exact permitted

end Interaction
