import KrakenUi.Interaction.Journal
import Mathlib.Logic.Relation

namespace Interaction

/-!
# Services that are killed and started again

A process can be killed in any configuration.  The requests in flight are gone
with everything they hold, and the shared state is left as it is.  The next
process starts from that state, idle, and perhaps with another semantics: only
the type of the shared state stays the same.

The past of a stored state is then a sequence of lives with changes of the
state in between.  Whatever relates the first state of a single life to its
last one, and is reflexive and transitive, relates the two ends of the past.
-/

section Life

variable {S : Signature} {M : Semantics S}

/-- The shared state that a process started in `before` leaves when it is killed. -/
def Leaves (service : Service M) (allowed : Condition M) (before after : M.State) : Prop :=
  Exists fun config => Reaches service allowed (Config.idle before) config ∧
    config.world.state = after

namespace Growth

variable (growth : Growth M)

/-- The present state can come after a fixed one. -/
def since (start : M.State) : Invariant M where
  Sound := fun world => growth.Later start world.state
  Fits := fun _ _ => True

theorem since_kept (start : M.State) (contract : Contract M) (allowed : Condition M) :
    Invariant.trivial.Kept (growth.since start) contract allowed where
  accept := by
    intro world ticket request _ sound
    exact ⟨growth.trans sound (growth.accept world.state request), True.intro,
      fun _ _ _ => True.intro⟩
  execute := by
    intro world flight command draw reply after held _ _ sound _ _ _ performed _ _
    exact ⟨growth.trans sound (growth.perform performed), True.intro, fun _ _ _ => True.intro⟩
  close := by
    intro world flight draw after place _ _ sound _ _ closed _
    exact ⟨growth.trans sound (growth.close closed), fun _ _ _ => True.intro⟩
  happen := by
    intro world event after _ sound happened _
    exact ⟨growth.trans sound (growth.happen happened), fun _ _ _ => True.intro⟩

variable {growth} {service : Service M} {allowed : Condition M} {start : M.State}

theorem later_reached {config : Config M}
    (reached : Reaches service allowed (Config.idle start) config) :
    growth.Later start config.world.state := by
  have initial : (growth.since start).Sound (Config.idle start).world := growth.refl start
  exact ((growth.since_kept start freely allowed).lasting (obeys_freely service) (fun _ => rfl)
    Invariant.lasting_trivial initial config reached).1

theorem later_left {after : M.State} (left : Leaves service allowed start after) :
    growth.Later start after := by
  rcases left with ⟨config, reached, rfl⟩
  exact later_reached reached

/-- What a command of a life has left behind comes after the start of that life. -/
theorem later_entry {config : Config M}
    (reached : Reaches service allowed (Config.idle start) config) {item : Entry M}
    (member : item ∈ config.world.log) : growth.Later start item.after := by
  rcases reached.state_after rfl member with ⟨earlier, arrived, same⟩
  rw [← same]
  exact later_reached arrived

end Growth
end Life

/-! ## The past of a state -/

section Past

variable {State : Type} {starts lives : State -> State -> Prop} {before after : State}

/-- Some number of starts and lives, one after another, lead from one stored
state to another. -/
def Past (starts lives : State -> State -> Prop) : State -> State -> Prop :=
  Relation.ReflTransGen fun before after => starts before after ∨ lives before after

theorem Past.related {later : State -> State -> Prop} (refl : forall state, later state state)
    (trans : forall {first second third}, later first second -> later second third ->
      later first third)
    (started : forall {before after}, starts before after -> later before after)
    (lived : forall {before after}, lives before after -> later before after)
    (past : Past starts lives before after) : later before after := by
  induction past with
  | refl => exact refl before
  | tail _ last inductionHypothesis =>
      rcases last with start | life
      · exact trans inductionHypothesis (started start)
      · exact trans inductionHypothesis (lived life)

/-- What starts and lives keep holds at the end of a past if it held at its
beginning. -/
theorem Past.keeps {holds : State -> Prop}
    (started : forall {before after}, starts before after -> holds before -> holds after)
    (lived : forall {before after}, lives before after -> holds before -> holds after)
    (past : Past starts lives before after) : holds before -> holds after :=
  @Past.related _ _ _ _ _ (fun before after => holds before -> holds after) (fun _ => id)
    (fun one two held => two (one held)) started lived past

end Past
end Interaction
