import Mathlib.Order.Basic
import Mathlib.Data.List.Basic

namespace Interaction

/-!
# Unwinding

A reactor answers one event after another and changes its state on the way.
An observer only sees the events that concern it, with their answers.  States
that look alike to the observer at one time may look different earlier, so the
relation that says so is indexed by a clock, and the events of a run come in
the order of that clock.

If an event of somebody else cannot be told by looking at the state, and the
observer's own events are answered alike in states that look alike, then the
observer sees the same run whether the other events are there or not.
-/

variable {State Event Answer Time : Type}

/-- The answers along a run. -/
def answers (react : State -> Event -> Answer × State) :
    State -> List Event -> List (Event × Answer)
  | _, [] => []
  | state, event :: later =>
      (event, (react state event).1) :: answers react (react state event).2 later

variable [Preorder Time]

/-- The observer cannot tell apart states that are alike. -/
structure Unwinds (react : State -> Event -> Answer × State) (mine : Event -> Bool)
    (time : Event -> Time) (alike : Time -> State -> State -> Prop) : Prop where
  aged : forall {earlier later : Time} {left right : State}, earlier ≤ later ->
    alike earlier left right -> alike later left right
  answered : forall {event : Event} {left right : State}, mine event = true ->
    alike (time event) left right -> (react left event).1 = (react right event).1
  kept : forall {event : Event} {left right : State}, mine event = true ->
    alike (time event) left right ->
      alike (time event) (react left event).2 (react right event).2
  unseen : forall {event : Event} {left right : State}, mine event = false ->
    alike (time event) left right -> alike (time event) (react left event).2 right

/-- What the observer sees of a run is what it sees without the other events. -/
theorem Unwinds.answers_filter {react : State -> Event -> Answer × State} {mine : Event -> Bool}
    {time : Event -> Time} {alike : Time -> State -> State -> Prop}
    (unwinds : Unwinds react mine time alike) {events : List Event}
    (ordered : events.Pairwise fun earlier later => time earlier ≤ time later)
    {start : Time} (after : forall event, event ∈ events -> start ≤ time event)
    {left right : State} (same : alike start left right) :
    (answers react left events).filter (fun answer => mine answer.1) =
      answers react right (events.filter mine) := by
  induction events generalizing start left right with
  | nil => rfl
  | cons event later inductionHypothesis =>
      rcases List.pairwise_cons.mp ordered with ⟨first, rest⟩
      have now := unwinds.aged (after event List.mem_cons_self) same
      by_cases own : mine event = true
      · simp only [answers, List.filter_cons, own, if_true]
        rw [unwinds.answered own now,
          inductionHypothesis rest first (unwinds.kept own now)]
      · have foreign := Bool.eq_false_iff.mpr own
        simp only [answers, List.filter_cons, foreign, Bool.false_eq_true, if_false]
        exact inductionHypothesis rest first (unwinds.unseen foreign now)

end Interaction
