import KrakenUi.View.PagedTable
import Mathlib.Data.List.Basic

namespace KrakenUi
namespace PagedTable

open Pagination

/-!
# What a table shows when it comes to rest

Answers may arrive while the operator goes on clicking and typing.  As long as
they arrive in the order of their requests, the last one belongs to the request
that was made last, so that a table at rest shows what was asked for last.  The
operator then looks at the page and the search that the script has in mind,
unless the search column was changed with an empty search box since: that goes
back to the first page without asking for it.
-/

variable {Row : Type} {serve : TableRequest -> PageResponse Row} {table : PagedTable Row}

/-- The request that asks for what the script has in mind, with the number that was used last. -/
def lastRequest (table : PagedTable Row) : TableRequest :=
  { table.request with draw := table.draw - 1 }

/-- How many rows an answer says there are. -/
def announced (payload : PageResponse Row) : Nat :=
  if payload.recordsFiltered = 0 then payload.data.length else payload.recordsFiltered

/-- The answer to a request fills the table. -/
structure Shows (table : PagedTable Row) (payload : PageResponse Row) : Prop where
  body : table.body = .rows payload.data
  exported : table.lastRows = payload.data
  filtered : table.filtered = announced payload
  info : table.info = some ⟨table.page, table.totalPages, table.filtered, table.total⟩
  inside : table.page ≤ table.totalPages
  previous : table.previousDisabled = decide (table.page ≤ 1)
  next : table.nextDisabled = decide (table.totalPages ≤ table.page)

/-- The column was changed with an empty search box, and nothing was asked for since. -/
def misplaced (serve : TableRequest -> PageResponse Row) (table : PagedTable Row) (before : Bool) :
    List Event -> Bool
  | [] => before
  | event :: later =>
      let after := step serve table event
      misplaced serve after
        (if after.draw ≠ table.draw then false
        else match event with
          | .searchField _ => before || decide (table.kind = .attacks)
          | _ => before) later

/-- The request that was made last is under way, or the table shows its answer. -/
structure Follows (serve : TableRequest -> PageResponse Row) (table : PagedTable Row)
    (misplaced : Bool) : Prop where
  positive : 1 ≤ table.page
  started : 1 ≤ table.draw
  last : table.typing = false -> misplaced = false ->
    table.flights.getLast? = some table.lastRequest ∨
      (table.flights = [] ∧ (table.body = .failed ∨ Shows table (serve table.lastRequest)))

theorem totalPages_pos (table : PagedTable Row) : 1 ≤ table.totalPages :=
  Nat.le_max_left _ _

/-- Whatever the table was like, it follows the request that it makes. -/
theorem follows_render (positive : 1 ≤ table.page) (before : Bool) :
    Follows serve (render table) before where
  positive := positive
  started := Nat.le_add_left 1 table.draw
  last := by
    intro _ _
    apply Or.inl
    change (table.flights ++ [table.request]).getLast? = _
    rw [List.getLast?_append, List.getLast?_singleton, Option.some_or]
    rfl

/-- An answer makes a request for the last page, or fills the table. -/
theorem receive_cases (table : PagedTable Row) (payload : PageResponse Row) :
    (Exists fun counted : PagedTable Row => receive table payload =
      render { counted with page := counted.totalPages } ∧ counted.draw = table.draw) ∨
    (Shows (receive table payload) payload ∧ (receive table payload).draw = table.draw ∧
      (receive table payload).lastRequest = table.lastRequest ∧
      (receive table payload).flights = table.flights ∧
      (receive table payload).typing = table.typing ∧
      (receive table payload).page = table.page) := by
  unfold receive
  split
  · exact Or.inl ⟨table.counted payload, rfl, rfl⟩
  · rename_i within
    have inside : table.page ≤ (table.counted payload).totalPages := Nat.le_of_not_lt within
    exact Or.inr ⟨⟨rfl, rfl, rfl, rfl, inside, rfl, rfl⟩, rfl, rfl, rfl, rfl, rfl⟩

/-- What is left of the flights when the oldest one is over. -/
theorem last_of_oldest {flights : List TableRequest} {oldest last : TableRequest}
    (first : flights[0]? = some oldest) (newest : flights.getLast? = some last) :
    (flights.eraseIdx 0).getLast? = some last ∨ (flights.eraseIdx 0 = [] ∧ oldest = last) := by
  cases flights with
  | nil => cases first
  | cons head later =>
      cases first
      cases later with
      | nil =>
          cases newest
          exact Or.inr ⟨rfl, rfl⟩
      | cons second others =>
          rw [List.getLast?_cons_cons] at newest
          exact Or.inl newest

theorem Follows.previous {before : Bool} (follows : Follows serve table before) :
    Follows serve (step serve table .previous)
      (if (step serve table .previous).draw ≠ table.draw then false else before) := by
  simp only [step]
  split
  · rw [if_neg (fun different => different rfl)]
    exact follows
  · exact follows_render (Nat.le_max_left 1 _) _

theorem Follows.next {before : Bool} (follows : Follows serve table before) :
    Follows serve (step serve table .next)
      (if (step serve table .next).draw ≠ table.draw then false else before) := by
  simp only [step]
  split
  · rw [if_neg (fun different => different rfl)]
    exact follows
  · exact follows_render (Nat.le_add_left 1 _) _

/-- While the operator types nothing is promised. -/
theorem Follows.input {before : Bool} (follows : Follows serve table before) (text : String) :
    Follows serve (step serve table (.input text)) before where
  positive := follows.positive
  started := follows.started
  last := by
    intro typing
    cases typing

theorem Follows.pause {before : Bool} (follows : Follows serve table before) :
    Follows serve (step serve table .pause)
      (if (step serve table .pause).draw ≠ table.draw then false else before) := by
  simp only [step]
  split
  · exact follows_render (Nat.le_refl 1) _
  · rw [if_neg (fun different => different rfl)]
    exact follows

/-- The one event that goes to another page without asking for it. -/
theorem Follows.searchField {before : Bool} (follows : Follows serve table before)
    (column : String) :
    Follows serve (step serve table (.searchField column))
      (if (step serve table (.searchField column)).draw ≠ table.draw then false
      else before || decide (table.kind = .attacks)) := by
  cases kind : table.kind with
  | users =>
      have same : step serve table (.searchField column) = table := by
        simp only [step, kind, if_true]
      rw [same, if_neg (fun different => different rfl)]
      refine ⟨follows.positive, follows.started, fun typing unmoved => ?_⟩
      rw [Bool.or_eq_false_iff] at unmoved
      exact follows.last typing unmoved.1
  | attacks =>
      by_cases empty : table.search = ""
      · have moves : step serve table (.searchField column) =
            { table with searchField := column, page := 1 } := by
          simp only [step, kind, empty, reduceCtorEq, if_false, if_true]
        rw [moves, if_neg (fun different => different rfl)]
        refine ⟨Nat.le_refl 1, follows.started, fun _ unmoved => ?_⟩
        rw [Bool.or_eq_false_iff] at unmoved
        exact absurd unmoved.2 (by decide)
      · have asks : step serve table (.searchField column) =
            render { table with searchField := column, page := 1 } := by
          simp only [step, kind, empty, reduceCtorEq, if_false]
        rw [asks]
        exact follows_render (Nat.le_refl 1) _

theorem Follows.sort {before : Bool} (follows : Follows serve table before) (column : String) :
    Follows serve (step serve table (.sort column))
      (if (step serve table (.sort column)).draw ≠ table.draw then false else before) := by
  simp only [step]
  split
  · rw [if_neg (fun different => different rfl)]
    exact follows
  · exact follows_render (Nat.le_refl 1) _

/-- The oldest answer fills the table for good only if it is the only one that is missing. -/
theorem Follows.answer {before : Bool} (follows : Follows serve table before) :
    Follows serve (step serve table (.answer 0))
      (if (step serve table (.answer 0)).draw ≠ table.draw then false else before) := by
  cases first : table.flights[0]? with
  | none =>
      have same : step serve table (.answer 0) = table := by simp only [step, first]
      rw [same, if_neg (fun different => different rfl)]
      exact follows
  | some oldest =>
      have receives : step serve table (.answer 0) =
          receive { table with flights := table.flights.eraseIdx 0 } (serve oldest) := by
        simp only [step, first]
      rw [receives]
      rcases receive_cases { table with flights := table.flights.eraseIdx 0 } (serve oldest) with
          ⟨counted, asks, -⟩ | ⟨filled, draw, about, flights, typing, page⟩
      · rw [asks]
        exact follows_render counted.totalPages_pos _
      · rw [if_neg (fun different => different draw)]
        refine ⟨?_, ?_, fun quiet unmoved => ?_⟩
        · rw [page]
          exact follows.positive
        · rw [draw]
          exact follows.started
        · rw [typing] at quiet
          rw [about, flights]
          rcases follows.last quiet unmoved with newest | ⟨empty, -⟩
          · rcases last_of_oldest first newest with later | ⟨ended, same⟩
            · exact Or.inl later
            · refine Or.inr ⟨ended, Or.inr ?_⟩
              subst same
              exact filled
          · rw [empty] at first
            cases first

theorem Follows.failure {before : Bool} (follows : Follows serve table before) :
    Follows serve (step serve table (.failure 0))
      (if (step serve table (.failure 0)).draw ≠ table.draw then false else before) := by
  cases first : table.flights[0]? with
  | none =>
      have same : step serve table (.failure 0) = table := by simp only [step, first]
      rw [same, if_neg (fun different => different rfl)]
      exact follows
  | some oldest =>
      have fails : step serve table (.failure 0) =
          fail { table with flights := table.flights.eraseIdx 0 } := by
        simp only [step, first]
      rw [fails, if_neg (fun different => different rfl)]
      refine ⟨follows.positive, follows.started, fun quiet unmoved => ?_⟩
      rcases follows.last quiet unmoved with newest | ⟨empty, -⟩
      · rcases last_of_oldest first newest with later | ⟨ended, -⟩
        · exact Or.inl later
        · exact Or.inr ⟨ended, Or.inl rfl⟩
      · rw [empty] at first
        cases first

/-- What a whole run keeps. -/
theorem Follows.run {before : Bool} {events : List Event} (follows : Follows serve table before)
    (inOrder : forall event, event ∈ events -> event.InOrder) :
    Follows serve (run serve table events) (misplaced serve table before events) := by
  induction events generalizing table before with
  | nil => exact follows
  | cons event later inductionHypothesis =>
      have rest : forall event, event ∈ later -> event.InOrder :=
        fun other member => inOrder other (List.mem_cons_of_mem event member)
      have first := inOrder event List.mem_cons_self
      cases event with
      | previous => exact inductionHypothesis follows.previous rest
      | next => exact inductionHypothesis follows.next rest
      | input text =>
          refine inductionHypothesis ?_ rest
          rw [if_neg (fun different => different rfl)]
          exact follows.input text
      | pause => exact inductionHypothesis follows.pause rest
      | searchField column => exact inductionHypothesis (follows.searchField column) rest
      | sort column => exact inductionHypothesis (follows.sort column) rest
      | answer flight =>
          change flight = 0 at first
          subst first
          exact inductionHypothesis follows.answer rest
      | failure flight =>
          change flight = 0 at first
          subst first
          exact inductionHypothesis follows.failure rest

/-- The size of the pages never changes. -/
theorem pageSize_run (serve : TableRequest -> PageResponse Row) (table : PagedTable Row)
    (events : List Event) : (run serve table events).pageSize = table.pageSize := by
  induction events generalizing table with
  | nil => rfl
  | cons event later inductionHypothesis =>
      apply (inductionHypothesis (step serve table event)).trans
      cases event with
      | input text => rfl
      | previous | next | pause =>
          simp only [step]
          split
          · rfl
          · rfl
      | searchField column =>
          simp only [step]
          split
          · rfl
          · split
            · rfl
            · rfl
      | sort column =>
          simp only [step, applySort]
          split
          · rfl
          · split
            · rfl
            · rfl
      | answer flight =>
          simp only [step]
          split
          · rfl
          · unfold receive
            split
            · rfl
            · rfl
      | failure flight =>
          simp only [step]
          split
          · rfl
          · rfl

/-- The table at rest: nothing is being typed, no answer is missing, and the search column was
not changed with an empty search box since the last request. -/
structure AtRest (serve : TableRequest -> PageResponse Row) (table : PagedTable Row)
    (events : List Event) : Prop where
  inOrder : forall event, event ∈ events -> event.InOrder
  quiet : (run serve table events).typing = false
  answered : (run serve table events).flights = []
  placed : misplaced serve table false events = false

theorem follows_start (serve : TableRequest -> PageResponse Row) (kind : Kind) (pageSize : Nat) :
    Follows serve (start Row kind pageSize) false :=
  follows_render (Nat.le_refl 1) false

/-- At rest, a table shows the answer to the request for the page, the search and the order
that its script has in mind, or that there was no answer. -/
theorem rest_shows (serve : TableRequest -> PageResponse Row) (kind : Kind) (pageSize : Nat)
    (events : List Event) (atRest : AtRest serve (start Row kind pageSize) events) :
    (run serve (start Row kind pageSize) events).body = .failed ∨
      Shows (run serve (start Row kind pageSize) events)
        (serve (run serve (start Row kind pageSize) events).lastRequest) := by
  have follows := (follows_start serve kind pageSize).run atRest.inOrder
  rcases follows.last atRest.quiet atRest.placed with waiting | ⟨-, shown⟩
  · rw [atRest.answered] at waiting
    cases waiting
  · exact shown

/-! ## From page to page -/

/-- How many pages there are for so many rows. -/
def pageCount (count pageSize : Nat) : Nat := max 1 ((count + (pageSize - 1)) / pageSize)

/-- A click on the button for the next page and its answer, so many times. -/
def clicks : Nat -> List Event
  | 0 => []
  | times + 1 => clicks times ++ [.next, .answer 0]

/-- The request for a page of a table, with a number of its own. -/
def pageRequest (table : PagedTable Row) (draw number : Nat) : TableRequest :=
  { table.request with draw := draw, start := number * table.pageSize }

/-- The table has been turned to this page, counted from zero. -/
structure Turned (serve : TableRequest -> PageResponse Row) (table turned : PagedTable Row)
    (number : Nat) : Prop where
  place : turned.page = number + 1
  flights : turned.flights = []
  size : turned.pageSize = table.pageSize
  request : turned.request = pageRequest table (table.draw + number) number
  shows : Shows turned (serve (pageRequest table (table.draw + number - 1) number))

theorem receive_inside {payload : PageResponse Row}
    (inside : table.page ≤ pageCount (announced payload) table.pageSize) :
    receive table payload = (table.counted payload).fill payload.data :=
  if_neg (Nat.not_lt.mpr inside)

theorem run_clicks (serve : TableRequest -> PageResponse Row) (table : PagedTable Row) (times : Nat) :
    run serve table (clicks (times + 1)) =
      step serve (step serve (run serve table (clicks times)) .next) (.answer 0) := by
  have last : clicks (times + 1) = clicks times ++ [.next, .answer 0] := rfl
  unfold run
  rw [last, List.foldl_append]
  rfl

/-- One more click turns one more page, as long as there is one. -/
theorem Turned.next {turned : PagedTable Row} {number count : Nat}
    (before : Turned serve table turned number)
    (announces : forall draw number, number < pageCount count table.pageSize ->
      announced (serve (pageRequest table draw number)) = count)
    (more : number + 1 < pageCount count table.pageSize) :
    Turned serve table (step serve (step serve turned .next) (.answer 0)) (number + 1) := by
  have filtered : turned.filtered = count :=
    before.shows.filtered.trans (announces _ number (by omega))
  have enabled : turned.nextDisabled = false := by
    rw [before.shows.next, before.place]
    unfold totalPages
    rw [filtered, before.size]
    exact decide_eq_false (Nat.not_le.mpr more)
  have requests : { turned with page := turned.page + 1 }.request =
      pageRequest table (table.draw + number) (number + 1) := by
    have same : { turned with page := turned.page + 1 }.request =
        { turned.request with start := turned.page * turned.pageSize } := rfl
    rw [same, before.request, before.place, before.size]
    rfl
  have asks : step serve turned .next = render { turned with page := turned.page + 1 } := by
    simp only [step, enabled, Bool.false_eq_true, if_false]
  have flight : (step serve turned .next).flights =
      [pageRequest table (table.draw + number) (number + 1)] := by
    rw [asks, ← requests]
    change turned.flights ++ [_] = _
    rw [before.flights, List.nil_append]
  have answers : step serve (step serve turned .next) (.answer 0) =
      receive { step serve turned .next with flights := [] }
        (serve (pageRequest table (table.draw + number) (number + 1))) := by
    simp only [step.eq_def serve (step serve turned .next), flight, List.getElem?_cons_zero,
      List.eraseIdx_cons_zero]
  have inside : ({ step serve turned .next with flights := [] } : PagedTable Row).page ≤
      pageCount (announced (serve (pageRequest table (table.draw + number) (number + 1))))
        ({ step serve turned .next with flights := [] } : PagedTable Row).pageSize := by
    rw [announces _ _ more, asks]
    change turned.page + 1 ≤ pageCount count turned.pageSize
    rw [before.place, before.size]
    exact more
  rw [answers, receive_inside inside, asks]
  refine ⟨?_, rfl, before.size, ?_, ?_⟩
  · exact congrArg (· + 1) before.place
  · have draw : turned.draw = table.draw + number := congrArg TableRequest.draw before.request
    change { { turned with page := turned.page + 1 }.request with draw := turned.draw + 1 } = _
    rw [requests, draw]
    rfl
  · rw [asks] at inside
    exact ⟨rfl, rfl, rfl, rfl, inside, rfl, rfl⟩

/-- From the first page on, clicks turn the pages one by one. -/
theorem turned_clicks {count : Nat} (first : Turned serve table table 0)
    (announces : forall draw number, number < pageCount count table.pageSize ->
      announced (serve (pageRequest table draw number)) = count)
    {number : Nat} (within : number < pageCount count table.pageSize) :
    Turned serve table (run serve table (clicks number)) number := by
  induction number with
  | zero => exact first
  | succ number inductionHypothesis =>
      rw [run_clicks]
      exact (inductionHypothesis (by omega)).next announces within

/-- A table that shows its first page. -/
theorem turned_first (answered : table.flights = [])
    (settled : table.body = .failed ∨ Shows table (serve table.lastRequest))
    (filled : table.body ≠ .failed) (first : table.page = 1) : Turned serve table table 0 := by
  have asked : pageRequest table table.draw 0 = table.request := by
    unfold pageRequest request
    rw [first]
  refine ⟨first, answered, rfl, asked.symm, ?_⟩
  rcases settled with failed | shown
  · exact absurd failed filled
  · have same : pageRequest table (table.draw + 0 - 1) 0 = table.lastRequest := by
      unfold lastRequest
      rw [← asked]
      rfl
    rw [same]
    exact shown

/-- What the clicks show: the pages in their order, and no button beyond the last one. -/
theorem rows_clicks {count : Nat} (first : Turned serve table table 0)
    (announces : forall draw number, number < pageCount count table.pageSize ->
      announced (serve (pageRequest table draw number)) = count)
    {number : Nat} (within : number < pageCount count table.pageSize) :
    (run serve table (clicks number)).body =
        .rows (serve (pageRequest table (table.draw + number - 1) number)).data ∧
      (run serve table (clicks number)).lastRows =
        (serve (pageRequest table (table.draw + number - 1) number)).data ∧
      (run serve table (clicks number)).nextDisabled =
        decide (number + 1 = pageCount count table.pageSize) := by
  have turned := turned_clicks first announces within
  refine ⟨turned.shows.body, turned.shows.exported, ?_⟩
  have filtered := turned.shows.filtered.trans (announces _ number within)
  rw [turned.shows.next, turned.place]
  unfold totalPages
  rw [filtered, turned.size]
  apply decide_eq_decide.mpr
  change pageCount count table.pageSize ≤ number + 1 ↔ _
  omega

end PagedTable
end KrakenUi
