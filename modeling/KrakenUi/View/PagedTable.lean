import KrakenUi.Controllers.Waf

namespace KrakenUi

open Pagination

/-!
# A table that asks the server for its pages

The script behind a table keeps the number of its page, what the operator
searches for and how the table is sorted.  Every change of these sends a
request, and an answer fills the table when it arrives, whichever request it
belongs to.  Typing waits for a pause before it sends anything.

Choosing another search column goes back to the first page, but sends a request
only when the search box is not empty.
-/

namespace PagedTable

/-- The table of the attacks has a choice of columns and two sortable headers. -/
inductive Kind where
  | attacks
  | users
  deriving DecidableEq

/-- What a request asks for. -/
structure TableRequest where
  draw : Nat
  start : Nat
  length : Nat
  search : String
  searchField : String
  sort : String
  order : String
  deriving DecidableEq

/-- The body of the table. -/
inductive Body (Row : Type) where
  | loading
  | failed
  | rows (rows : List Row)
  deriving DecidableEq

/-- `Page … of … • … filtered / … total`. -/
structure Info where
  page : Nat
  totalPages : Nat
  filtered : Nat
  total : Nat
  deriving DecidableEq

end PagedTable

open PagedTable

structure PagedTable (Row : Type) where
  kind : Kind
  pageSize : Nat
  page : Nat := 1
  draw : Nat := 1
  total : Nat := 0
  filtered : Nat := 0
  lastRows : List Row := []
  sortColumn : String := "severity"
  sortOrder : String := "desc"
  search : String := ""
  searchField : String := "all"
  body : Body Row := .loading
  /-- The text below the table, when it is not `Loading...` or `Ajax error`. -/
  info : Option Info := none
  previousDisabled : Bool := false
  nextDisabled : Bool := false
  /-- The operator has typed and the pause is not over. -/
  typing : Bool := false
  /-- The requests without an answer, the oldest first. -/
  flights : List TableRequest := []

namespace PagedTable

/-- The parameters of the address that a request is sent to. -/
def TableRequest.query (kind : Kind) (request : TableRequest) : Query := fun key =>
  if key = "start" then some (Nat.repr request.start)
  else if key = "length" then some (Nat.repr request.length)
  else if key = "draw" then some (Nat.repr request.draw)
  else if key = "search[value]" then some request.search
  else if kind = .attacks then
    if key = "search_field" then some request.searchField
    else if key = "sort" then some request.sort
    else if key = "order" then some request.order
    else none
  else none

variable {Row : Type}

def totalPages (table : PagedTable Row) : Nat :=
  max 1 ((table.filtered + (table.pageSize - 1)) / table.pageSize)

def request (table : PagedTable Row) : TableRequest :=
  { draw := table.draw
    start := (table.page - 1) * table.pageSize
    length := table.pageSize
    search := table.search
    searchField := table.searchField
    sort := table.sortColumn
    order := table.sortOrder }

/-- `render`, as far as the request. -/
def render (table : PagedTable Row) : PagedTable Row :=
  { table with
    body := .loading
    flights := table.flights ++ [table.request]
    draw := table.draw + 1 }

/-- The counts of an answer.  A count of zero is taken from the rows. -/
def counted (table : PagedTable Row) (payload : PageResponse Row) : PagedTable Row :=
  { table with
    total := if payload.recordsTotal = 0 then payload.data.length else payload.recordsTotal
    filtered := if payload.recordsFiltered = 0 then payload.data.length
      else payload.recordsFiltered }

def fill (table : PagedTable Row) (rows : List Row) : PagedTable Row :=
  { table with
    lastRows := rows
    body := .rows rows
    info := some ⟨table.page, table.totalPages, table.filtered, table.total⟩
    previousDisabled := decide (table.page ≤ 1)
    nextDisabled := decide (table.totalPages ≤ table.page) }

/-- `render`, from the answer on.  A page beyond the last one asks for the last one. -/
def receive (table : PagedTable Row) (payload : PageResponse Row) : PagedTable Row :=
  if (table.counted payload).totalPages < table.page then
    render { table.counted payload with page := (table.counted payload).totalPages }
  else (table.counted payload).fill payload.data

/-- `render`, when there is no answer. -/
def fail (table : PagedTable Row) : PagedTable Row :=
  { table with body := .failed, info := none }

/-- A click on the header of the active column turns the direction around. -/
def applySort (table : PagedTable Row) (column : String) : PagedTable Row :=
  if table.sortColumn = column then
    { table with sortOrder := if table.sortOrder = "desc" then "asc" else "desc" }
  else { table with sortColumn := column, sortOrder := "desc" }

/-- What happens on the page.  Flights are meant by their places in the list. -/
inductive Event where
  | previous
  | next
  | input (text : String)
  /-- The pause after typing is over. -/
  | pause
  | searchField (column : String)
  | sort (column : String)
  | answer (flight : Nat)
  | failure (flight : Nat)
  deriving DecidableEq

def step (serve : TableRequest -> PageResponse Row) (table : PagedTable Row) : Event -> PagedTable Row
  | .previous =>
      if table.previousDisabled then table else render { table with page := max 1 (table.page - 1) }
  | .next => if table.nextDisabled then table else render { table with page := table.page + 1 }
  | .input text => { table with search := text, typing := true }
  | .pause => if table.typing then render { table with typing := false, page := 1 } else table
  | .searchField column =>
      if table.kind = .users then table
      else if table.search = "" then { table with searchField := column, page := 1 }
      else render { table with searchField := column, page := 1 }
  | .sort column =>
      if table.kind = .users then table
      else render { table.applySort column with page := 1 }
  | .answer flight =>
      match table.flights[flight]? with
      | none => table
      | some request =>
          receive { table with flights := table.flights.eraseIdx flight } (serve request)
  | .failure flight =>
      match table.flights[flight]? with
      | none => table
      | some _ => fail { table with flights := table.flights.eraseIdx flight }

/-- The page of a table when its script has started. -/
def start (Row : Type) (kind : Kind) (pageSize : Nat) : PagedTable Row :=
  render { kind := kind, pageSize := pageSize }

/-- The table after these events, the oldest first. -/
def run (serve : TableRequest -> PageResponse Row) (table : PagedTable Row) (events : List Event) :
    PagedTable Row :=
  events.foldl (step serve) table

/-- No answer overtakes another one. -/
def Event.InOrder : Event -> Prop
  | .answer flight => flight = 0
  | .failure flight => flight = 0
  | _ => True

end PagedTable
end KrakenUi
