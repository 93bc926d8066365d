import KrakenUi.Controllers.Operators
import KrakenUi.Guarantees.AttackPaging
import KrakenUi.Guarantees.TableViews

namespace KrakenUi

open PagedTable Pagination Sql VulnerabilityRepository

/-!
# Turning the pages

The script in the browser and the handlers on the server together: whoever
clicks through a table from its first page until the button is disabled has
seen every row that the search lets through exactly once.
-/

namespace PagedTable

/-! ## How many pages there are -/

theorem pageCount_cover (count : Nat) {pageSize : Nat} (some' : 1 ≤ pageSize) :
    count ≤ pageCount count pageSize * pageSize := by
  have divided := Nat.div_add_mod (count + (pageSize - 1)) pageSize
  have rest := Nat.mod_lt (count + (pageSize - 1)) some'
  have enough : count ≤ (count + (pageSize - 1)) / pageSize * pageSize := by
    rw [Nat.mul_comm]
    omega
  exact enough.trans (Nat.mul_le_mul_right pageSize (Nat.le_max_right 1 _))

theorem pageCount_short (count : Nat) {pageSize : Nat} (some' : 1 ≤ pageSize) :
    pageCount count pageSize * pageSize ≤ count + pageSize := by
  have divided := Nat.div_mul_le_self (count + (pageSize - 1)) pageSize
  unfold pageCount
  rcases Nat.le_total 1 ((count + (pageSize - 1)) / pageSize) with more | few
  · rw [Nat.max_eq_right more]
    omega
  · rw [Nat.max_eq_left few]
    omega

variable {Row : Type}

/-- The parameters of a page are those of the search, with the place of the page. -/
theorem query_pageRequest (kind : Kind) (table : PagedTable Row) (draw number : Nat) {key : String}
    (other : key ≠ "draw") :
    (pageRequest table draw number).query kind key =
      Waf.pageQuery (table.request.query kind) table.pageSize number key := by
  unfold Waf.pageQuery TableRequest.query
  split
  · rfl
  · split
    · rfl
    · rfl

end PagedTable

namespace Waf

variable {clean : String -> String}

/-- The rows of an answer do not depend on its number. -/
theorem apiAttacks_congr (database : WafDatabase) {query other : Query}
    (same : forall key, key ≠ "draw" -> query key = other key) :
    (apiAttacks clean (some database) query).2.data =
        (apiAttacks clean (some database) other).2.data ∧
      (apiAttacks clean (some database) query).2.recordsFiltered =
        (apiAttacks clean (some database) other).2.recordsFiltered := by
  simp only [apiAttacks, parseQueryU64, length, search, searchField, sort, descending,
    same "start" (by decide), same "length" (by decide), same "search[value]" (by decide),
    same "search" (by decide), same "search_field" (by decide), same "sort" (by decide),
    same "order" (by decide), and_self]

/-- The handler behind the table of the attacks.  The database may arrange ties anew for each
request. -/
def attackServer (clean : String -> String) (databases : Nat -> WafDatabase)
    (request : TableRequest) : PageResponse AttackRow :=
  (apiAttacks clean (some (databases request.draw)) (request.query .attacks)).2

section

variable {databases : Nat -> WafDatabase} {rows : List Vulnerability}
  {table : PagedTable AttackRow}

theorem announced_attacks
    (serves : forall draw, Serves clean (databases draw) rows (table.request.query .attacks))
    (small : rows.length ≤ VulnerabilityRepository.maxOffset) (some' : 1 ≤ table.pageSize)
    (few : table.pageSize ≤ 100) {draw number : Nat}
    (within : number < pageCount (listed clean rows (table.request.query .attacks)).length
      table.pageSize) :
    announced (attackServer clean databases (pageRequest table draw number)) =
      (listed clean rows (table.request.query .attacks)).length := by
  have short : (listed clean rows (table.request.query .attacks)).length ≤ 100000 :=
    (List.length_filter_le _ _).trans small
  have below : number * table.pageSize < 2 ^ 64 := by
    have covered := pageCount_short (listed clean rows (table.request.query .attacks)).length some'
    have part : number * table.pageSize ≤ pageCount _ table.pageSize * table.pageSize :=
      Nat.mul_le_mul_right table.pageSize (Nat.le_of_lt within)
    omega
  have alike := @apiAttacks_congr clean (databases draw) _ _
    fun key other => @query_pageRequest _ .attacks table draw number key other
  unfold announced
  change (if (apiAttacks clean (some (databases draw)) _).2.recordsFiltered = 0 then _ else
    (apiAttacks clean (some (databases draw)) _).2.recordsFiltered) = _
  rw [alike.2, recordsFiltered_page (serves draw)]
  split
  · rename_i empty
    rw [empty]
    change (apiAttacks clean (some (databases draw)) _).2.data.length = 0
    rw [alike.1, apiAttacks_page (serves draw) small some' few below, List.length_map]
    have whole := (serves draw).arranged.perm.length_eq
    rw [empty] at whole
    rw [List.length_eq_zero_iff.mp whole, slice, List.drop_nil, List.take_nil]
    rfl
  · rfl

end

/-- Sorted by time no group of findings ties. -/
theorem clean_of_time {rows : List Vulnerability} (unique : (rows.map Vulnerability.id).Nodup)
    {query : Query} (byTime : sort clean query = .occurredAt) (place : Nat) :
    Clean (asked clean query) (listed clean rows query) place := by
  have keys := @listed_unique clean rows unique query
  apply clean_of_antisymm (ranks_order _ _) keys.of_map
  intro a among b member there back
  rw [byTime] at there back
  exact List.inj_on_of_nodup_map keys among member (order_occurredAt_antisymm there back)

/-- Clicking through the table of the attacks shows each finding that the search lets through
exactly once, when it is sorted by time or no group of ties is cut by the end of a page.  The
button for the next page is disabled on the last page only. -/
theorem attacks_browsed (clean : String -> String) {rows : List Vulnerability}
    (unique : (rows.map Vulnerability.id).Nodup)
    (small : rows.length ≤ VulnerabilityRepository.maxOffset) {pageSize : Nat}
    (some' : 1 ≤ pageSize) (few : pageSize ≤ 100) (databases : Nat -> WafDatabase)
    (events : List Event) :
    let serve := attackServer clean databases
    let table := run serve (start AttackRow .attacks pageSize) events
    let query := table.request.query .attacks
    let pages := pageCount (listed clean rows query).length pageSize
    AtRest serve (start AttackRow .attacks pageSize) events -> table.body ≠ .failed ->
    table.page = 1 -> (forall draw, Serves clean (databases draw) rows query) ->
    (sort clean query = .occurredAt ∨
      forall page, Clean (asked clean query) (listed clean rows query) (page * pageSize)) ->
    ((List.range pages).flatMap fun number => (run serve table (clicks number)).lastRows).Perm
        ((listed clean rows query).map attackRow) ∧
      forall number, number < pages ->
        (run serve table (clicks number)).nextDisabled = decide (number + 1 = pages) := by
  intro serve table query pages atRest filled first serves orders
  have size : table.pageSize = pageSize := pageSize_run serve _ events
  have turned : Turned serve table table 0 :=
    turned_first atRest.answered (rest_shows serve .attacks pageSize events atRest) filled first
  have announces : forall draw number,
      number < pageCount (listed clean rows query).length table.pageSize ->
        announced (serve (pageRequest table draw number)) = (listed clean rows query).length :=
    fun draw number within => announced_attacks serves small (size ▸ some') (size ▸ few) within
  have noTie : forall page,
      Clean (asked clean query) (listed clean rows query) (page * pageSize) := by
    rcases orders with byTime | clear
    · exact fun page => clean_of_time unique byTime (page * pageSize)
    · exact clear
  have eachRow : forall number, number < pages ->
      (run serve table (clicks number)).lastRows =
        (apiAttacks clean (some (databases (table.draw + number - 1)))
          (pageQuery query pageSize number)).2.data := by
    intro number within
    have within' : number < pageCount (listed clean rows query).length table.pageSize := by
      rw [size]
      exact within
    rw [(rows_clicks turned announces within').2.1]
    have alike := @apiAttacks_congr clean (databases (table.draw + number - 1)) _ _
      fun key other =>
        @query_pageRequest _ .attacks table (table.draw + number - 1) number key other
    rw [size] at alike
    exact alike.1
  have shownRows : ((List.range pages).flatMap fun number =>
      (run serve table (clicks number)).lastRows) =
      shown clean (fun number => databases (table.draw + number - 1)) query pageSize pages := by
    unfold shown
    apply List.flatMap_congr
    intro number member
    exact eachRow number (List.mem_range.mp member)
  refine ⟨?_, ?_⟩
  · have short : (listed clean rows query).length ≤ 100000 :=
      (List.length_filter_le _ _).trans small
    have covered : pages * pageSize ≤ (listed clean rows query).length + pageSize :=
      pageCount_short _ some'
    have below : pages * pageSize < 2 ^ 64 := by omega
    rw [shownRows]
    exact (showsEach_of_clean small some' few noTie _ (fun number => serves _) pages
      (pageCount_cover _ some') below).1
  · intro number within
    have within' : number < pageCount (listed clean rows query).length table.pageSize := by
      rw [size]
      exact within
    rw [(rows_clicks turned announces within').2.2, size]

end Waf

namespace Operators

open Waf

variable {clean : String -> String} {rows : List Operator}

/-- The operators that a query is about, by their numbers. -/
def sortedOperators (clean : String -> String) (rows : List Operator) (query : Query) :
    List Operator :=
  (rows.filter (OperatorPage.isListed (search clean query))).mergeSort
    fun first second => decide (first.idUser ≤ second.idUser)

/-- The handler behind the table of the operators. -/
def operatorServer (clean : String -> String) (rows : List Operator) (request : TableRequest) :
    PageResponse OperatorRow :=
  apiOperators clean rows (request.query .users)

section

variable {table : PagedTable OperatorRow} {draw number : Nat}

/-- The answer to the request for a page. -/
theorem operatorServer_page (small : rows.length ≤ OperatorPage.maxOffset)
    (some' : 1 ≤ table.pageSize) (few : table.pageSize ≤ 100)
    (below : number * table.pageSize < 2 ^ 64) :
    (operatorServer clean rows (pageRequest table draw number)).data =
        (slice (sortedOperators clean rows (table.request.query .users)) (number * table.pageSize)
          table.pageSize).map operatorRow ∧
      (operatorServer clean rows (pageRequest table draw number)).recordsFiltered =
        (sortedOperators clean rows (table.request.query .users)).length := by
  have same : forall key, key ≠ "draw" -> (pageRequest table draw number).query .users key =
      pageQuery (table.request.query .users) table.pageSize number key :=
    fun key other => query_pageRequest .users table draw number other
  have searched : search clean ((pageRequest table draw number).query .users) =
      search clean (table.request.query .users) := by
    rw [← @search_pageQuery clean (table.request.query .users) table.pageSize number]
    simp only [Waf.search, same "search[value]" (by decide), same "search" (by decide)]
  have begins : parseQueryU64 ((pageRequest table draw number).query .users) "start" 0 =
      number * table.pageSize := by
    rw [← start_pageQuery (table.request.query .users) below, parseQueryU64,
      same "start" (by decide)]
    rfl
  have long : length ((pageRequest table draw number).query .users) = table.pageSize := by
    rw [← length_pageQuery (table.request.query .users) some' few number]
    simp only [length, parseQueryU64, same "length" (by decide)]
  have sorted := List.mergeSort_perm (rows.filter (OperatorPage.isListed
    (search clean (table.request.query .users))))
    fun first second => decide (first.idUser ≤ second.idUser)
  have short : (sortedOperators clean rows (table.request.query .users)).length ≤
      OperatorPage.maxOffset :=
    sorted.length_eq.trans_le ((List.length_filter_le _ _).trans small)
  unfold operatorServer apiOperators
  simp only [searched, begins, long, OperatorPage.page]
  refine ⟨?_, sorted.length_eq.symm⟩
  rw [← slice_min short]
  rfl

end

/-- Clicking through the table of the operators lists all that the search lets through, by their
numbers.  The button for the next page is disabled on the last page only. -/
theorem operators_browsed (clean : String -> String) {rows : List Operator}
    (small : rows.length ≤ OperatorPage.maxOffset) {pageSize : Nat} (some' : 1 ≤ pageSize)
    (few : pageSize ≤ 100) (events : List Event) :
    let serve := operatorServer clean rows
    let table := run serve (start OperatorRow .users pageSize) events
    let operators := sortedOperators clean rows (table.request.query .users)
    let pages := pageCount operators.length pageSize
    AtRest serve (start OperatorRow .users pageSize) events -> table.body ≠ .failed ->
    table.page = 1 ->
    ((List.range pages).flatMap fun number => (run serve table (clicks number)).lastRows) =
        operators.map operatorRow ∧
      forall number, number < pages ->
        (run serve table (clicks number)).nextDisabled = decide (number + 1 = pages) := by
  intro serve table operators pages atRest filled first
  have size : table.pageSize = pageSize := pageSize_run serve _ events
  have turned : Turned serve table table 0 :=
    turned_first atRest.answered (rest_shows serve .users pageSize events atRest) filled first
  have short : operators.length ≤ 100000 :=
    (List.mergeSort_perm _ _).length_eq.trans_le ((List.length_filter_le _ _).trans small)
  have covered : pages * pageSize ≤ operators.length + pageSize := pageCount_short _ some'
  have answer : forall draw number, number < pages ->
      (serve (pageRequest table draw number)).data =
          (slice operators (number * pageSize) pageSize).map operatorRow ∧
        (serve (pageRequest table draw number)).recordsFiltered = operators.length := by
    intro draw number within
    have below : number * table.pageSize < 2 ^ 64 := by
      have part : number * pageSize ≤ pages * pageSize :=
        Nat.mul_le_mul_right pageSize (Nat.le_of_lt within)
      rw [size]
      omega
    have page := @operatorServer_page clean rows table draw number small (size ▸ some')
      (size ▸ few) below
    rw [size] at page
    exact page
  have announces : forall draw number, number < pageCount operators.length table.pageSize ->
      announced (serve (pageRequest table draw number)) = operators.length := by
    intro draw number within
    rw [size] at within
    rcases answer draw number within with ⟨shownRows, counted⟩
    unfold announced
    rw [counted]
    split
    · rename_i empty
      rw [shownRows, List.length_map, List.length_eq_zero_iff.mp empty, slice, List.drop_nil,
        List.take_nil, List.length_nil]
    · rfl
  have eachPage : forall number, number < pages ->
      (run serve table (clicks number)).lastRows =
          (slice operators (number * pageSize) pageSize).map operatorRow ∧
        (run serve table (clicks number)).nextDisabled = decide (number + 1 = pages) := by
    intro number within
    have within' : number < pageCount operators.length table.pageSize := by
      rw [size]
      exact within
    rcases rows_clicks turned announces within' with ⟨-, shownRows, last⟩
    rw [shownRows, last, size]
    exact ⟨(answer _ number within).1, rfl⟩
  refine ⟨?_, fun number within => (eachPage number within).2⟩
  have whole : Sql.pages (fun _ => operators) pageSize pages = operators := by
    rw [pages_same, List.take_of_length_le (pageCount_cover _ some')]
  conv => rhs; rw [← whole]
  unfold Sql.pages
  rw [List.map_flatMap]
  apply List.flatMap_congr
  intro number member
  exact (eachPage number (List.mem_range.mp member)).1

end Operators

namespace Sample

open Waf Operators

/-- The page is loaded and then sorted by time. -/
def sortedByTime : List Event := [.answer 0, .sort "occurred_at", .answer 0]

theorem sortedByTime_inOrder : forall event, event ∈ sortedByTime -> event.InOrder := by
  intro event member
  rcases List.mem_cons.mp member with rfl | later
  · rfl
  · rcases List.mem_cons.mp later with rfl | last
    · trivial
    · rw [List.mem_singleton.mp last]
      rfl

/-- A database that gives the twins the later one first. -/
def laterFirst (_ : Nat) : WafDatabase := answering twins twins_unique twins.reverse

/-- The table of the twins, sorted by time, with pages of one row. -/
def twinTable : PagedTable AttackRow :=
  PagedTable.run (attackServer id laterFirst) (PagedTable.start AttackRow .attacks 1) sortedByTime

set_option maxRecDepth 10000 in
theorem twinTable_atRest :
    AtRest (attackServer id laterFirst) (PagedTable.start AttackRow .attacks 1) sortedByTime where
  inOrder := sortedByTime_inOrder
  quiet := by decide
  answered := by decide
  placed := by decide

set_option maxRecDepth 10000 in
theorem twins_served (draw : Nat) :
    Serves id (laterFirst draw) twins (twinTable.request.query .attacks) := by
  have listedTwins : listed id twins (twinTable.request.query .attacks) = twins := by decide
  constructor
  · rfl
  · rw [listedTwins]
    constructor
    · exact List.reverse_perm twins
    · change List.Pairwise (asked id (twinTable.request.query .attacks)) twins.reverse
      decide

set_option maxRecDepth 10000 in
/-- One click shows the other one of the twins. -/
theorem attacks_browsed_twins :
    ((List.range 2).flatMap fun number =>
      (PagedTable.run (attackServer id laterFirst) twinTable (clicks number)).lastRows).Perm
        (twins.map attackRow) := by
  have listedTwins : listed id twins (twinTable.request.query .attacks) = twins := by decide
  have browsed := (attacks_browsed id twins_unique (by decide) (Nat.le_refl 1) (by decide)
    laterFirst sortedByTime twinTable_atRest (by decide) (by decide) twins_served
    (Or.inl (by decide))).1
  change ((List.range (pageCount
      (listed id twins (twinTable.request.query .attacks)).length 1)).flatMap _).Perm
    ((listed id twins (twinTable.request.query .attacks)).map attackRow) at browsed
  rw [listedTwins] at browsed
  exact browsed

/-- At rest the table shows what its last request asked for. -/
theorem rest_shows_twins :
    twinTable.body = .failed ∨
      Shows twinTable (attackServer id laterFirst twinTable.lastRequest) :=
  rest_shows (attackServer id laterFirst) .attacks 1 sortedByTime twinTable_atRest

/-- Two operators on one page. -/
def colleagues : List Operator :=
  [⟨2, "bob", "bob@example.test", "operator", "", 0, 1, none, none, 0, 0⟩,
    ⟨1, "alice", "alice@example.test", "admin", "", 1, 1, none, none, 0, 0⟩]

/-- Their table, with pages of one row. -/
def colleagueTable : PagedTable OperatorRow :=
  PagedTable.run (operatorServer id colleagues) (PagedTable.start OperatorRow .users 1) [.answer 0]

set_option maxRecDepth 10000 in
/-- One click shows the other one of the two. -/
theorem operators_browsed_colleagues :
    ((List.range 2).flatMap fun number =>
      (PagedTable.run (operatorServer id colleagues) colleagueTable (clicks number)).lastRows) =
        (sortedOperators id colleagues (colleagueTable.request.query .users)).map operatorRow := by
  have only : forall event, event ∈ [Event.answer 0] -> event.InOrder := by
    intro event member
    rw [List.mem_singleton.mp member]
    rfl
  have loaded : AtRest (operatorServer id colleagues) (PagedTable.start OperatorRow .users 1)
      [.answer 0] := ⟨only, by decide, by decide, by decide⟩
  have browsed := (@operators_browsed id colleagues (by decide) 1 (Nat.le_refl 1) (by decide)
    [.answer 0] loaded (by decide) (by decide)).1
  have both : colleagues.filter (OperatorPage.isListed
      (search id (colleagueTable.request.query .users))) = colleagues := by decide
  have two : (sortedOperators id colleagues (colleagueTable.request.query .users)).length = 2 := by
    unfold sortedOperators
    rw [both, (List.mergeSort_perm _ _).length_eq]
    rfl
  change ((List.range (pageCount (sortedOperators id colleagues
    (colleagueTable.request.query .users)).length 1)).flatMap _) = _ at browsed
  rw [two] at browsed
  exact browsed

end Sample
end KrakenUi
