import KrakenUi.Controllers.Waf
import KrakenUi.Net.Numeral

namespace KrakenUi
namespace Waf

open Text Sql Pagination VulnerabilityRepository

/-!
# What the pages of the attacks table show

Every page is a query of its own, and the database may arrange the rows that
tie anew for each.  Sorted by time the key of the table breaks all ties.
Sorted by severity nothing does, and a group of findings of one severity and
one time that does not fit on a page may show one finding twice and another
one never.
-/

variable (clean : String -> String)

/-- The query for one page: a search and an order, with a start and a length. -/
def pageQuery (query : Query) (size page : Nat) : Query := fun key =>
  if key = "start" then some (Nat.repr (page * size))
  else if key = "length" then some (Nat.repr size)
  else query key

/-- The rows that a query is about. -/
def listed (rows : List Vulnerability) (query : Query) : List Vulnerability :=
  rows.filter (isListed (search clean query) (searchField clean query))

/-- The order that a query asks for. -/
def asked (query : Query) : Vulnerability -> Vulnerability -> Prop :=
  order (sort clean query) (descending clean query)

instance (query : Query) : DecidableRel (asked clean query) :=
  inferInstanceAs (DecidableRel (order (sort clean query) (descending clean query)))

/-- The database has these rows, and arranges the answer to the query as its order allows. -/
structure Serves (database : WafDatabase) (rows : List Vulnerability) (query : Query) : Prop where
  holds : database.rows = rows
  arranged : Arranged (asked clean query) (listed clean rows query)
    (database.arrange (asked clean query) (listed clean rows query))

/-- The rows that the pages show together, each page from a query of its own. -/
def shown (databases : Nat -> WafDatabase) (query : Query) (size count : Nat) : List AttackRow :=
  (List.range count).flatMap fun page =>
    (apiAttacks clean (some (databases page)) (pageQuery query size page)).2.data

/-- The pages show each matching row exactly once, and as many rows as each of them announces. -/
def ShowsEach (rows : List Vulnerability) (query : Query) (size : Nat) : Prop :=
  forall databases : Nat -> WafDatabase, (forall page, Serves clean (databases page) rows query) ->
    forall count, (listed clean rows query).length ≤ count * size -> count * size < 2 ^ 64 ->
      (shown clean databases query size count).Perm ((listed clean rows query).map attackRow) ∧
        forall page,
          (apiAttacks clean (some (databases page)) (pageQuery query size page)).2.recordsFiltered =
            (shown clean databases query size count).length

variable {clean}

/-! ## The parameters of a page -/

theorem parseQueryU64_repr {query : Query} {key : String} {fallback number : Nat}
    (given : query key = some (Nat.repr number)) (below : number < 2 ^ 64) :
    parseQueryU64 query key fallback = number := by
  have plain : trimChars (Nat.toDigits 10 number) = Nat.toDigits 10 number := by
    apply trimmed_keeps
    intro character member
    have digit := Net.Numeral.isHexDigit_of_mem (by decide) (by decide) number character member
    have visible : forall character, Net.Numeral.IsHexDigit character ->
        isWhitespace character = false := by
      unfold Net.Numeral.IsHexDigit
      decide
    exact visible character digit
  rw [parseQueryU64, given, Option.bind_some, Nat.toList_repr, plain,
    parseUnsigned_toDigits below, Option.getD_some]

theorem start_pageQuery (query : Query) {size page : Nat} (below : page * size < 2 ^ 64) :
    parseQueryU64 (pageQuery query size page) "start" 0 = page * size :=
  parseQueryU64_repr (if_pos rfl) below

theorem length_pageQuery (query : Query) {size : Nat} (some' : 1 ≤ size) (few : size ≤ 100)
    (page : Nat) : length (pageQuery query size page) = size := by
  have given : pageQuery query size page "length" = some (Nat.repr size) := by
    rw [pageQuery, if_neg (by decide), if_pos rfl]
  rw [length, parseQueryU64_repr given (by omega)]
  omega

/-- The search and the order are those of the whole table. -/
theorem pageQuery_other (query : Query) (size page : Nat) {key : String} (start : key ≠ "start")
    (length : key ≠ "length") : pageQuery query size page key = query key := by
  rw [pageQuery, if_neg start, if_neg length]

theorem search_pageQuery (query : Query) (size page : Nat) :
    search clean (pageQuery query size page) = search clean query := by
  rw [search, pageQuery_other query size page (by decide) (by decide),
    pageQuery_other query size page (by decide) (by decide)]
  rfl

theorem searchField_pageQuery (query : Query) (size page : Nat) :
    searchField clean (pageQuery query size page) = searchField clean query := by
  rw [searchField, pageQuery_other query size page (by decide) (by decide)]
  rfl

theorem asked_pageQuery (query : Query) (size page : Nat) :
    asked clean (pageQuery query size page) = asked clean query := by
  rw [asked, sort, descending, pageQuery_other query size page (by decide) (by decide),
    pageQuery_other query size page (by decide) (by decide)]
  rfl

/-! ## The rows of a page -/

theorem apiAttacks_page {database : WafDatabase} {rows : List Vulnerability} {query : Query}
    {size page : Nat} (serves : Serves clean database rows query)
    (small : rows.length ≤ maxOffset) (some' : 1 ≤ size) (few : size ≤ 100)
    (below : page * size < 2 ^ 64) :
    (apiAttacks clean (some database) (pageQuery query size page)).2.data =
      (slice (database.arrange (asked clean query) (listed clean rows query)) (page * size)
        size).map attackRow := by
  have short : (database.arrange (asked clean query) (listed clean rows query)).length ≤
      maxOffset := by
    rw [serves.arranged.perm.length_eq]
    exact (List.length_filter_le _ _).trans small
  have order : VulnerabilityRepository.order (sort clean (pageQuery query size page))
      (descending clean (pageQuery query size page)) = asked clean query :=
    asked_pageQuery query size page
  rw [← slice_min short]
  simp only [apiAttacks, VulnerabilityRepository.page, start_pageQuery query below,
    length_pageQuery query some' few, search_pageQuery, searchField_pageQuery, order, serves.holds]
  rfl

theorem recordsFiltered_page {database : WafDatabase} {rows : List Vulnerability} {query : Query}
    (serves : Serves clean database rows query) (size page : Nat) :
    (apiAttacks clean (some database) (pageQuery query size page)).2.recordsFiltered =
      (listed clean rows query).length := by
  simp only [apiAttacks, VulnerabilityRepository.page, search_pageQuery, searchField_pageQuery,
    serves.holds]
  rfl

/-- The answers to the queries of all pages. -/
def answers (clean : String -> String) (databases : Nat -> WafDatabase)
    (rows : List Vulnerability) (query : Query) (page : Nat) : List Vulnerability :=
  (databases page).arrange (asked clean query) (listed clean rows query)

theorem shown_eq_pages {databases : Nat -> WafDatabase} {rows : List Vulnerability}
    {query : Query} {size count : Nat}
    (serves : forall page, Serves clean (databases page) rows query)
    (small : rows.length ≤ maxOffset) (some' : 1 ≤ size) (few : size ≤ 100)
    (below : count * size < 2 ^ 64) :
    shown clean databases query size count =
      (pages (answers clean databases rows query) size count).map attackRow := by
  unfold shown pages
  rw [List.map_flatMap]
  apply List.flatMap_congr
  intro page member
  apply apiAttacks_page (serves page) small some' few
  have inside := List.mem_range.mp member
  exact Nat.lt_of_le_of_lt (Nat.mul_le_mul_right size (Nat.le_of_lt inside)) below

theorem listed_unique {rows : List Vulnerability} (unique : (rows.map Vulnerability.id).Nodup)
    (query : Query) : ((listed clean rows query).map Vulnerability.id).Nodup :=
  unique.sublist (List.filter_sublist.map _)

/-- A database that gives one answer. -/
def answering (rows : List Vulnerability) (unique : (rows.map Vulnerability.id).Nodup)
    (answer : List Vulnerability) : WafDatabase :=
  { rows := rows, unique := unique, arrange := fun _ _ => answer }

theorem showsEach_of_clean {rows : List Vulnerability} (small : rows.length ≤ maxOffset)
    {query : Query} {size : Nat} (some' : 1 ≤ size) (few : size ≤ 100)
    (noTie : forall page, Clean (asked clean query) (listed clean rows query) (page * size)) :
    ShowsEach clean rows query size := by
  intro databases serves count cover below
  have each : (pages (answers clean databases rows query) size count).Perm
      (listed clean rows query) :=
    pages_perm (ranks_order _ _) (fun page => (serves page).arranged) noTie cover
  rw [shown_eq_pages serves small some' few below]
  constructor
  · exact each.map attackRow
  · intro page
    rw [recordsFiltered_page (serves page), List.length_map, each.length_eq]

theorem clean_of_showsEach {rows : List Vulnerability}
    (unique : (rows.map Vulnerability.id).Nodup) (small : rows.length ≤ maxOffset)
    {query : Query} {size : Nat} (some' : 1 ≤ size) (few : size ≤ 100)
    (showsEach : ShowsEach clean rows query size) (page : Nat) :
    Clean (asked clean query) (listed clean rows query) (page * size) := by
  have keys := @listed_unique clean rows unique query
  have bound : (listed clean rows query).length ≤ maxOffset :=
    (List.length_filter_le _ _).trans small
  have cover : (listed clean rows query).length ≤ maxOffset * size :=
    bound.trans (Nat.le_mul_of_pos_right maxOffset some')
  have below : maxOffset * size < 2 ^ 64 := by
    unfold maxOffset
    omega
  apply (pages_perm_iff (ranks_order _ _) keys.of_map some' cover).mp
  intro answer arranged
  have serves : forall page, Serves clean (answering rows unique (answer page)) rows query :=
    fun page => ⟨rfl, arranged page⟩
  have each := (showsEach (fun page => answering rows unique (answer page)) serves maxOffset
    cover below).1
  rw [shown_eq_pages serves small some' few below] at each
  apply perm_of_keys keys
  · intro x member
    rcases mem_pages member with ⟨page, among⟩
    exact (arranged page).perm.mem_iff.mp among
  · have ids := each.map AttackRow.id
    rw [List.map_map, List.map_map] at ids
    exact ids

/-- The pages of a table show each matching row exactly once, whatever order the database
chooses for ties, exactly when it is sorted by time or no group of ties is cut by the end of a
page. -/
theorem paging_shows_each_iff (clean : String -> String) {rows : List Vulnerability}
    (unique : (rows.map Vulnerability.id).Nodup) (small : rows.length ≤ maxOffset)
    (query : Query) {size : Nat} (some' : 1 ≤ size) (few : size ≤ 100) :
    ShowsEach clean rows query size ↔
      sort clean query = .occurredAt ∨
        forall page, Clean (asked clean query) (listed clean rows query) (page * size) := by
  constructor
  · intro showsEach
    exact Or.inr (clean_of_showsEach unique small some' few showsEach)
  · rintro (byTime | noTie)
    · apply showsEach_of_clean small some' few
      intro page
      have keys := @listed_unique clean rows unique query
      apply clean_of_antisymm (ranks_order _ _) keys.of_map
      intro a among b member there back
      rw [byTime] at there back
      exact List.inj_on_of_nodup_map keys among member (order_occurredAt_antisymm there back)
    · exact showsEach_of_clean small some' few noTie

end Waf

namespace Sample

open Waf Sql VulnerabilityRepository

/-- A finding of high severity. -/
def finding (id : Int) (occurredAt requestUri : String) : Vulnerability :=
  { id := id
    title := "Credential stuffing attempt"
    severity := "high"
    cwe := "CWE-307"
    description := "Brute force"
    referenceUrl := ""
    occurredAt := occurredAt
    ruleMatch := "cmc::auth:brute"
    ruleLineMatch := ""
    clientIp := "203.0.113.7"
    country := "BR"
    continentName := "South America"
    httpMethod := "POST"
    requestUri := requestUri
    fullpathEvidence := ""
    engine := "cmc"
    requestPayload := ""
    requestId := "" }

/-- Two findings of one severity in one second. -/
def twins : List Vulnerability :=
  [finding 1 "2024-01-15 13:45:30" "/login", finding 2 "2024-01-15 13:45:30" "/admin"]

theorem twins_unique : (twins.map Vulnerability.id).Nodup := by decide

/-- A query without parameters: no search, and sorted by severity. -/
def plainQuery : Query := fun _ => none

/-- The same table, sorted by time. -/
def timeQuery : Query := fun key => if key = "sort" then some "occurred_at" else none

/-- Sorted by time, pages of one row show both. -/
theorem paging_shows_each_iff_time : ShowsEach id twins timeQuery 1 :=
  (paging_shows_each_iff id twins_unique (by decide) timeQuery (by decide) (by decide)).mpr
    (Or.inl (by decide))

/-- The database, as it arranges the twins for the first page and for the second. -/
def twinDatabases (page : Nat) : WafDatabase :=
  answering twins twins_unique (if page = 0 then twins else twins.reverse)

set_option maxRecDepth 10000 in
/-- Pages of one row show the first finding twice, and the second one never. -/
theorem finding_shown_twice :
    (forall page, Serves id (twinDatabases page) twins plainQuery) ∧
      (shown id twinDatabases plainQuery 1 2).map AttackRow.id = [1, 1] := by
  have listedTwins : listed id twins plainQuery = twins := by decide
  have inOrder : Arranged (asked id plainQuery) twins twins := by
    constructor
    · exact List.Perm.refl twins
    · decide
  have reversed : Arranged (asked id plainQuery) twins twins.reverse := by
    constructor
    · exact List.reverse_perm twins
    · decide
  constructor
  · intro page
    constructor
    · rfl
    · rw [listedTwins]
      change Arranged (asked id plainQuery) twins (if page = 0 then twins else twins.reverse)
      split
      · exact inOrder
      · exact reversed
  · decide

end Sample
end KrakenUi
