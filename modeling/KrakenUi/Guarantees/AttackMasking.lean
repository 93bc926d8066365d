import KrakenUi.Guarantees.AttackPaging
import KrakenUi.Guarantees.AttackSearch
import KrakenUi.Guarantees.Redaction

namespace KrakenUi
namespace Waf

open Text Sql Pagination VulnerabilityRepository

/-!
# What the attack console tells who may not see secrets

Two tables differ only in secrets when each finding of one stands in the other, with
the same metadata and with evidence that is masked to the same text.  The
page of a finding shows an operator or an auditor the same for both.  The table
of all findings does not mask: it returns the request URI as it was captured
and searches in it, whoever asks.
-/

/-- A finding without its evidence. -/
def metadata (row : Vulnerability) : Vulnerability :=
  { row with requestUri := "", fullpathEvidence := "", requestPayload := "" }

/-- The same finding, up to what masking hides of its evidence. -/
structure MaskedAlike (unicode : Redact.Unicode) (x y : Vulnerability) : Prop where
  metadata : metadata x = metadata y
  requestUri : Redact.redactSensitiveValues unicode x.requestUri =
    Redact.redactSensitiveValues unicode y.requestUri
  fullpathEvidence : Redact.redactSensitiveValues unicode x.fullpathEvidence =
    Redact.redactSensitiveValues unicode y.fullpathEvidence
  requestPayload : Redact.redactSensitiveValues unicode x.requestPayload =
    Redact.redactSensitiveValues unicode y.requestPayload

/-- The same table, up to what masking hides.  The databases break ties alike. -/
structure TablesAlike (unicode : Redact.Unicode) (first second : WafDatabase) : Prop where
  rows : List.Forall₂ (MaskedAlike unicode) first.rows second.rows
  arranged : forall sort descending xs ys, List.Forall₂ (MaskedAlike unicode) xs ys ->
    List.Forall₂ (MaskedAlike unicode) (first.arrange (order sort descending) xs)
      (second.arrange (order sort descending) ys)

/-- The database answers a query with the rows it is about, in the order it asks for. -/
def Orderly (database : WafDatabase) : Prop :=
  forall sort descending rows, rows.Sublist database.rows ->
    Arranged (order sort descending) rows (database.arrange (order sort descending) rows)

/-- The findings that a query lists on its page. -/
def onPage (clean : String -> String) (database : WafDatabase) (query : Query) :
    List Vulnerability :=
  slice (database.arrange (asked clean query) (listed clean database.rows query))
    (min (parseQueryU64 query "start" 0) maxOffset) (length query)

/-- Both handlers answer the session with the same data. -/
structure SeesSame (clean : String -> String) (unicode : Redact.Unicode) (times : TimeLibrary)
    (role : OperatorRole) (first second : WafDatabase) (query : Query) : Prop where
  view : viewWafRequest clean unicode times (some role) (some first) query =
    viewWafRequest clean unicode times (some role) (some second) query
  table : apiAttacks clean (some first) query = apiAttacks clean (some second) query

/-- The search matches as many findings, and each place of the page is taken by the same finding
with the same captured request URI. -/
structure ListsSame (clean : String -> String) (first second : WafDatabase) (query : Query) :
    Prop where
  matching : (listed clean first.rows query).length = (listed clean second.rows query).length
  page : (onPage clean first query).map (fun row => (row.id, row.requestUri)) =
    (onPage clean second query).map (fun row => (row.id, row.requestUri))

/-- No finding was captured with another request URI. -/
def SameUris (first second : WafDatabase) : Prop :=
  forall x, x ∈ first.rows -> forall y, y ∈ second.rows -> x.id = y.id ->
    x.requestUri = y.requestUri

variable {clean : String -> String} {unicode : Redact.Unicode} {times : TimeLibrary}
  {first second : WafDatabase} {query : Query}

/-! ## Findings that are alike -/

section

variable {x y : Vulnerability}

/-- A column that is no evidence. -/
theorem MaskedAlike.column {value : Type} {column : Vulnerability -> value} (alike : MaskedAlike unicode x y)
    (kept : forall row, column (Waf.metadata row) = column row) : column x = column y := by
  rw [← kept x, ← kept y, alike.metadata]

theorem MaskedAlike.id (alike : MaskedAlike unicode x y) : x.id = y.id :=
  alike.column fun _ => rfl

/-- The search only looks at one column of the evidence. -/
theorem MaskedAlike.columns (alike : MaskedAlike unicode x y) (same : x.requestUri = y.requestUri)
    {searchField : AttackSearchField} {column : Vulnerability -> String}
    (among : column ∈ searchField.columns) : column x = column y := by
  have searched : column = Vulnerability.requestUri ∨
      forall row, column (Waf.metadata row) = column row := by
    cases searchField <;>
      simp only [AttackSearchField.columns, List.mem_cons, List.not_mem_nil, or_false] at among <;>
      rcases among with rfl | rfl | rfl | rfl | rfl | rfl | rfl | rfl <;>
      first | exact Or.inl rfl | exact Or.inr fun _ => rfl
  rcases searched with rfl | kept
  · exact same
  · exact alike.column kept

theorem MaskedAlike.isListed (alike : MaskedAlike unicode x y) (same : x.requestUri = y.requestUri)
    (search : String) (searchField : AttackSearchField) :
    isListed search searchField x = isListed search searchField y := by
  have found : (searchField.columns.any fun column => isLike (likeContains search) (column x)) =
      searchField.columns.any fun column => isLike (likeContains search) (column y) := by
    rw [Bool.eq_iff_iff, List.any_eq_true, List.any_eq_true]
    constructor
    · rintro ⟨column, among, holds⟩
      exact ⟨column, among, by rw [← alike.columns same among]; exact holds⟩
    · rintro ⟨column, among, holds⟩
      exact ⟨column, among, by rw [alike.columns same among]; exact holds⟩
  unfold VulnerabilityRepository.isListed
  rw [found]

/-- The table tells findings apart by their request URI only. -/
theorem MaskedAlike.attackRow_iff (alike : MaskedAlike unicode x y) :
    attackRow x = attackRow y ↔ (x.id, x.requestUri) = (y.id, y.requestUri) := by
  constructor
  · intro same
    rw [alike.id]
    exact congrArg (fun row => (y.id, row.requestUri)) same
  · intro same
    have uri : x.requestUri = y.requestUri := congrArg Prod.snd same
    have other : attackRow (Waf.metadata x) = attackRow (Waf.metadata y) := by
      rw [alike.metadata]
    have restored : forall row, attackRow row =
        { attackRow (Waf.metadata row) with requestUri := row.requestUri } := fun _ => rfl
    rw [restored x, restored y, other, uri]

end

/-! ## Tables that are alike -/

section

variable {related other : Vulnerability -> Vulnerability -> Prop} {xs ys : List Vulnerability}

/-- Pairs may be related anew, knowing where they come from. -/
theorem forall₂_of_mem (pairs : List.Forall₂ related xs ys)
    (implies : forall x, x ∈ xs -> forall y, y ∈ ys -> related x y -> other x y) :
    List.Forall₂ other xs ys := by
  rcases List.forall₂_iff_zip.mp pairs with ⟨length, zipped⟩
  apply List.forall₂_iff_zip.mpr
  constructor
  · exact length
  · intro x y among
    rcases List.of_mem_zip among with ⟨xMember, yMember⟩
    exact implies x xMember y yMember (zipped among)

theorem exists_related (pairs : List.Forall₂ related xs ys) {x : Vulnerability} (member : x ∈ xs) :
    Exists fun y => y ∈ ys ∧ related x y := by
  induction pairs with
  | nil => cases member
  | cons head tail inductionHypothesis =>
      rcases List.mem_cons.mp member with rfl | later
      · exact ⟨_, List.mem_cons_self, head⟩
      · rcases inductionHypothesis later with ⟨y, yMember, holds⟩
        exact ⟨y, List.mem_cons_of_mem _ yMember, holds⟩

end

namespace TablesAlike

/-- Findings with one key are counterparts. -/
theorem alike (tables : TablesAlike unicode first second) {x y : Vulnerability}
    (xMember : x ∈ first.rows) (yMember : y ∈ second.rows) (same : x.id = y.id) :
    MaskedAlike unicode x y := by
  rcases exists_related tables.rows xMember with ⟨counterpart, member, alike⟩
  have equal : counterpart = y :=
    List.inj_on_of_nodup_map second.unique member yMember (alike.id.symm.trans same)
  rw [← equal]
  exact alike

/-- A key finds counterparts, or nothing in both tables. -/
theorem findById (tables : TablesAlike unicode first second) (id : Int) :
    Option.Rel (MaskedAlike unicode) (findById first id) (findById second id) := by
  unfold VulnerabilityRepository.findById
  have pairs := tables.rows
  generalize first.rows = xs at pairs ⊢
  generalize second.rows = ys at pairs ⊢
  induction pairs with
  | nil => exact Option.Rel.none
  | @cons x y xs ys head tail inductionHypothesis =>
      by_cases chosen : x.id = id
      · have alsoChosen : y.id = id := head.id.symm.trans chosen
        simp only [List.find?_cons, chosen, alsoChosen, decide_true]
        exact Option.Rel.some head
      · have passed : y.id ≠ id := fun same => chosen (head.id.trans same)
        simp only [List.find?_cons, chosen, passed, decide_false]
        exact inductionHypothesis

end TablesAlike

/-! ## The page of a finding -/

/-- The page of a finding, as it writes evidence out. -/
def detail (times : TimeLibrary) (reveal : String -> String) (attack : Vulnerability) :
    ViewWafRequestTemplate :=
  { attackId := attack.id
    title := attack.title
    severityClass := severityClass attack.severity
    severity := attack.severity
    cwe := attack.cwe
    description := attack.description
    referenceUrl := attack.referenceUrl
    occurredAt := humanizeTimestamp times attack.occurredAt
    ruleMatch := attack.ruleMatch
    ruleLineMatch := attack.ruleLineMatch
    clientIp := attack.clientIp
    requestUri := reveal attack.requestUri
    fullpathEvidence := reveal attack.fullpathEvidence
    requestPayload := reveal attack.requestPayload }

theorem detail_alike {x y : Vulnerability} (alike : MaskedAlike unicode x y) :
    detail times (Redact.redactSensitiveValues unicode) x =
      detail times (Redact.redactSensitiveValues unicode) y := by
  have title : x.title = y.title := alike.column fun _ => rfl
  have severity : x.severity = y.severity := alike.column fun _ => rfl
  have cwe : x.cwe = y.cwe := alike.column fun _ => rfl
  have description : x.description = y.description := alike.column fun _ => rfl
  have referenceUrl : x.referenceUrl = y.referenceUrl := alike.column fun _ => rfl
  have occurredAt : x.occurredAt = y.occurredAt := alike.column fun _ => rfl
  have ruleMatch : x.ruleMatch = y.ruleMatch := alike.column fun _ => rfl
  have ruleLineMatch : x.ruleLineMatch = y.ruleLineMatch := alike.column fun _ => rfl
  have clientIp : x.clientIp = y.clientIp := alike.column fun _ => rfl
  unfold detail
  rw [alike.id, title, severity, cwe, description, referenceUrl, occurredAt, ruleMatch,
    ruleLineMatch, clientIp, alike.requestUri, alike.fullpathEvidence, alike.requestPayload]

/-- Without an administrator the page of a finding shows counterparts alike. -/
theorem view_same (tables : TablesAlike unicode first second) {role : OperatorRole}
    (unprivileged : role ≠ .admin) (query : Query) :
    viewWafRequest clean unicode times (some role) (some first) query =
      viewWafRequest clean unicode times (some role) (some second) query := by
  have masks : isAdmin (some role) = false := decide_eq_false unprivileged
  unfold viewWafRequest
  rw [masks]
  dsimp only
  split
  · rfl
  · rename_i id _
    have found := tables.findById id
    generalize findById first id = left at found ⊢
    generalize findById second id = right at found ⊢
    cases found with
    | none => rfl
    | some alike => exact congrArg Except.ok (detail_alike alike)

/-! ## The table of all findings -/

theorem mem_onPage (orderly : Orderly first) {row : Vulnerability}
    (member : row ∈ onPage clean first query) : row ∈ first.rows := by
  have answered := List.mem_of_mem_drop (List.mem_of_mem_take member)
  have among := (orderly _ _ _ List.filter_sublist).perm.mem_iff.mp answered
  exact (List.mem_filter.mp among).1

/-- Rows of counterparts are the same when their keys and their request URIs are. -/
theorem attackRows_iff (tables : TablesAlike unicode first second) {xs ys : List Vulnerability}
    (left : forall x, x ∈ xs -> x ∈ first.rows) (right : forall y, y ∈ ys -> y ∈ second.rows) :
    xs.map attackRow = ys.map attackRow ↔
      xs.map (fun row => (row.id, row.requestUri)) =
        ys.map (fun row => (row.id, row.requestUri)) := by
  induction xs generalizing ys with
  | nil => simp
  | cons x xs inductionHypothesis =>
      cases ys with
      | nil => simp
      | cons y ys =>
          have rest := inductionHypothesis
            (fun other member => left other (List.mem_cons_of_mem x member))
            (fun other member => right other (List.mem_cons_of_mem y member))
          have here : attackRow x = attackRow y ↔ (x.id, x.requestUri) = (y.id, y.requestUri) := by
            by_cases counterparts : x.id = y.id
            · exact (tables.alike (left x List.mem_cons_self) (right y List.mem_cons_self)
                counterparts).attackRow_iff
            · constructor
              · intro same
                exact absurd (congrArg AttackRow.id same) counterparts
              · intro same
                exact absurd (congrArg Prod.fst same) counterparts
          rw [List.map_cons, List.map_cons, List.map_cons, List.map_cons, List.cons.injEq,
            List.cons.injEq, rest, here]

/-- The table is the same for both when the findings on the page are. -/
theorem table_same_iff (tables : TablesAlike unicode first second) (orderly : Orderly first)
    (orderly' : Orderly second) (query : Query) :
    apiAttacks clean (some first) query = apiAttacks clean (some second) query ↔
      ListsSame clean first second query := by
  have answer : forall database : WafDatabase, apiAttacks clean (some database) query =
      (200,
        { draw := parseQueryU64 query "draw" 1
          recordsTotal := database.rows.length
          recordsFiltered := (listed clean database.rows query).length
          data := (onPage clean database query).map attackRow }) := fun _ => rfl
  have left : forall x, x ∈ onPage clean first query -> x ∈ first.rows :=
    fun _ member => mem_onPage orderly member
  have right : forall y, y ∈ onPage clean second query -> y ∈ second.rows :=
    fun _ member => mem_onPage orderly' member
  have rows := attackRows_iff tables left right
  rw [answer first, answer second, tables.rows.length_eq]
  constructor
  · intro same
    have parts := (PageResponse.mk.injEq _ _ _ _ _ _ _ _).mp (congrArg Prod.snd same)
    exact ⟨parts.2.2.1, rows.mp parts.2.2.2⟩
  · intro lists
    rw [lists.matching, rows.mpr lists.page]

/-- For one query the session sees the same exactly when the table does. -/
theorem sees_same_query (tables : TablesAlike unicode first second) (orderly : Orderly first)
    (orderly' : Orderly second) {role : OperatorRole} (unprivileged : role ≠ .admin)
    (query : Query) :
    SeesSame clean unicode times role first second query ↔ ListsSame clean first second query := by
  constructor
  · intro sees
    exact (table_same_iff tables orderly orderly' query).mp sees.table
  · intro lists
    exact ⟨view_same tables unprivileged query,
      (table_same_iff tables orderly orderly' query).mpr lists⟩

/-! ## All queries together -/

/-- Tables with the same request URIs are listed alike by every query. -/
theorem listsSame_of_sameUris (tables : TablesAlike unicode first second)
    (orderly : Orderly first) (orderly' : Orderly second) (same : SameUris first second)
    (query : Query) : ListsSame clean first second query := by
  have pairs : List.Forall₂ (fun x y => MaskedAlike unicode x y ∧ x.requestUri = y.requestUri)
      first.rows second.rows := by
    apply forall₂_of_mem tables.rows
    intro x xMember y yMember alike
    exact ⟨alike, same x xMember y yMember alike.id⟩
  have listings : List.Forall₂ (MaskedAlike unicode) (listed clean first.rows query)
      (listed clean second.rows query) := by
    have kept := List.rel_filter (p := isListed (search clean query) (searchField clean query))
      (q := isListed (search clean query) (searchField clean query)) (fun x y holds => by
        dsimp only
        rw [holds.1.isListed holds.2]) pairs
    exact kept.imp fun _ _ holds => holds.1
  constructor
  · exact listings.length_eq
  · have answers := tables.arranged (sort clean query) (descending clean query) _ _ listings
    have pages : List.Forall₂ (MaskedAlike unicode) (onPage clean first query) (onPage clean second query) :=
      List.forall₂_take _ (List.forall₂_drop _ answers)
    have keys : List.Forall₂ (fun left right : Int × String => left = right)
        ((onPage clean first query).map fun row => (row.id, row.requestUri))
        ((onPage clean second query).map fun row => (row.id, row.requestUri)) := by
      rw [List.forall₂_map_left_iff, List.forall₂_map_right_iff]
      apply forall₂_of_mem pages
      intro x xMember y yMember alike
      rw [alike.id, same x (mem_onPage orderly xMember) y (mem_onPage orderly' yMember) alike.id]
    rw [List.forall₂_eq_eq_eq] at keys
    exact keys

/-- The query for the page that begins at a place of the whole table. -/
def placeQuery (place : Nat) : Query := fun key =>
  if key = "start" then some (Nat.repr place) else none

theorem onPage_placeQuery (orderly : Orderly first) {place : Nat} (below : place < 2 ^ 64)
    (small : first.rows.length ≤ maxOffset) :
    onPage clean first (placeQuery place) =
      slice (first.arrange (order .severity true) first.rows) place 50 := by
  have start : parseQueryU64 (placeQuery place) "start" 0 = place :=
    parseQueryU64_repr (if_pos rfl) below
  have all : listed clean first.rows (placeQuery place) = first.rows := by
    apply List.filter_eq_self.mpr
    intro row _
    rfl
  have short : (first.arrange (order .severity true) first.rows).length ≤ maxOffset := by
    rw [(orderly _ _ _ (List.Sublist.refl _)).perm.length_eq]
    exact small
  have sorted : asked clean (placeQuery place) = order .severity true := rfl
  have size : length (placeQuery place) = 50 := rfl
  unfold onPage
  rw [all, start, sorted, size, slice_min short]

theorem sameUris_of_listsSame (tables : TablesAlike unicode first second)
    (orderly : Orderly first) (orderly' : Orderly second)
    (small : first.rows.length ≤ maxOffset)
    (lists : forall query, ListsSame clean first second query) : SameUris first second := by
  intro x xMember y yMember same
  have small' : second.rows.length ≤ maxOffset := by
    rw [← tables.rows.length_eq]
    exact small
  have stands := (orderly .severity true first.rows (List.Sublist.refl _)).perm.mem_iff.mpr xMember
  rcases List.mem_iff_getElem.mp stands with ⟨place, inside, found⟩
  have below : place < 2 ^ 64 := by
    rw [(orderly _ _ _ (List.Sublist.refl _)).perm.length_eq] at inside
    unfold maxOffset at small
    omega
  have pages := (lists (placeQuery place)).page
  rw [onPage_placeQuery orderly below small, onPage_placeQuery orderly' below small'] at pages
  have heads := congrArg (fun rows : List (Int × String) => rows[0]?) pages
  simp only [slice, List.getElem?_map, List.getElem?_take_of_lt (Nat.zero_lt_succ 49),
    List.getElem?_drop, Nat.add_zero, List.getElem?_eq_getElem inside, found,
    Option.map_some] at heads
  rcases Option.map_eq_some_iff.mp heads.symm with ⟨z, shown, keys⟩
  have zMember : z ∈ second.rows :=
    (orderly' .severity true second.rows (List.Sublist.refl _)).perm.mem_iff.mp
      (List.mem_of_getElem? shown)
  have counterpart : z = y :=
    List.inj_on_of_nodup_map second.unique zMember yMember ((congrArg Prod.fst keys).trans same)
  rw [← counterpart]
  exact (congrArg Prod.snd keys).symm

/-- An operator or an auditor sees the same of two tables that differ in secrets, for one query,
exactly when the table lists the same findings with the same captured request URIs; for all
queries, exactly when no finding was captured with another one. -/
theorem masked_alike_iff (clean : String -> String) (unicode : Redact.Unicode)
    (times : TimeLibrary) {role : OperatorRole} (unprivileged : role ≠ .admin)
    {first second : WafDatabase} (tables : TablesAlike unicode first second)
    (orderly : Orderly first) (orderly' : Orderly second) :
    (forall query, SeesSame clean unicode times role first second query ↔
        ListsSame clean first second query) ∧
      (SameUris first second -> forall query,
        SeesSame clean unicode times role first second query) ∧
      (first.rows.length ≤ maxOffset ->
        (forall query, SeesSame clean unicode times role first second query) ->
          SameUris first second) := by
  have each : forall query, SeesSame clean unicode times role first second query ↔
      ListsSame clean first second query :=
    fun query => sees_same_query tables orderly orderly' unprivileged query
  refine ⟨each, ?_, ?_⟩
  · intro same query
    exact (each query).mpr (listsSame_of_sameUris tables orderly orderly' same query)
  · intro small sees
    exact sameUris_of_listsSame tables orderly orderly' small fun query =>
      (each query).mp (sees query)

end Waf

namespace Sample

open Waf Sql VulnerabilityRepository

/-- A finding with evidence. -/
def captured (requestUri requestPayload : String) : Vulnerability :=
  { finding 1 "2024-01-15 13:45:30" requestUri with requestPayload := requestPayload }

theorem single_orderly (row : Vulnerability) : Orderly (single row) := by
  intro sort descending rows part
  constructor
  · exact List.Perm.refl rows
  · exact (List.pairwise_singleton _ row).sublist part

theorem single_alike {x y : Vulnerability} (alike : MaskedAlike ascii x y) :
    TablesAlike ascii (single x) (single y) := by
  constructor
  · exact List.Forall₂.cons alike List.Forall₂.nil
  · intro sort descending xs ys pairs
    exact pairs

/-- A time library that reads no form. -/
def noTimes : TimeLibrary := ⟨fun _ => none, fun _ => none, fun _ => none⟩

set_option maxRecDepth 10000 in
/-- Two tokens are masked to the same text. -/
theorem tokens_masked : Redact.redactSensitiveValues ascii "/login?token=A" =
    Redact.redactSensitiveValues ascii "/login?token=B" := by
  unfold Redact.redactSensitiveValues
  rw [Redact.redactChars_eq_write, Redact.redactChars_eq_write]
  decide

/-- Tokens in the payload are told apart by no query. -/
theorem masked_alike_payloads :
    SameUris (single (captured "/login" "/login?token=A"))
        (single (captured "/login" "/login?token=B")) ∧
      forall query, SeesSame id ascii noTimes .auditor (single (captured "/login" "/login?token=A"))
        (single (captured "/login" "/login?token=B")) query := by
  have alike : MaskedAlike ascii (captured "/login" "/login?token=A")
      (captured "/login" "/login?token=B") := ⟨rfl, rfl, rfl, tokens_masked⟩
  have same : SameUris (single (captured "/login" "/login?token=A"))
      (single (captured "/login" "/login?token=B")) := by
    intro x xMember y yMember _
    rw [List.mem_singleton.mp xMember, List.mem_singleton.mp yMember]
    rfl
  exact ⟨same, (masked_alike_iff id ascii noTimes (by decide) (single_alike alike)
    (single_orderly _) (single_orderly _)).2.1 same⟩

/-- Tokens in the request URI are told apart by the table. -/
theorem token_listed :
    ¬ forall role : OperatorRole, role ≠ .admin -> forall first second,
      TablesAlike ascii first second -> Orderly first -> Orderly second ->
      forall query, SeesSame id ascii noTimes role first second query := by
  intro hidden
  have alike : MaskedAlike ascii (captured "/login?token=A" "") (captured "/login?token=B" "") :=
    ⟨rfl, tokens_masked, rfl, rfl⟩
  have sees := hidden .auditor (by decide) _ _ (single_alike alike) (single_orderly _)
    (single_orderly _) plainQuery
  have rows := congrArg (fun answer => answer.2.data.map AttackRow.requestUri) sees.table
  revert rows
  decide

end Sample
end KrakenUi
