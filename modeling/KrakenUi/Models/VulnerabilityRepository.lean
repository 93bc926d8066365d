import KrakenUi.Security.Sanitize
import KrakenUi.Sql.Grouping
import KrakenUi.Sql.Like
import Mathlib.Data.String.Basic

namespace KrakenUi

open Text Sql

/-!
# The findings of the firewall

The table that the firewall writes and the console only reads, and the queries
of its repository.  What a database may choose is the order of rows that tie.
-/

/-- A row of `vulnerabilities`. -/
structure Vulnerability where
  id : Int
  title : String
  severity : String
  cwe : String
  description : String
  referenceUrl : String
  occurredAt : String
  ruleMatch : String
  ruleLineMatch : String
  clientIp : String
  country : String
  continentName : String
  httpMethod : String
  requestUri : String
  fullpathEvidence : String
  engine : String
  requestPayload : String
  requestId : String
  deriving DecidableEq

/-- An open database: the rows, by their primary key, and how it arranges the rows of a query with
an `ORDER BY` clause. -/
structure WafDatabase where
  rows : List Vulnerability
  unique : (rows.map Vulnerability.id).Nodup
  arrange : (Vulnerability -> Vulnerability -> Prop) -> List Vulnerability -> List Vulnerability

/-- The column that a search is restricted to. -/
inductive AttackSearchField where
  | all
  | id
  | title
  | clientIp
  | requestUri
  | ruleMatch
  | occurredAt
  | country
  deriving DecidableEq

inductive AttackSort where
  | severity
  | occurredAt
  deriving DecidableEq

namespace AttackSearchField

/-- An unknown token searches every column. -/
def fromToken (value : String) : AttackSearchField :=
  match toAsciiLowercase (trim value) with
  | "id" => id
  | "title" => title
  | "client_ip" => clientIp
  | "request_uri" => requestUri
  | "rule_match" => ruleMatch
  | "occurred_at" => occurredAt
  | "country" => country
  | _ => all

/-- The columns that `LIKE` is asked of, as text. -/
def columns : AttackSearchField -> List (Vulnerability -> String)
  | all =>
      [fun row => toString row.id, Vulnerability.title, Vulnerability.clientIp,
        Vulnerability.requestUri, Vulnerability.ruleMatch, Vulnerability.occurredAt,
        Vulnerability.country, Vulnerability.severity]
  | id => [fun row => toString row.id]
  | title => [Vulnerability.title]
  | clientIp => [Vulnerability.clientIp]
  | requestUri => [Vulnerability.requestUri]
  | ruleMatch => [Vulnerability.ruleMatch]
  | occurredAt => [Vulnerability.occurredAt]
  | country => [Vulnerability.country]

end AttackSearchField

namespace AttackSort

def fromToken (value : String) : AttackSort :=
  match toAsciiLowercase (trim value) with
  | "occurred_at" => occurredAt
  | _ => severity

end AttackSort

namespace VulnerabilityRepository

/-- The upper bound on the offset of a page. -/
def maxOffset : Nat := 100000

/-- `like_contains`. -/
def likeContains (search : String) : List Char :=
  '%' :: (Sanitize.escapeLikeChars search.toList ++ ['%'])

/-- The `LIKE` of one column, with the escape character that `like_contains` names. -/
def isLike (pattern : List Char) (value : String) : Bool :=
  like '\\' false pattern value.toList

/-- The condition on a row.  Without a search text there is none. -/
def isListed (search : String) (searchField : AttackSearchField) (row : Vulnerability) : Bool :=
  isEmpty search ||
    searchField.columns.any fun column => isLike (likeContains search) (column row)

/-- The rank of a severity in the clause that sorts by it. -/
def severityRank (row : Vulnerability) : Nat :=
  match toAsciiLowercase row.severity with
  | "critical" => 4
  | "high" => 3
  | "medium" => 2
  | "low" => 1
  | _ => 0

/-- The `ORDER BY` clause. -/
def order (sort : AttackSort) (descending : Bool) : Vulnerability -> Vulnerability -> Prop :=
  match sort with
  | .severity => orderBy [column severityRank descending, column Vulnerability.occurredAt true]
  | .occurredAt => orderBy [column Vulnerability.occurredAt descending, column Vulnerability.id true]

structure Page where
  recordsTotal : Nat
  recordsFiltered : Nat
  vulnerabilities : List Vulnerability

def page (database : WafDatabase) (start length : Nat) (search : String)
    (searchField : AttackSearchField) (sort : AttackSort) (descending : Bool) : Page :=
  let listed := database.rows.filter (isListed search searchField)
  { recordsTotal := database.rows.length
    recordsFiltered := listed.length
    vulnerabilities :=
      slice (database.arrange (order sort descending) listed) (min start maxOffset) length }

def findById (database : WafDatabase) (id : Int) : Option Vulnerability :=
  database.rows.find? fun row => row.id = id

/-! ## The charts -/

/-- How the database arranges groups by their size. -/
structure GroupArrangement where
  arrange : List (String × Nat) -> List (String × Nat)
  arranged : forall groups, Arranged (column Prod.snd true) groups (arrange groups)

/-- The order in which a hash table hands out its entries. -/
structure Iteration where
  order : List (String × Nat) -> List (String × Nat)
  perm : forall entries, (order entries).Perm entries

/-- `aggregate_column`. -/
def aggregateColumn (database : WafDatabase) (arrangement : GroupArrangement)
    (label : Vulnerability -> String) (limit : Nat) : List (String × Nat) :=
  let labels := (database.rows.map label).filter fun value => value ≠ ""
  (arrangement.arrange (groups labels)).take limit

def topCountries (database : WafDatabase) (arrangement : GroupArrangement) (limit : Nat) :
    List (String × Nat) :=
  aggregateColumn database arrangement Vulnerability.country limit

def topClientIps (database : WafDatabase) (arrangement : GroupArrangement) (limit : Nat) :
    List (String × Nat) :=
  aggregateColumn database arrangement Vulnerability.clientIp limit

/-- The module that a match of a CMC rule names. -/
def cmcModule (ruleMatch : String) : String :=
  if "cmc::".toList.isPrefixOf ruleMatch.toList then
    match (ruleMatch.toList.drop 5).takeWhile (· != ':') with
    | [] => "unknown"
    | first => String.ofList first
  else "unknown"

/-- More findings come first, and equal numbers by name. -/
def chartOrder : String × Nat -> String × Nat -> Prop :=
  orderBy [column Prod.snd true, column Prod.fst false]

instance : DecidableRel chartOrder := fun _ _ =>
  inferInstanceAs (Decidable (_ ∧ (_ -> _ ∧ (_ -> True))))

def cmcModuleCounts (database : WafDatabase) (iteration : Iteration) : List (String × Nat) :=
  let ruleMatches := (database.rows.filter fun row => row.engine = "cmc").map
    Vulnerability.ruleMatch
  (iteration.order (entries (tally (ruleMatches.map cmcModule)))).insertionSort chartOrder

/-! ## The order of a page -/

instance (sort : AttackSort) (descending : Bool) : DecidableRel (order sort descending) := by
  intro a b
  cases sort <;> cases descending <;>
    exact inferInstanceAs (Decidable (_ ∧ (_ -> _ ∧ (_ -> True))))

theorem ranks_order (sort : AttackSort) (descending : Bool) : Ranks (order sort descending) := by
  cases sort with
  | severity =>
      apply Ranks.orderBy
      intro term member
      rcases List.mem_cons.mp member with rfl | later
      · exact Ranks.column severityRank descending
      · rw [List.mem_singleton.mp later]
        exact Ranks.column Vulnerability.occurredAt true
  | occurredAt =>
      apply Ranks.orderBy
      intro term member
      rcases List.mem_cons.mp member with rfl | later
      · exact Ranks.column Vulnerability.occurredAt descending
      · rw [List.mem_singleton.mp later]
        exact Ranks.column Vulnerability.id true

/-- In the order by time no two rows tie: the key decides. -/
theorem order_occurredAt_antisymm {descending : Bool} {a b : Vulnerability}
    (there : order .occurredAt descending a b) (back : order .occurredAt descending b a) :
    a.id = b.id := by
  have first := (there.2 back.1).1
  have second := (back.2 there.1).1
  exact le_antisymm second first

/-! ## The search -/

theorem escapeLikeChars_eq_quote (text : List Char) :
    Sanitize.escapeLikeChars text = quote '\\' text := by
  induction text with
  | nil => rfl
  | cons character text inductionHypothesis =>
      rw [Sanitize.escapeLikeChars, inductionHypothesis, quote_cons]
      split
      · rfl
      · rfl

/-- A search text is found where it occurs, wildcards and all. -/
theorem isLike_likeContains (search value : String) :
    isLike (likeContains search) value = true ↔ Occurs search.toList value.toList := by
  rw [isLike, likeContains, escapeLikeChars_eq_quote]
  exact like_contains (by decide) search.toList value.toList

end VulnerabilityRepository
end KrakenUi
