import KrakenUi.Models.Operator
import KrakenUi.Models.VulnerabilityRepository
import KrakenUi.Security.Redact

namespace KrakenUi

open Text

/-!
# The attack console

The page of one finding and the table of all of them.  Both are shown to every
role; the page masks secrets for everyone but an administrator.
-/

/-- The parameters of a request. -/
abbrev Query := String -> Option String

namespace Pagination

/-- The envelope of every paginated table. -/
structure PageResponse (α : Type) where
  draw : Nat
  recordsTotal : Nat
  recordsFiltered : Nat
  data : List α
  deriving DecidableEq

def parseQueryU64 (query : Query) (key : String) (fallback : Nat) : Nat :=
  ((query key).bind fun value => parseUnsigned (2 ^ 64) (trimChars value.toList)).getD fallback

end Pagination

namespace Waf

open Pagination

structure AttackRow where
  id : Int
  severity : String
  title : String
  clientIp : String
  requestUri : String
  ruleMatch : String
  occurredAt : String
  country : String
  deriving DecidableEq

def attackRow (item : Vulnerability) : AttackRow :=
  { id := item.id
    severity := item.severity
    title := item.title
    clientIp := item.clientIp
    requestUri := item.requestUri
    ruleMatch := item.ruleMatch
    occurredAt := item.occurredAt
    country := item.country }

structure ViewWafRequestTemplate where
  attackId : Int
  title : String
  severityClass : String
  severity : String
  cwe : String
  description : String
  referenceUrl : String
  occurredAt : String
  ruleMatch : String
  ruleLineMatch : String
  clientIp : String
  requestUri : String
  fullpathEvidence : String
  requestPayload : String
  deriving DecidableEq

/-- A refusal: the status and the text. -/
structure Refusal where
  status : Nat
  message : String
  deriving DecidableEq

/-- The colour of a severity. -/
def severityClass (severity : String) : String :=
  match toAsciiLowercase (trim severity) with
  | "low" => "sev-low"
  | "medium" => "sev-medium"
  | "high" => "sev-high"
  | "critical" => "sev-critical"
  | _ => "sev-unknown"

/-- The time library: a text in one of three forms, written out for a reader. -/
structure TimeLibrary where
  rfc3339 : String -> Option String
  spaced : String -> Option String
  withT : String -> Option String

def humanizeTimestamp (times : TimeLibrary) (raw : String) : String :=
  let trimmed := trim raw
  if isEmpty trimmed then ""
  else
    (((times.rfc3339 trimmed).or (times.spaced trimmed)).or (times.withT trimmed)).getD trimmed

/-- `auth::is_admin`, for the role of the session. -/
def isAdmin (role : Option OperatorRole) : Bool :=
  role.any OperatorRole.canAdminister

section

variable (clean : String -> String)

def viewWafRequest (unicode : Redact.Unicode) (times : TimeLibrary) (role : Option OperatorRole)
    (database : Option WafDatabase) (query : Query) : Except Refusal ViewWafRequestTemplate :=
  let revealSecrets := isAdmin role
  let id := ((query "id").bind fun value => parseI32 (Sanitize.plainText clean value)).filter
    fun id => 0 < id
  match id with
  | none => .error { status := 400, message := "Invalid attack ID" }
  | some id =>
      match database with
      | none =>
          .error
            { status := 503
              message := "The WAF database configured in db-waf-alerts is not available." }
      | some database =>
          match VulnerabilityRepository.findById database id with
          | none => .error { status := 404, message := "Attack not found" }
          | some attack =>
              let reveal := fun value : String =>
                if revealSecrets then value else Redact.redactSensitiveValues unicode value
              .ok
                { attackId := attack.id
                  title := attack.title
                  severityClass := severityClass attack.severity
                  severity := attack.severity
                  cwe := attack.cwe
                  description := attack.description
                  referenceUrl := attack.referenceUrl
                  occurredAt := humanizeTimestamp times attack.occurredAt
                  ruleMatch := attack.ruleMatch
                  ruleLineMatch := attack.ruleLineMatch
                  clientIp := attack.clientIp
                  requestUri := reveal attack.requestUri
                  fullpathEvidence := reveal attack.fullpathEvidence
                  requestPayload := reveal attack.requestPayload }

/-! ## The parameters of the table -/

def length (query : Query) : Nat :=
  min (max (parseQueryU64 query "length" 50) 1) 100

def search (query : Query) : String :=
  (((query "search[value]").or (query "search")).map (Sanitize.plainText clean)).getD ""

def searchField (query : Query) : AttackSearchField :=
  ((query "search_field").map (Sanitize.plainText clean)).elim .all AttackSearchField.fromToken

def sort (query : Query) : AttackSort :=
  ((query "sort").map (Sanitize.plainText clean)).elim .severity AttackSort.fromToken

/-- Without a direction the order is descending. -/
def descending (query : Query) : Bool :=
  ((query "order").map (Sanitize.plainText clean)).all fun value => value != "asc"

/-- The page of the table, or the status of its absence. -/
def apiAttacks (database : Option WafDatabase) (query : Query) : Nat × PageResponse AttackRow :=
  match database with
  | none => (503, { draw := 1, recordsTotal := 0, recordsFiltered := 0, data := [] })
  | some database =>
      let page := VulnerabilityRepository.page database (parseQueryU64 query "start" 0)
        (length query) (search clean query) (searchField clean query) (sort clean query)
        (descending clean query)
      (200,
        { draw := parseQueryU64 query "draw" 1
          recordsTotal := page.recordsTotal
          recordsFiltered := page.recordsFiltered
          data := page.vulnerabilities.map attackRow })

end

end Waf
end KrakenUi
