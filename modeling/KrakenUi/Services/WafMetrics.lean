import KrakenUi.Text
import Mathlib.Data.List.Basic

namespace KrakenUi
namespace WafMetrics

open Text

/-!
# Metrics of the firewall

The text that the firewall answers is read line by line.  Numbers are of a type
`F` with the functions of the standard library on it as parameters.
-/

structure FloatType (F : Type) where
  /-- `str::parse::<f64>`. -/
  parse : List Char -> Option F
  zero : F
  /-- `f64::total_cmp`. -/
  totalCmp : F -> F -> Ordering

structure ModuleMetric (F : Type) where
  engine : String
  module' : String
  value : F

structure WafMetricsSnapshot (F : Type) where
  requestsInspected : F
  requestsBlocked : F
  rateLimitHits : F
  redisRateLimitFailopen : F
  redisRateLimitFailclosed : F
  traceparentForwarded : F
  traceparentGenerated : F
  requestDurationCount : F
  requestDurationSum : F
  moduleBlocks : List (ModuleMetric F)

/-- Keys and values; a later pair replaces an earlier one with its key. -/
def parseLabels (input : List Char) : List (List Char × List Char) :=
  (input.splitOn ',').filterMap fun pair =>
    (splitOnce '=' pair).map fun parts =>
      (trimChars parts.1, trimMatches '"' (trimChars parts.2))

def label (labels : List (List Char × List Char)) (key : String) : Option (List Char) :=
  labels.reverse.lookup key.toList

section Parsing

variable {F : Type} (float : FloatType F)

/-- The scalars, the last one first, and the modules in order. -/
structure Collected (F : Type) where
  scalar : List (List Char × F)
  modules : List (ModuleMetric F)

def moduleLabels (nameAndLabels : List Char) : Option (List Char) :=
  (nameAndLabels.dropPrefix? "krakenwaf_module_blocks_total\x7b".toList).bind fun rest =>
    rest.dropSuffix? ['}']

def readSample (collected : Collected F) (nameAndLabels value : List Char) : Collected F :=
  match float.parse (trimChars value) with
  | none => collected
  | some value =>
      match moduleLabels nameAndLabels with
      | some labels =>
          match label (parseLabels labels) "engine", label (parseLabels labels) "module" with
          | some engine, some name =>
              { collected with modules := collected.modules ++
                  [⟨String.ofList engine, String.ofList name, value⟩] }
          | _, _ => collected
      | none => { collected with scalar := (nameAndLabels, value) :: collected.scalar }

def readLine (collected : Collected F) (rawLine : List Char) : Collected F :=
  let line := trimChars rawLine
  if line.isEmpty || line.head? == some '#' then collected
  else
    match rsplitOnceBy isWhitespace line with
    | none => collected
    | some (nameAndLabels, value) => readSample float collected nameAndLabels value

def metric (values : List (List Char × F)) (name : String) : F :=
  (values.lookup name.toList).getD float.zero

/-- By value from the highest on, and then by module. -/
def precedes (left right : ModuleMetric F) : Bool :=
  ((float.totalCmp right.value left.value).then (compare left.module' right.module')) != .gt

def parsePrometheus (input : String) : WafMetricsSnapshot F :=
  let collected := (lines input.toList).foldl (readLine float) ⟨[], []⟩
  let scalar := collected.scalar
  { requestsInspected := metric float scalar "krakenwaf_requests_inspected_total"
    requestsBlocked := metric float scalar "krakenwaf_requests_blocked_total"
    rateLimitHits := metric float scalar "krakenwaf_rate_limit_hits_total"
    redisRateLimitFailopen := metric float scalar "krakenwaf_redis_rate_limit_failopen_total"
    redisRateLimitFailclosed := metric float scalar "krakenwaf_redis_rate_limit_failclosed_total"
    traceparentForwarded := metric float scalar "krakenwaf_traceparent_forwarded_total"
    traceparentGenerated := metric float scalar "krakenwaf_traceparent_generated_total"
    requestDurationCount := metric float scalar "krakenwaf_request_duration_milliseconds_count"
    requestDurationSum := metric float scalar "krakenwaf_request_duration_milliseconds_sum"
    moduleBlocks := collected.modules.mergeSort (precedes float) }

end Parsing

/-! ## The scalar fields -/

/-- The nine fields with one number. -/
inductive Scalar where
  | requestsInspected
  | requestsBlocked
  | rateLimitHits
  | redisRateLimitFailopen
  | redisRateLimitFailclosed
  | traceparentForwarded
  | traceparentGenerated
  | requestDurationCount
  | requestDurationSum

/-- The name of a field's metric. -/
def Scalar.metricName : Scalar -> String
  | .requestsInspected => "krakenwaf_requests_inspected_total"
  | .requestsBlocked => "krakenwaf_requests_blocked_total"
  | .rateLimitHits => "krakenwaf_rate_limit_hits_total"
  | .redisRateLimitFailopen => "krakenwaf_redis_rate_limit_failopen_total"
  | .redisRateLimitFailclosed => "krakenwaf_redis_rate_limit_failclosed_total"
  | .traceparentForwarded => "krakenwaf_traceparent_forwarded_total"
  | .traceparentGenerated => "krakenwaf_traceparent_generated_total"
  | .requestDurationCount => "krakenwaf_request_duration_milliseconds_count"
  | .requestDurationSum => "krakenwaf_request_duration_milliseconds_sum"

def Scalar.field {F : Type} (snapshot : WafMetricsSnapshot F) : Scalar -> F
  | .requestsInspected => snapshot.requestsInspected
  | .requestsBlocked => snapshot.requestsBlocked
  | .rateLimitHits => snapshot.rateLimitHits
  | .redisRateLimitFailopen => snapshot.redisRateLimitFailopen
  | .redisRateLimitFailclosed => snapshot.redisRateLimitFailclosed
  | .traceparentForwarded => snapshot.traceparentForwarded
  | .traceparentGenerated => snapshot.traceparentGenerated
  | .requestDurationCount => snapshot.requestDurationCount
  | .requestDurationSum => snapshot.requestDurationSum

theorem field_parsePrometheus {F : Type} (float : FloatType F) (input : String) (scalar : Scalar) :
    scalar.field (parsePrometheus float input) =
      metric float ((lines input.toList).foldl (readLine float) ⟨[], []⟩).scalar
        scalar.metricName := by
  cases scalar with
  | requestsInspected => rfl
  | requestsBlocked => rfl
  | rateLimitHits => rfl
  | redisRateLimitFailopen => rfl
  | redisRateLimitFailclosed => rfl
  | traceparentForwarded => rfl
  | traceparentGenerated => rfl
  | requestDurationCount => rfl
  | requestDurationSum => rfl

end WafMetrics
end KrakenUi
