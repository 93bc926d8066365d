import KrakenUi.Interaction.Program
import KrakenUi.Services.RegexRules

namespace KrakenUi

open Interaction Json RuleManagement

/-!
# The client of the rule management

What the service does on the wire.  A request is encoded, signed with the time
and a fresh nonce, and sent; the answer is a status and a body, or the
connection has failed.  The bytes that are signed are the bytes that are sent.

The HTTP library, the clock and the random numbers are the other side of the
commands.  What `serde` makes of the answers is a parameter, as the answers may
be anything.
-/

/-- A `BTreeMap` from names to flags, by its entries. -/
structure ModuleMap where
  entries : List (String × Bool)
  ascending : (entries.map Prod.fst).Pairwise (· < ·)

namespace RuleManagement

structure CmcUpdated where
  enabled : List String := []
  disabled : List String := []
  deriving DecidableEq

/-- The outcome that is echoed after an update of modules. -/
structure CmcUpdateOutcome where
  status : String := ""
  updated : CmcUpdated := {}
  deriving DecidableEq

/-- The outcome that is echoed after an update of a list. -/
structure RegexUpdateOutcome where
  status : String := ""
  rule : String := ""
  rulesWritten : Nat := 0
  deriving DecidableEq

/-- An HTTP request of the client. -/
structure Message where
  method : String
  url : String
  authorization : String
  accept : String
  contentType : Option String
  body : Option ByteArray

structure HttpAnswer where
  status : Nat
  body : ByteArray

def HttpAnswer.isSuccess (answer : HttpAnswer) : Bool :=
  decide (200 ≤ answer.status) && decide (answer.status < 300)

/-- The random part of a token. -/
abbrev Nonce := { bytes : ByteArray // bytes.size = 64 }

inductive WireCommand where
  /-- The end of a thread that has panicked. -/
  | abort
  | unixTimestamp
  | copyRandombytes
  /-- One call of `send()` and its last answer; redirects are followed inside of it. -/
  | send (message : Message)

namespace WireCommand

abbrev Reply : WireCommand -> Type
  | abort => Empty
  | unixTimestamp => Int
  | copyRandombytes => Nonce
  | send _ => Except String HttpAnswer

end WireCommand

abbrev wire : Signature := ⟨WireCommand, WireCommand.Reply⟩

/-- What the client takes from libraries beside the digests: JSON, with the
shapes of the answers, and the text of a status. -/
structure WafLibrary extends Library where
  serde : RegexRules.SerdeJson
  cmcListResponse : ByteArray -> Except String ModuleMap
  cmcUpdateOutcome : ByteArray -> Except String CmcUpdateOutcome
  regexViewResponse : ByteArray -> Except String String
  regexUpdateOutcome : ByteArray -> Except String RegexUpdateOutcome
  statusText : Nat -> String

/-- `Result::unwrap_or_default`, for a default. -/
def unwrapOr {α : Type} (fallback : α) : Except String α -> α
  | .ok value => value
  | .error _ => fallback

end RuleManagement

namespace RuleManagementService

variable (library : WafLibrary) (service : RuleManagementService)

/-- How the endpoint is called in errors. -/
def Endpoint.name : Endpoint -> String
  | listCmc => "rule-management list"
  | updateCmc => "rule-management update"
  | viewRegex => "regex view"
  | updateRegex _ => "regex update"

/-- What is sent to an endpoint, with its header and its body. -/
def message (endpoint : Endpoint) (authorization : String) (body : Option ByteArray) : Message where
  method := endpoint.method
  url := service.endpoint ++ endpoint.path
  authorization := authorization
  accept := "application/json"
  contentType := body.map fun _ => "application/json"
  body := body

/-- The second half of an exchange: send, and ask for success. -/
def deliver (endpoint : Endpoint) (body : Option ByteArray) :
    Option (Except String String) -> Program wire (Except String ByteArray)
  | none => do
      let never ← @Program.perform wire .abort
      nomatch never
  | some (.error message) => return .error message
  | some (.ok authorization) => do
      match ← @Program.perform wire (.send (service.message endpoint authorization body)) with
      | .error _ => return .error ("failed to reach the WAF " ++ endpoint.name ++ " endpoint")
      | .ok answer =>
          if answer.isSuccess then return .ok answer.body
          else
            let refused := "WAF " ++ endpoint.name ++ " returned HTTP " ++
              library.statusText answer.status
            return .error refused

/-- Sign for the method, the path and the body, and deliver. -/
def exchange (endpoint : Endpoint) (body : Option ByteArray) :
    Program wire (Except String ByteArray) := do
  let unixTimestamp ← @Program.perform wire .unixTimestamp
  let nonce ← @Program.perform wire .copyRandombytes
  service.deliver library endpoint body
    (service.rorschachToken library.toLibrary unixTimestamp nonce.val endpoint.method
      endpoint.path (body.getD ByteArray.empty))

/-- The answer has to be read, or else the call has failed. -/
def decoded {α : Type} (endpoint : Endpoint) (decode : ByteArray -> Except String α)
    (answered : Except String ByteArray) : Except String α :=
  match answered with
  | .error message => .error message
  | .ok body =>
      match decode body with
      | .ok value => .ok value
      | .error _ => .error ("invalid JSON from the WAF " ++ endpoint.name ++ " endpoint")

/-- A success counts whatever is answered. -/
def cosmetic {α : Type} (fallback : α) (decode : ByteArray -> Except String α)
    (answered : Except String ByteArray) : Except String α :=
  match answered with
  | .error message => .error message
  | .ok body => .ok (unwrapOr fallback (decode body))

/-- The body of an update of modules. -/
def cmcUpdateRequest (desired : ModuleMap) : Tree :=
  .object [("modules", .object
    [("CMC-Rules", .object (desired.entries.map fun entry => (entry.1, .bool entry.2)))])]

def regexViewRequest (rule : String) : Tree :=
  .object [("rule_view", .string rule)]

def listCmc : Program wire (Except String ModuleMap) := do
  let answered ← service.exchange library .listCmc none
  return decoded .listCmc library.cmcListResponse answered

def updateCmc (desired : ModuleMap) : Program wire (Except String CmcUpdateOutcome) :=
  match library.serde.toVec (cmcUpdateRequest desired) with
  | .error _ => return .error "failed to encode the CMC update body"
  | .ok body => do
      let answered ← service.exchange library .updateCmc (some body)
      return cosmetic {} library.cmcUpdateOutcome answered

def viewRegex (rule : RegexRuleList) : Program wire (Except String String) :=
  match library.serde.toVec (regexViewRequest rule.asStr) with
  | .error _ => return .error "failed to encode the regex view body"
  | .ok body => do
      let answered ← service.exchange library .viewRegex (some body)
      return decoded .viewRegex library.regexViewResponse answered

def updateRegex (rule : RegexRuleList) (body : ByteArray) :
    Program wire (Except String RegexUpdateOutcome) := do
  let answered ← service.exchange library (.updateRegex rule) (some body)
  return cosmetic {} library.regexUpdateOutcome answered

end RuleManagementService
end KrakenUi
