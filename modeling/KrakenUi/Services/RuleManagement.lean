import KrakenUi.Text

namespace KrakenUi

open Text

/-!
# Requests to the rule management of the firewall

Every request carries a token in its `Authorization` header.  The token names
the client, the time window and a nonce, and its tag authenticates these with
the method, the path and a hash of the body, under a key of the window.

A service exists only for a client id and secrets that have been checked.  The
digest and the encodings belong to libraries and are parameters.
-/

/-- The rule lists that can be edited. -/
inductive RegexRuleList where
  | bodyRegex
  | pathRegex
  | headerRegex
  | vectorscanList
  | scanners
  deriving DecidableEq

namespace RegexRuleList

def all : List RegexRuleList := [bodyRegex, pathRegex, headerRegex, vectorscanList, scanners]

def parse (name : String) : Option RegexRuleList :=
  if name = "body_regex" then some bodyRegex
  else if name = "path_regex" then some pathRegex
  else if name = "header_regex" then some headerRegex
  else if name = "vectorscan_list" then some vectorscanList
  else if name = "scanners" then some scanners
  else none

def asStr : RegexRuleList -> String
  | bodyRegex => "body_regex"
  | pathRegex => "path_regex"
  | headerRegex => "header_regex"
  | vectorscanList => "vectorscan_list"
  | scanners => "scanners"

/-- Exactly the names of the lists are accepted. -/
theorem parse_eq_some {name : String} {rule : RegexRuleList} :
    parse name = some rule ↔ name = rule.asStr := by
  constructor
  · intro parsed
    unfold parse at parsed
    split at parsed
    · cases parsed
      assumption
    · split at parsed
      · cases parsed
        assumption
      · split at parsed
        · cases parsed
          assumption
        · split at parsed
          · cases parsed
            assumption
          · split at parsed
            · cases parsed
              assumption
            · cases parsed
  · rintro rfl
    cases rule with
    | bodyRegex => rfl
    | pathRegex => rfl
    | headerRegex => rfl
    | vectorscanList => rfl
    | scanners => rfl

end RegexRuleList

namespace RuleManagement

/-- Canonical message domain separator. -/
def canonicalDomain : String := "rorschach-v1"

/-- Token scheme prefix. -/
def tokenScheme : String := "rch1"

def stepSeconds : Int := 300

def macKeyBytes : Nat := 64

def listPath : String := "/rule/control/cmc/list"

def updatePath : String := "/rule/control/cmc/update"

def regexViewPath : String := "/rule/control/regex/view"

def regexUpdatePrefix : String := "/rule/control/regex/update/"

/-- What is taken from libraries: base64 for addresses without padding, and
BLAKE2b-256 with an optional key. -/
structure Library where
  urlSafeNoPad : ByteArray -> String
  generichash : ByteArray -> Option ByteArray -> Option ByteArray

def isClientIdChar (character : Char) : Bool :=
  isAsciiAlphanumeric character || character == '_' || character == '-'

def validateClientId (clientId : String) : Except String String :=
  let trimmed := trim clientId
  if isEmpty trimmed ∨ 64 < len trimmed ∨ trimmed.toList.all isClientIdChar = false then
    .error "RORSCHACH_CLIENT_ID must be 1 to 64 characters of [A-Za-z0-9_-]"
  else .ok trimmed

/-- The engines are tried in order: both alphabets, with and without padding. -/
def decodeSecret (engines : List (String -> Option ByteArray)) (encoded name : String) :
    Except String ByteArray :=
  match engines.findSome? fun engine => engine (trim encoded) with
  | none => .error (name ++ " must be valid base64")
  | some decoded =>
      if decoded.size < macKeyBytes then .error (name ++ " must decode to at least 64 bytes")
      else .ok decoded

theorem validateClientId_ok {clientId accepted : String}
    (validated : validateClientId clientId = .ok accepted) :
    isEmpty accepted = false ∧ len accepted ≤ 64 ∧
      forall character, character ∈ accepted.toList -> isClientIdChar character = true := by
  unfold validateClientId at validated
  dsimp only at validated
  split at validated
  · cases validated
  · rename_i checked
    cases validated
    simp only [not_or, Bool.not_eq_true, Nat.not_lt, Bool.not_eq_false] at checked
    exact ⟨checked.1, checked.2.1, List.all_eq_true.mp checked.2.2⟩

theorem decodeSecret_ok {engines : List (String -> Option ByteArray)} {encoded name : String}
    {secret : ByteArray} (decoded : decodeSecret engines encoded name = .ok secret) :
    macKeyBytes ≤ secret.size := by
  unfold decodeSecret at decoded
  split at decoded
  · cases decoded
  · split at decoded
    · cases decoded
    · rename_i long
      cases decoded
      exact Nat.not_lt.mp long

end RuleManagement

open RuleManagement in
/-- A configured client of the endpoint. -/
structure RuleManagementService where
  endpoint : String
  clientId : String
  secretEven : ByteArray
  secretOdd : ByteArray
  nonempty : isEmpty clientId = false
  bounded : len clientId ≤ 64
  named : forall character, character ∈ clientId.toList -> isClientIdChar character = true
  evenSize : macKeyBytes ≤ secretEven.size
  oddSize : macKeyBytes ≤ secretOdd.size

namespace RuleManagementService

open RuleManagement

def trimEndSlashes (input : String) : String :=
  String.ofList (input.toList.reverse.dropWhile (· == '/')).reverse

/-- `with_client`, without the HTTP client. -/
def withClient (engines : List (String -> Option ByteArray))
    (endpoint clientId secretEvenEncoded secretOddEncoded : String) :
    Except String RuleManagementService :=
  match validated : validateClientId clientId with
  | .error message => .error message
  | .ok accepted =>
      match even : decodeSecret engines secretEvenEncoded "RORSCHACH_SECRET_EVEN" with
      | .error message => .error message
      | .ok secretEven =>
          match odd : decodeSecret engines secretOddEncoded "RORSCHACH_SECRET_ODD" with
          | .error message => .error message
          | .ok secretOdd =>
              .ok {
                endpoint := trimEndSlashes endpoint
                clientId := accepted
                secretEven := secretEven
                secretOdd := secretOdd
                nonempty := (validateClientId_ok validated).1
                bounded := (validateClientId_ok validated).2.1
                named := (validateClientId_ok validated).2.2
                evenSize := decodeSecret_ok even
                oddSize := decodeSecret_ok odd }

variable (library : Library) (service : RuleManagementService)

def secretForStep (step : Int) : ByteArray :=
  if step % 2 = 0 then service.secretEven else service.secretOdd

/-- The key of a window.  No result is a panic. -/
def macKeyForStep (step : Int) : Option ByteArray :=
  Bytes.slice (service.secretForStep step) 0 macKeyBytes

def canonicalMessage (clientId : String) (step : Int) (nonceB64 method path bodyHash : String) :
    String :=
  canonicalDomain ++ "\n" ++ clientId ++ "\n" ++ toString step ++ "\n" ++ nonceB64 ++ "\n" ++
    method ++ "\n" ++ path ++ "\n" ++ bodyHash

def blake2b256 (input : ByteArray) (key : Option ByteArray) : Except String ByteArray :=
  match library.generichash input key with
  | none => .error "BLAKE2b-256 computation failed"
  | some digest => .ok digest

/-- What `HeaderValue::from_str` accepts. -/
def isHeaderText (text : String) : Bool :=
  text.toList.all fun character =>
    (decide (32 ≤ character.toNat) && decide (character.toNat < 127)) || character == '\t'

/-- The header of one request, at a time and with a random nonce.  No result is
a panic. -/
def rorschachToken (unixTimestamp : Int) (nonce : ByteArray) (method path : String)
    (body : ByteArray) : Option (Except String String) :=
  let step := unixTimestamp / stepSeconds
  let nonceB64 := library.urlSafeNoPad nonce
  match blake2b256 library body none with
  | .error message => some (.error message)
  | .ok bodyDigest =>
      let bodyHash := library.urlSafeNoPad bodyDigest
      let canonical := canonicalMessage service.clientId step nonceB64 method path bodyHash
      match service.macKeyForStep step with
      | none => none
      | some key =>
          match blake2b256 library canonical.toUTF8 (some key) with
          | .error message => some (.error message)
          | .ok tag =>
              let header := "Bearer " ++ tokenScheme ++ "." ++ service.clientId ++ "." ++
                toString step ++ "." ++ nonceB64 ++ "." ++ library.urlSafeNoPad tag
              if isHeaderText header then some (.ok header)
              else some (.error "constructed an invalid Rorschach Authorization header")

/-- The requests that the service sends. -/
inductive Endpoint where
  | listCmc
  | updateCmc
  | viewRegex
  | updateRegex (rule : RegexRuleList)
  deriving DecidableEq

namespace Endpoint

def method : Endpoint -> String
  | listCmc => "GET"
  | updateCmc | viewRegex | updateRegex _ => "POST"

def path : Endpoint -> String
  | listCmc => listPath
  | updateCmc => updatePath
  | viewRegex => regexViewPath
  | updateRegex rule => regexUpdatePrefix ++ rule.asStr

end Endpoint

end RuleManagementService
end KrakenUi
