import KrakenUi.Encoding.Base64
import KrakenUi.Net.Numeral
import KrakenUi.Services.RuleManagement

namespace KrakenUi
namespace RuleManagementService

open RuleManagement Net

/-!
# A request token is unambiguous

The message that a tag authenticates is put together from lines, and the token
from parts between dots.  Client ids, numbers, base64 texts, methods and paths
have neither line breaks nor, where it matters, dots in them, so both can be
taken apart in one way only.
-/

/-- What the encoding is documented to do. -/
structure Lawful (library : Library) : Prop where
  digits : forall {bytes character}, character ∈ (library.urlSafeNoPad bytes).toList ->
    Base64.IsDigit character
  injective : forall {left right}, library.urlSafeNoPad left = library.urlSafeNoPad right ->
    left = right

/-- A request of a service in some time window. -/
structure Request where
  service : RuleManagementService
  step : Int
  nonce : ByteArray
  endpoint : Endpoint
  body : ByteArray

namespace Request

variable (library : Library)

/-- The message that is authenticated for the request. -/
def canonical (request : Request) : Except String String :=
  match blake2b256 library request.body none with
  | .error message => .error message
  | .ok bodyDigest => .ok (canonicalMessage request.service.clientId request.step
      (library.urlSafeNoPad request.nonce) request.endpoint.method request.endpoint.path
      (library.urlSafeNoPad bodyDigest))

end Request

section Parts

variable {library : Library} {character : Char}

/-- Neither line breaks nor dots occur in a client id. -/
theorem clientId_apart (service : RuleManagementService)
    (member : character ∈ service.clientId.toList) : character ≠ '\n' ∧ character ≠ '.' := by
  have named := service.named character member
  constructor
  · rintro rfl
    revert named
    decide
  · rintro rfl
    revert named
    decide

theorem step_apart {step : Int} (member : character ∈ (toString step).toList) :
    character ≠ '\n' ∧ character ≠ '.' := by
  have digits := Numeral.isHexDigit_of_mem_toString member
  constructor
  · rintro rfl
    revert digits
    decide
  · rintro rfl
    revert digits
    decide

theorem base64_apart (lawful : Lawful library) {bytes : ByteArray}
    (member : character ∈ (library.urlSafeNoPad bytes).toList) :
    character ≠ '\n' ∧ character ≠ '.' := by
  have digits := lawful.digits member
  constructor
  · rintro rfl
    revert digits
    decide
  · rintro rfl
    revert digits
    decide

theorem endpoint_apart (endpoint : Endpoint) :
    '\n' ∉ endpoint.method.toList ∧ '\n' ∉ endpoint.path.toList := by
  cases endpoint with
  | listCmc => decide
  | updateCmc => decide
  | viewRegex => decide
  | updateRegex rule => cases rule <;> decide

/-- The lines of a message. -/
def lines (clientId : String) (step : Int) (nonceB64 method path bodyHash : String) :
    List (List Char) :=
  [canonicalDomain.toList, clientId.toList, (toString step).toList, nonceB64.toList,
    method.toList, path.toList, bodyHash.toList]

theorem canonicalMessage_toList (clientId : String) (step : Int)
    (nonceB64 method path bodyHash : String) :
    (canonicalMessage clientId step nonceB64 method path bodyHash).toList =
      ['\n'].intercalate (lines clientId step nonceB64 method path bodyHash) := by
  have newline : "\n".toList = ['\n'] := by decide
  simp [canonicalMessage, lines, String.toList_append, newline, List.intercalate_cons_cons]

theorem lines_apart (lawful : Lawful library) (service : RuleManagementService) (step : Int)
    (nonce bodyDigest : ByteArray) (endpoint : Endpoint) :
    forall line, line ∈ lines service.clientId step (library.urlSafeNoPad nonce) endpoint.method
      endpoint.path (library.urlSafeNoPad bodyDigest) -> '\n' ∉ line := by
  have domain : '\n' ∉ canonicalDomain.toList := by decide
  have id : '\n' ∉ service.clientId.toList := fun member => (clientId_apart service member).1 rfl
  have number : '\n' ∉ (toString step).toList := fun member => (step_apart member).1 rfl
  have encoded : forall bytes, '\n' ∉ (library.urlSafeNoPad bytes).toList := fun bytes member =>
    (base64_apart lawful member).1 rfl
  rcases endpoint_apart endpoint with ⟨method, path⟩
  intro line member
  simp only [lines, List.mem_cons, List.not_mem_nil, or_false] at member
  rcases member with rfl | rfl | rfl | rfl | rfl | rfl | rfl
  · exact domain
  · exact id
  · exact number
  · exact encoded nonce
  · exact method
  · exact path
  · exact encoded bodyDigest

/-- Requests with one message agree in everything the message is made from. -/
theorem canonical_injective (lawful : Lawful library) {first second : Request} {message : String}
    (left : first.canonical library = .ok message)
    (right : second.canonical library = .ok message) :
    first.service.clientId = second.service.clientId ∧ first.step = second.step ∧
      first.nonce = second.nonce ∧ first.endpoint.method = second.endpoint.method ∧
      first.endpoint.path = second.endpoint.path ∧
      blake2b256 library first.body none = blake2b256 library second.body none := by
  unfold Request.canonical at left right
  cases hashed : blake2b256 library first.body none with
  | error failed =>
      rw [hashed] at left
      cases left
  | ok digest =>
      cases hashed' : blake2b256 library second.body none with
      | error failed =>
          rw [hashed'] at right
          cases right
      | ok digest' =>
          rw [hashed] at left
          rw [hashed'] at right
          have texts := congrArg String.toList
            ((Except.ok.inj left).trans (Except.ok.inj right).symm)
          rw [canonicalMessage_toList, canonicalMessage_toList] at texts
          have same := Text.intercalate_unique (List.cons_ne_nil _ _) (List.cons_ne_nil _ _)
            (lines_apart lawful _ _ _ _ _) (lines_apart lawful _ _ _ _ _) texts
          simp only [List.cons.injEq, String.toList_inj, true_and, and_true] at same
          rcases same with ⟨id, number, nonce, method, path, body⟩
          exact ⟨id, Numeral.toString_injective number, lawful.injective nonce, method, path,
            congrArg Except.ok (lawful.injective body)⟩

/-- The secret of a window covers the key. -/
theorem macKeyForStep_some (service : RuleManagementService) (step : Int) :
    service.macKeyForStep step = some ((service.secretForStep step).extract 0 macKeyBytes) ∧
      ((service.secretForStep step).extract 0 macKeyBytes).size = macKeyBytes := by
  have covers : macKeyBytes ≤ (service.secretForStep step).size := by
    unfold secretForStep
    split
    · exact service.evenSize
    · exact service.oddSize
  constructor
  · exact Bytes.slice_inside (Nat.zero_le _) covers
  · rw [ByteArray.size_extract]
    omega

/-- The parts of a token. -/
def parts (clientId : String) (step : Int) (nonceB64 tagB64 : String) : List (List Char) :=
  [tokenScheme.toList, clientId.toList, (toString step).toList, nonceB64.toList, tagB64.toList]

/-- The token without the name of the header's scheme. -/
def bearer (clientId : String) (step : Int) (nonceB64 tagB64 : String) : String :=
  tokenScheme ++ "." ++ clientId ++ "." ++ toString step ++ "." ++ nonceB64 ++ "." ++ tagB64

theorem splitOn_bearer (lawful : Lawful library) (service : RuleManagementService) (step : Int)
    (nonce tag : ByteArray) :
    (bearer service.clientId step (library.urlSafeNoPad nonce)
        (library.urlSafeNoPad tag)).toList.splitOn '.' =
      parts service.clientId step (library.urlSafeNoPad nonce) (library.urlSafeNoPad tag) := by
  have dot : ".".toList = ['.'] := by decide
  have joined : (bearer service.clientId step (library.urlSafeNoPad nonce)
      (library.urlSafeNoPad tag)).toList = ['.'].intercalate
        (parts service.clientId step (library.urlSafeNoPad nonce) (library.urlSafeNoPad tag)) := by
    simp [bearer, parts, String.toList_append, dot, List.intercalate_cons_cons]
  have scheme : '.' ∉ tokenScheme.toList := by decide
  have id : '.' ∉ service.clientId.toList := fun member => (clientId_apart service member).2 rfl
  have number : '.' ∉ (toString step).toList := fun member => (step_apart member).2 rfl
  have encoded : forall bytes, '.' ∉ (library.urlSafeNoPad bytes).toList := fun bytes member =>
    (base64_apart lawful member).2 rfl
  rw [joined]
  apply List.splitOn_intercalate
  · intro part member
    simp only [parts, List.mem_cons, List.not_mem_nil, or_false] at member
    rcases member with rfl | rfl | rfl | rfl | rfl
    · exact scheme
    · exact id
    · exact number
    · exact encoded nonce
    · exact encoded tag
  · exact List.cons_ne_nil _ _

theorem visible_of_isAsciiAlphanumeric (plain : Text.isAsciiAlphanumeric character = true) :
    32 ≤ character.toNat ∧ character.toNat < 127 := by
  simp only [Text.isAsciiAlphanumeric, Text.isAsciiDigit, Text.isAsciiLowercase,
    Text.isAsciiUppercase, Bool.or_eq_true, Bool.and_eq_true, decide_eq_true_eq, Char.le_def,
    UInt32.le_iff_toNat_le] at plain
  simp at plain
  omega

theorem visible_of_isAlphanum (plain : character.isAlphanum = true) :
    32 ≤ character.toNat ∧ character.toNat < 127 := by
  have bounds := Base64.toNat_of_isAlphanum plain
  omega

/-- The header has visible characters only. -/
theorem isHeaderText_bearer (lawful : Lawful library) (service : RuleManagementService)
    (step : Int) (nonce tag : ByteArray) :
    isHeaderText ("Bearer " ++ bearer service.clientId step (library.urlSafeNoPad nonce)
      (library.urlSafeNoPad tag)) = true := by
  have id : forall character, character ∈ service.clientId.toList ->
      32 ≤ character.toNat ∧ character.toNat < 127 := by
    intro character member
    have named := service.named character member
    simp only [isClientIdChar, Bool.or_eq_true, beq_iff_eq, or_assoc] at named
    rcases named with plain | rfl | rfl
    · exact visible_of_isAsciiAlphanumeric plain
    · decide
    · decide
  have number : forall character, character ∈ (toString step).toList ->
      32 ≤ character.toNat ∧ character.toNat < 127 := by
    intro character member
    have digits : forall other, Numeral.IsHexDigit other -> 32 ≤ other.toNat ∧ other.toNat < 127 := by
      unfold Numeral.IsHexDigit
      decide
    rcases Numeral.isHexDigit_of_mem_toString member with digit | rfl
    · exact digits character digit
    · decide
  have encoded : forall bytes, forall character, character ∈ (library.urlSafeNoPad bytes).toList ->
      32 ≤ character.toNat ∧ character.toNat < 127 := by
    intro bytes character member
    rcases lawful.digits member with plain | rfl | rfl
    · exact visible_of_isAlphanum plain
    · decide
    · decide
  have fixed : forall text : String, text ∈ ["Bearer ", tokenScheme, "."] -> forall character,
      character ∈ text.toList -> 32 ≤ character.toNat ∧ character.toNat < 127 := by decide
  unfold isHeaderText
  rw [List.all_eq_true]
  intro character member
  suffices visible : 32 ≤ character.toNat ∧ character.toNat < 127 by
    simp [visible.1, visible.2]
  simp only [bearer, String.toList_append, List.mem_append, or_assoc] at member
  rcases member with start | scheme | dot | inId | dot | inStep | dot | inNonce | dot | inTag
  · exact fixed _ (by decide) character start
  · exact fixed _ (by decide) character scheme
  · exact fixed _ (by decide) character dot
  · exact id character inId
  · exact fixed _ (by decide) character dot
  · exact number character inStep
  · exact fixed _ (by decide) character dot
  · exact encoded nonce character inNonce
  · exact fixed _ (by decide) character dot
  · exact encoded tag character inTag

/-- If the digests succeed, the header is sent, with the tag of the message. -/
theorem rorschachToken_some (lawful : Lawful library) {request : Request} {unixTimestamp : Int}
    {message : String} {key tag : ByteArray}
    (window : request.step = unixTimestamp / stepSeconds)
    (canonical : request.canonical library = .ok message)
    (keyed : request.service.macKeyForStep request.step = some key)
    (tagged : blake2b256 library message.toUTF8 (some key) = .ok tag) :
    request.service.rorschachToken library unixTimestamp request.nonce request.endpoint.method
        request.endpoint.path request.body =
      some (.ok ("Bearer " ++ bearer request.service.clientId request.step
        (library.urlSafeNoPad request.nonce) (library.urlSafeNoPad tag))) := by
  unfold Request.canonical at canonical
  cases hashed : blake2b256 library request.body none with
  | error failed =>
      rw [hashed] at canonical
      cases canonical
  | ok digest =>
      rw [hashed] at canonical
      cases canonical
      have visible := isHeaderText_bearer lawful request.service request.step request.nonce tag
      have same : "Bearer " ++ tokenScheme ++ "." ++ request.service.clientId ++ "." ++
          toString request.step ++ "." ++ library.urlSafeNoPad request.nonce ++ "." ++
          library.urlSafeNoPad tag = "Bearer " ++ bearer request.service.clientId request.step
            (library.urlSafeNoPad request.nonce) (library.urlSafeNoPad tag) := by
        simp only [bearer, String.append_assoc]
      unfold rorschachToken
      rw [hashed, ← window]
      dsimp only
      rw [keyed]
      dsimp only
      rw [tagged]
      dsimp only
      rw [same, visible, if_pos rfl]

end Parts

/-- Different requests have different messages, and a token is its five parts:
scheme, client id, step, nonce and the tag of the message, under the first 64
bytes of the secret for the parity of the step. -/
theorem token_unambiguous {library : Library} (lawful : Lawful library) :
    (forall (first second : Request) (message : String),
      first.canonical library = .ok message -> second.canonical library = .ok message ->
        first.service.clientId = second.service.clientId ∧ first.step = second.step ∧
          first.nonce = second.nonce ∧ first.endpoint.method = second.endpoint.method ∧
          first.endpoint.path = second.endpoint.path ∧
          blake2b256 library first.body none = blake2b256 library second.body none) ∧
    forall (request : Request) (unixTimestamp : Int),
      request.step = unixTimestamp / stepSeconds ->
      Exists fun key => request.service.macKeyForStep request.step = some key ∧
        key.size = macKeyBytes ∧
        key = (if request.step % 2 = 0 then request.service.secretEven
          else request.service.secretOdd).extract 0 macKeyBytes ∧
        forall message tag, request.canonical library = .ok message ->
          blake2b256 library message.toUTF8 (some key) = .ok tag ->
          Exists fun token =>
            request.service.rorschachToken library unixTimestamp request.nonce
                request.endpoint.method request.endpoint.path request.body =
              some (.ok ("Bearer " ++ token)) ∧
            token.toList.splitOn '.' = [tokenScheme.toList, request.service.clientId.toList,
              (toString request.step).toList, (library.urlSafeNoPad request.nonce).toList,
              (library.urlSafeNoPad tag).toList] := by
  constructor
  · intro first second message left right
    exact canonical_injective lawful left right
  · intro request unixTimestamp window
    rcases macKeyForStep_some request.service request.step with ⟨keyed, size⟩
    refine ⟨_, keyed, size, rfl, ?_⟩
    intro message tag canonical tagged
    exact ⟨_, rorschachToken_some lawful window canonical keyed tagged,
      splitOn_bearer lawful request.service request.step request.nonce tag⟩

end RuleManagementService

namespace Sample

open RuleManagementService RuleManagement

/-- The digest of the empty text. -/
def emptyDigest : ByteArray :=
  ⟨#[14, 87, 81, 192, 38, 229, 67, 178, 232, 171, 46, 176, 96, 153, 218, 161, 209, 229, 223, 71,
    119, 143, 119, 135, 250, 171, 69, 205, 241, 47, 227, 168]⟩

/-- The keyed digest of the message of the request below. -/
def listDigest : ByteArray :=
  ⟨#[106, 14, 143, 186, 51, 117, 146, 174, 21, 223, 69, 229, 134, 48, 26, 188, 179, 68, 16, 79,
    10, 72, 44, 114, 29, 170, 217, 9, 10, 111, 131, 125]⟩

/-- Base64 as it is, and the digest at the two texts that are hashed here. -/
def digests : Library where
  urlSafeNoPad := Base64.encode
  generichash := fun _ key => if key.isNone then some emptyDigest else some listDigest

theorem digests_lawful : Lawful digests where
  digits := by
    intro bytes character member
    change character ∈ (Base64.encode bytes).toList at member
    unfold Base64.encode at member
    rw [String.toList_ofList] at member
    exact Base64.isDigit_of_mem _ character member
  injective := Base64.encode_injective

def ruleClient : RuleManagementService where
  endpoint := "https://waf:4342"
  clientId := "kraken-ui"
  secretEven := ⟨Array.replicate 64 1⟩
  secretOdd := ⟨Array.replicate 64 2⟩
  nonempty := by decide
  bounded := by decide
  named := by decide
  evenSize := by decide
  oddSize := by decide

/-- The list of modules is requested with a nonce of zeros. -/
def listRequest : RuleManagementService.Request where
  service := ruleClient
  step := 5666666
  nonce := ⟨Array.replicate 64 0⟩
  endpoint := .listCmc
  body := ByteArray.empty

theorem token_unambiguous_list : Exists fun token =>
    ruleClient.rorschachToken digests 1700000000 listRequest.nonce "GET" listPath
        ByteArray.empty = some (.ok ("Bearer " ++ token)) ∧
      token.toList.splitOn '.' = ["rch1".toList, "kraken-ui".toList, "5666666".toList,
        (Base64.encode listRequest.nonce).toList, (Base64.encode listDigest).toList] := by
  have window : listRequest.step = 1700000000 / stepSeconds := by decide
  rcases (token_unambiguous digests_lawful).2 listRequest 1700000000 window with
      ⟨key, -, -, -, tokens⟩
  rcases tokens _ listDigest rfl rfl with ⟨token, sent, split⟩
  exact ⟨token, sent, split⟩

end Sample
end KrakenUi
