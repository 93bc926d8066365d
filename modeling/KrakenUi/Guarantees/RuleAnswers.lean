import Mathlib.Data.String.Basic
import KrakenUi.Guarantees.FirewallRules

namespace KrakenUi

open Interaction RegexRules RuleManagement RuleManagementService

/-!
# What an operator is told

The firewall is behind a connection that may fail, and its answers may be anything.
A response that speaks of a list, of an update or of a loaded rule is given for one
message only, which the firewall has accepted.  A response of the console's own is
given when nothing was sent.  In between stands the error of the firewall: no message
could be made, the one message was not accepted, or its answer could not be read.
-/

namespace RuleDesk

variable {desk : RuleDesk}

/-- A message, and what has come back. -/
structure Exchange where
  message : Message
  answer : Except String HttpAnswer

def posted : Observation wire -> Option Exchange
  | ⟨.send message, answer⟩ => some ⟨message, answer⟩
  | _ => none

/-- What a command has exchanged with the firewall. -/
def exchanged : Observation (console.beside wire) -> Option Exchange
  | ⟨.inl _, _⟩ => none
  | ⟨.inr command, reply⟩ => posted ⟨command, reply⟩

/-- What a request has exchanged with the firewall. -/
def exchanges (transcript : List (Observation (console.beside wire))) : List Exchange :=
  transcript.filterMap exchanged

/-- The one message was answered with success, and with this content. -/
def Accepted (service : RuleManagementService) (endpoint : Endpoint) (body : Option ByteArray)
    (heard : List Exchange) (content : ByteArray) : Prop :=
  Exists fun authorization => Exists fun answer : HttpAnswer =>
    heard = [⟨service.message endpoint authorization body, .ok answer⟩] ∧
      answer.isSuccess = true ∧ answer.body = content

/-- The message was not sent, or it was not answered with success. -/
def Declined (service : RuleManagementService) (endpoint : Endpoint) (body : Option ByteArray)
    (heard : List Exchange) : Prop :=
  heard = [] ∨ Exists fun authorization => Exists fun answer : Except String HttpAnswer =>
    heard = [⟨service.message endpoint authorization body, answer⟩] ∧
      forall given, answer = .ok given -> given.isSuccess = false

/-- What an exchange says about the firewall. -/
def Answered (service : RuleManagementService) (endpoint : Endpoint) (body : Option ByteArray)
    (heard : List Exchange) : Except String ByteArray -> Prop
  | .ok content => Accepted service endpoint body heard content
  | .error _ => Declined service endpoint body heard

/-- An answer that had to be read, and could not be. -/
def Unreadable (desk : RuleDesk) (endpoint : Endpoint) (content : ByteArray) : Prop :=
  match endpoint with
  | .listCmc => Exists fun reason => desk.library.cmcListResponse content = .error reason
  | .viewRegex => Exists fun reason => desk.library.regexViewResponse content = .error reason
  | .updateCmc | .updateRegex _ => False

/-- How a request reports what the firewall has accepted. -/
inductive Reports (desk : RuleDesk) : RuleRoute -> ByteArray -> RuleResponse -> Prop
  | list {content : ByteArray} {modules : ModuleMap}
      (read : desk.library.cmcListResponse content = .ok modules) :
      Reports desk .apiCmcList content
        (.cmcList (modules.entries.map fun entry => ⟨entry.1, entry.2⟩))
  | modules {form : CmcUpdateForm} {content : ByteArray} :
      Reports desk (.cmcUpdate form) content
        (.cmcUpdated (unwrapOr {} (desk.library.cmcUpdateOutcome content)).updated)
  | view {query : RegexRuleQuery} {list : RegexRuleList} {content : ByteArray} {text : String}
      {showAcl : Bool} (named : query.rule = list.asStr)
      (read : desk.library.regexViewResponse content = .ok text) :
      Reports desk (.regexEditPage query) content
        (.regexEditPage ⟨showAcl, true, list.asStr, list.editorMode, text, true, ""⟩)
  | update {query : RegexRuleQuery} {form : RegexUpdateForm} {list : RegexRuleList}
      {content : ByteArray} (named : query.rule = list.asStr) :
      Reports desk (.regexUpdate query form) content (.regexUpdated list.asStr
        (unwrapOr {} (desk.library.regexUpdateOutcome content)).rulesWritten)

/-- How a request reports that the firewall has failed. -/
inductive Admits : RuleRoute -> RuleResponse -> Prop
  | error {route : RuleRoute} : Admits route wafError
  | editor {query : RegexRuleQuery} {list : RegexRuleList} {showAcl : Bool}
      (named : query.rule = list.asStr) :
      Admits (.regexEditPage query)
        (.regexEditPage ⟨showAcl, true, list.asStr, list.editorMode, "", false, wafErrorMessage⟩)

/-- A response that says nothing about the firewall. -/
def Own : RuleResponse -> Prop
  | .redirect _ | .cmcPage _ | .regexSelectPage _ => True
  | .failure status _ => status ≠ 502
  | .regexEditPage template => template.loaded = false ∧ template.errorMessage ≠ wafErrorMessage
  | .cmcList _ | .cmcUpdated _ | .regexUpdated _ _ => False

/-- The response and what was exchanged belong together. -/
inductive Tells (desk : RuleDesk) (visit : Visit) (route : RuleRoute) :
    List Exchange -> RuleResponse -> Prop
  | own {response : RuleResponse} (own : Own response) : Tells desk visit route [] response
  | reports {service : RuleManagementService} {endpoint : Endpoint} {body : Option ByteArray}
      {heard : List Exchange} {content : ByteArray} {response : RuleResponse}
      (configured : desk.ruleManagement = some service)
      (asked : Asks desk visit route endpoint body)
      (accepted : Accepted service endpoint body heard content)
      (reports : Reports desk route content response) : Tells desk visit route heard response
  /-- Without a body nothing is asked. -/
  | unasked {response : RuleResponse} (admits : Admits route response) :
      Tells desk visit route [] response
  | failed {service : RuleManagementService} {endpoint : Endpoint} {body : Option ByteArray}
      {heard : List Exchange} {response : RuleResponse}
      (configured : desk.ruleManagement = some service)
      (asked : Asks desk visit route endpoint body)
      (failed : Declined service endpoint body heard ∨ Exists fun content =>
        Accepted service endpoint body heard content ∧ Unreadable desk endpoint content)
      (admits : Admits route response) : Tells desk visit route heard response

/-! ## Exchanges of programs -/

theorem exchanges_append (first second : List (Observation (console.beside wire))) :
    exchanges (first ++ second) = exchanges first ++ exchanges second :=
  List.filterMap_append

/-- What only reads the session exchanges nothing. -/
theorem exchanges_silent {α : Type} {program : RuleHandler α} (silent : program.Only Inside)
    {transcript : List (Observation (console.beside wire))} {value : α}
    (returned : program.Returns transcript value) : exchanges transcript = [] := by
  apply List.filterMap_eq_nil_iff.mpr
  rintro ⟨command, reply⟩ member
  have inside := silent.transcript (Program.resumes_to_done.mpr returned) _ member
  cases command with
  | inl command => rfl
  | inr command => exact inside.elim

/-- What the client exchanges. -/
theorem exchanges_client (own : List (Observation wire)) :
    exchanges (own.map (Signature.outer console wire).carry) = own.filterMap posted := by
  unfold exchanges
  rw [List.filterMap_map]
  rfl

theorem deliver_returns {library : WafLibrary} {service : RuleManagementService}
    {endpoint : Endpoint} {body : Option ByteArray} {token : Option (Except String String)}
    {own : List (Observation wire)} {answered : Except String ByteArray}
    (returned : (service.deliver library endpoint body token).Returns own answered) :
    Answered service endpoint body (own.filterMap posted) answered := by
  match token with
  | none =>
      rcases (Program.returns_call _ _ _ _).mp returned with ⟨never, -⟩
      exact never.elim
  | some (.error message) =>
      rcases (Program.returns_pure _ _ _).mp returned with ⟨rfl, rfl⟩
      exact Or.inl rfl
  | some (.ok authorization) =>
      rcases (Program.returns_call _ _ _ _).mp returned with ⟨reply, rest, rfl, later⟩
      change Except String HttpAnswer at reply
      cases reply with
      | error reason =>
          rcases (Program.returns_pure _ _ _).mp later with ⟨rfl, rfl⟩
          refine Or.inr ⟨authorization, .error reason, rfl, ?_⟩
          intro given impossible
          cases impossible
      | ok answer =>
          change (if answer.isSuccess then pure (.ok answer.body) else pure (.error ("WAF " ++
            endpoint.name ++ " returned HTTP " ++ library.statusText answer.status)) :
              Program wire (Except String ByteArray)).Returns rest answered at later
          split at later
          · rename_i success
            rcases (Program.returns_pure _ _ _).mp later with ⟨rfl, rfl⟩
            exact ⟨authorization, answer, rfl, success, rfl⟩
          · rename_i failure
            rcases (Program.returns_pure _ _ _).mp later with ⟨rfl, rfl⟩
            refine Or.inr ⟨authorization, .ok answer, rfl, ?_⟩
            rintro given same
            cases same
            exact Bool.eq_false_iff.mpr failure

/-- The time and the nonce are no exchange. -/
theorem exchange_returns {library : WafLibrary} {service : RuleManagementService}
    {endpoint : Endpoint} {body : Option ByteArray} {own : List (Observation wire)}
    {answered : Except String ByteArray}
    (returned : (service.exchange library endpoint body).Returns own answered) :
    Answered service endpoint body (own.filterMap posted) answered := by
  rcases (Program.returns_call _ _ _ _).mp returned with ⟨unixTimestamp, rest, rfl, drawing⟩
  rcases (Program.returns_call _ _ _ _).mp drawing with ⟨nonce, rest, rfl, delivering⟩
  have told : Answered service endpoint body (rest.filterMap posted) answered :=
    deliver_returns delivering
  exact told

/-- The rule for a function of the client, which reads the answer of an exchange. -/
theorem function_returns {α β : Type} {service : RuleManagementService} {endpoint : Endpoint}
    {body : Option ByteArray} {read : Except String ByteArray -> β} {next : β -> RuleHandler α}
    {transcript : List (Observation (console.beside wire))} {value : α}
    (returned : (RuleHandler.client (service.exchange desk.library endpoint body >>=
      fun answered => pure (read answered)) >>= next).Returns transcript value)
    (silent : forall value, (next value).Only Inside) :
    Exists fun answered => Answered service endpoint body (exchanges transcript) answered ∧
      Exists fun rest => (next (read answered)).Returns rest value := by
  rcases (Program.returns_bind _ _ _ _).mp returned with
    ⟨first, second, middle, rfl, asking, later⟩
  rcases Program.returns_embed.mp asking with ⟨own, rfl, calling⟩
  rcases (Program.returns_bind _ _ _ _).mp calling with
    ⟨sending, reading, answered, rfl, sent, decoding⟩
  rcases (Program.returns_pure _ _ _).mp decoding with ⟨rfl, rfl⟩
  refine ⟨answered, ?_, second, later⟩
  rw [exchanges_append, exchanges_silent (silent _) later, List.append_nil, List.append_nil,
    exchanges_client]
  exact exchange_returns sent

/-! ## The handlers -/

variable {visit : Visit} {transcript : List (Observation (console.beside wire))}
  {response : RuleResponse}

theorem own_failure {status : Nat} {error : String} (other : status ≠ 502) :
    Own (.failure status error) := other

theorem own_redirect (path : String) : Own (.redirect path) := True.intro

/-- A response that needs nothing. -/
theorem tells_pure {route : RuleRoute} {given : RuleResponse}
    (told : Tells desk visit route [] given)
    (returned : (pure given : RuleHandler RuleResponse).Returns transcript response) :
    Tells desk visit route (exchanges transcript) response := by
  rcases (Program.returns_pure _ _ _).mp returned with ⟨rfl, rfl⟩
  exact told

/-- A map is read in the order of its names. -/
theorem mergeSort_rows (modules : ModuleMap) :
    (modules.entries.map fun entry => (⟨entry.1, entry.2⟩ : CmcModuleRow)).mergeSort
        (fun left right => decide (left.name ≤ right.name)) =
      modules.entries.map fun entry => ⟨entry.1, entry.2⟩ := by
  apply List.mergeSort_of_pairwise
  apply List.pairwise_map.mpr
  exact (List.pairwise_map.mp modules.ascending).imp fun before =>
    decide_eq_true (le_of_lt before)

theorem tells_apiCmcList (returned : desk.apiCmcList.Returns transcript response) :
    Tells desk visit .apiCmcList (exchanges transcript) response := by
  unfold apiCmcList at returned
  split at returned
  · exact tells_pure (Tells.own (own_failure (by decide))) returned
  rename_i service configured
  rcases function_returns returned (by rintro (_ | _) <;> exact silent_pure _) with
    ⟨answered, told, rest, later⟩
  cases answered with
  | error message =>
      rcases (Program.returns_pure wafError _ _).mp later with ⟨-, rfl⟩
      exact Tells.failed configured Asks.list (Or.inl told) Admits.error
  | ok content =>
      cases read : desk.library.cmcListResponse content with
      | error reason =>
          simp only [decoded, read] at later
          rcases (Program.returns_pure wafError _ _).mp later with ⟨-, rfl⟩
          exact Tells.failed configured Asks.list (Or.inr ⟨content, told, reason, read⟩)
            Admits.error
      | ok modules =>
          simp only [decoded, read, mergeSort_rows] at later
          rcases (Program.returns_pure _ _ _).mp later with ⟨-, rfl⟩
          exact Tells.reports configured Asks.list told (Reports.list read)

/-- An update is reported when it was accepted, whatever its echo. -/
theorem tells_update {α : Type} {service : RuleManagementService} {route : RuleRoute}
    {endpoint : Endpoint} {body : Option ByteArray} {fallback : α}
    {decode : ByteArray -> Except String α} {given : α -> RuleResponse}
    {next : Except String α -> RuleHandler RuleResponse}
    (configured : desk.ruleManagement = some service)
    (asked : Asks desk visit route endpoint body)
    (returned : (RuleHandler.client (service.exchange desk.library endpoint body >>=
      fun answered => pure (cosmetic fallback decode answered)) >>= next).Returns
        transcript response)
    (refused : forall message, next (.error message) = pure wafError)
    (noted : forall outcome, next (.ok outcome) =
      RuleHandler.session Auth.authenticatedUsername >>= fun _ => pure (given outcome))
    (reports : forall content,
      Reports desk route content (given (unwrapOr fallback (decode content)))) :
    Tells desk visit route (exchanges transcript) response := by
  have silent : forall outcome, (next outcome).Only Inside := by
    rintro (message | outcome)
    · rw [refused]
      exact silent_pure _
    · rw [noted]
      exact (silent_session _).bind fun _ => silent_pure _
  rcases function_returns returned silent with ⟨answered, told, rest, later⟩
  cases answered with
  | error message =>
      rw [cosmetic, refused] at later
      rcases (Program.returns_pure _ _ _).mp later with ⟨-, rfl⟩
      exact Tells.failed configured asked (Or.inl told) Admits.error
  | ok content =>
      rw [cosmetic, noted] at later
      -- the session is read for the log only
      rcases (Program.returns_bind _ _ _ _).mp later with ⟨first, second, name, rfl, -, last⟩
      rcases (Program.returns_pure _ _ _).mp last with ⟨-, rfl⟩
      exact Tells.reports configured asked told (reports content)

theorem tells_cmcUpdate {form : CmcUpdateForm}
    (returned : (desk.cmcUpdate visit form).Returns transcript response) :
    Tells desk visit (.cmcUpdate form) (exchanges transcript) response := by
  unfold cmcUpdate at returned
  split at returned
  · exact tells_pure (Tells.own (own_failure (by decide))) returned
  rename_i verified
  split at returned
  · exact tells_pure (Tells.own (own_failure (by decide))) returned
  rename_i service configured
  split at returned
  · exact tells_pure (Tells.own (own_failure (by decide))) returned
  rename_i accepted
  rw [Bool.not_eq_true', Bool.not_eq_false] at verified accepted
  rcases acceptsModules_iff.mp accepted with ⟨some', bounded, named⟩
  unfold RuleManagementService.updateCmc at returned
  cases encoded : desk.library.serde.toVec (cmcUpdateRequest form.modules) with
  | error message =>
      rw [encoded] at returned
      exact tells_pure (Tells.unasked Admits.error) returned
  | ok body =>
      rw [encoded] at returned
      exact tells_update configured (Asks.modules verified some' bounded named encoded) returned
        (fun _ => rfl) (fun _ => rfl) fun _ => Reports.modules

theorem tells_regexUpdate {query : RegexRuleQuery} {form : RegexUpdateForm}
    (returned : (desk.regexUpdate visit query form).Returns transcript response) :
    Tells desk visit (.regexUpdate query form) (exchanges transcript) response := by
  unfold regexUpdate at returned
  split at returned
  · exact tells_pure (Tells.own (own_failure (by decide))) returned
  rename_i verified
  split at returned
  · exact tells_pure (Tells.own (own_failure (by decide))) returned
  rename_i list parsed
  split at returned
  · exact tells_pure (Tells.own (own_failure (by decide))) returned
  rename_i service configured
  split at returned
  · exact tells_pure (Tells.own (own_failure (by decide))) returned
  rename_i body checked
  rw [Bool.not_eq_true', Bool.not_eq_false] at verified
  have named := RegexRuleList.parse_eq_some.mp parsed
  exact tells_update configured (Asks.update verified named checked) returned
    (fun _ => rfl) (fun _ => rfl) fun _ => Reports.update named

/-- The editor shows what was loaded, or what is wrong. -/
theorem edited_response {list : RegexRuleList} {shown : String × Bool × String}
    (returned : ((RuleHandler.session Auth.isAdmin >>= fun showAcl =>
      pure (.regexEditPage ⟨showAcl, true, list.asStr, list.editorMode, shown.1, shown.2.1,
        shown.2.2⟩)) : RuleHandler RuleResponse).Returns transcript response) :
    Exists fun showAcl => response = .regexEditPage
      ⟨showAcl, true, list.asStr, list.editorMode, shown.1, shown.2.1, shown.2.2⟩ := by
  rcases (Program.returns_bind _ _ _ _).mp returned with ⟨first, second, showAcl, rfl, -, later⟩
  exact ⟨showAcl, ((Program.returns_pure _ _ _).mp later).2.symm⟩

theorem silent_edited {list : RegexRuleList} (shown : String × Bool × String) :
    ((RuleHandler.session Auth.isAdmin >>= fun showAcl =>
      pure (.regexEditPage ⟨showAcl, true, list.asStr, list.editorMode, shown.1, shown.2.1,
        shown.2.2⟩)) : RuleHandler RuleResponse).Only Inside :=
  (silent_session _).bind fun _ => silent_pure _

theorem tells_regexEditPage {query : RegexRuleQuery}
    (returned : (desk.regexEditPage query).Returns transcript response) :
    Tells desk visit (.regexEditPage query) (exchanges transcript) response := by
  unfold regexEditPage at returned
  split at returned
  · exact tells_pure (Tells.own (own_redirect _)) returned
  rename_i list parsed
  have named := RegexRuleList.parse_eq_some.mp parsed
  unfold regexContent at returned
  split at returned
  · rw [exchanges_silent (silent_edited _) returned]
    rcases edited_response returned with ⟨showAcl, rfl⟩
    have other : "Rule management is not configured." ≠ wafErrorMessage := by decide
    exact Tells.own ⟨rfl, other⟩
  rename_i service configured
  rw [Program.bind_assoc] at returned
  unfold RuleManagementService.viewRegex at returned
  cases encoded : desk.library.serde.toVec (regexViewRequest list.asStr) with
  | error message =>
      rw [encoded] at returned
      rw [exchanges_silent (silent_edited ("", false, wafErrorMessage)) returned]
      rcases @edited_response _ _ list ("", false, wafErrorMessage) returned with ⟨showAcl, rfl⟩
      exact Tells.unasked (Admits.editor named)
  | ok body =>
      rw [encoded] at returned
      have asked : Asks desk visit _ _ _ := Asks.view named encoded
      rcases function_returns returned (by rintro (_ | _) <;> exact silent_edited _) with
        ⟨answered, told, rest, later⟩
      cases answered with
      | error message =>
          rcases @edited_response _ _ list ("", false, wafErrorMessage) later with ⟨showAcl, rfl⟩
          exact Tells.failed configured asked (Or.inl told) (Admits.editor named)
      | ok content =>
          cases read : desk.library.regexViewResponse content with
          | error reason =>
              simp only [decoded, read] at later
              rcases @edited_response _ _ list ("", false, wafErrorMessage) later with
                ⟨showAcl, rfl⟩
              exact Tells.failed configured asked (Or.inr ⟨content, told, reason, read⟩)
                (Admits.editor named)
          | ok text =>
              simp only [decoded, read] at later
              rcases @edited_response _ _ list (text, true, "") later with ⟨showAcl, rfl⟩
              exact Tells.reports configured asked told (Reports.view named read)

/-- A page of the console's own. -/
theorem tells_page {route : RuleRoute} {page : Bool -> RuleResponse}
    (own : forall showAcl, Own (page showAcl))
    (returned : ((RuleHandler.session Auth.isAdmin >>= fun showAcl => pure (page showAcl)) :
      RuleHandler RuleResponse).Returns transcript response) :
    Tells desk visit route (exchanges transcript) response := by
  rw [exchanges_silent ((silent_session _).bind fun _ => silent_pure _) returned]
  rcases (Program.returns_bind _ _ _ _).mp returned with ⟨first, second, showAcl, rfl, -, later⟩
  rw [← ((Program.returns_pure _ _ _).mp later).2]
  exact Tells.own (own showAcl)

theorem tells_handler {route : RuleRoute}
    (returned : (desk.handler visit route).Returns transcript response) :
    Tells desk visit route (exchanges transcript) response := by
  cases route with
  | cmcPage =>
      refine tells_page ?_ returned
      exact fun _ => True.intro
  | apiCmcList => exact tells_apiCmcList returned
  | cmcUpdate form => exact tells_cmcUpdate returned
  | regexSelectPage =>
      refine tells_page ?_ returned
      exact fun _ => True.intro
  | regexEditPage query => exact tells_regexEditPage returned
  | regexUpdate query form => exact tells_regexUpdate returned

theorem tells_respond {route : RuleRoute}
    (returned : (desk.respond visit route).Returns transcript response) :
    Tells desk visit route (exchanges transcript) response := by
  rcases (Program.returns_bind _ _ _ _).mp returned with
    ⟨first, second, role, rfl, guarded, later⟩
  rw [exchanges_append, exchanges_silent (silent_session _) guarded, List.nil_append]
  cases role with
  | none => exact tells_pure (Tells.own (own_redirect _)) later
  | some role =>
      dsimp only at later
      split at later
      · exact tells_handler later
      · exact tells_pure (Tells.own (own_redirect _)) later

/-! ## Runs -/

/-- What a request has exchanged with the firewall, as the log shows it. -/
def exchangesOf (log : List (Item desk)) (ticket : Nat) : List Exchange :=
  exchanges ((entriesOf log ticket).reverse.map Entry.seen)

/-- A request to the rules that has come to its end has a response, and the response
belongs to what the log shows of the request's exchanges with the firewall. -/
theorem responses_tell {allowed : Condition desk.machine} {state : State}
    {config : Config desk.machine}
    (reached : Reaches desk.service allowed (Config.idle state) config) {ticket : Nat}
    {flight : Flight desk} (answered : config.threads ticket = some ⟨flight, .done ()⟩)
    {visit : Visit} {route : RuleRoute} (rules : flight.request = .rules visit route) :
    Exists fun response => (desk.respond visit route).Returns flight.transcript response ∧
      Tells desk visit route (exchangesOf config.world.log ticket) response := by
  have resumed := Config.resumed (fun _ => rfl) reached answered
  have returned := Program.resumes_to_done.mp resumed
  dsimp only at returned
  rw [rules] at returned
  rcases (Program.returns_bind _ _ _ _).mp returned with
    ⟨first, second, response, whole, responded, last⟩
  rcases (Program.returns_pure _ _ _).mp last with ⟨rfl, -⟩
  rw [List.append_nil] at whole
  subst whole
  refine ⟨response, responded, ?_⟩
  have own : flight.own = entriesOf config.world.log ticket :=
    (attributed_reaches reached).own ticket _ answered
  unfold exchangesOf
  rw [← own]
  exact tells_respond responded

end RuleDesk

namespace Sample

open RuleDesk

/-- The update of a module, with everything but its end. -/
def acknowledged : Option (Config ruleDesk.machine) :=
  (Config.idle ruleState).play ruleDesk.service
    (.accept enabling :: List.replicate 12 (.step 0 ruleDraw))

/-- The route of a request that has nothing left to do. -/
def finishedRoute : Option (Thread ruleDesk.machine) -> Option (Visit × RuleRoute)
  | some ⟨⟨_, .rules visit route, _, _, _, _⟩, .done _⟩ => some (visit, route)
  | _ => none

theorem finishedRoute_some {thread : Option (Thread ruleDesk.machine)} {visit : Visit}
    {route : RuleRoute} (finished : finishedRoute thread = some (visit, route)) :
    Exists fun flight : Flight ruleDesk => thread = some ⟨flight, .done ()⟩ ∧
      flight.request = .rules visit route := by
  unfold finishedRoute at finished
  split at finished
  · cases finished
    exact ⟨_, rfl, rfl⟩
  · cases finished

set_option maxRecDepth 100000 in
theorem responses_tell_enabling :
    Exists fun config => Exists fun visit => Exists fun route => Exists fun response =>
      acknowledged = some config ∧ (exchangesOf config.world.log 0).length = 1 ∧
        Tells ruleDesk visit route (exchangesOf config.world.log 0) response := by
  have replayed : (acknowledged.map fun config => ((exchangesOf config.world.log 0).length,
      (finishedRoute (config.threads 0)).isSome)) = some (1, true) := by decide
  rcases Option.map_eq_some_iff.mp replayed with ⟨config, played, both⟩
  rcases Prod.mk.inj both with ⟨once, ended⟩
  rcases Option.isSome_iff_exists.mp ended with ⟨⟨visit, route⟩, finished⟩
  rcases finishedRoute_some finished with ⟨flight, answered, rules⟩
  rcases responses_tell (Config.play_reaches _ played) answered rules with
    ⟨response, -, tells⟩
  exact ⟨config, visit, route, response, played, once, tells⟩

end Sample
end KrakenUi
