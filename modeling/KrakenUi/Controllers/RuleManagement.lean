import KrakenUi.Controllers.Routes
import KrakenUi.Interaction.Beside
import KrakenUi.Services.RuleClient

namespace KrakenUi

open Interaction RegexRules RuleManagement Text

/-!
# The rule-management controller

The pages for the modules and the rule lists of the firewall, and the two updates.
The browser never talks to the firewall: a handler reads the session with the calls
of the console, and the firewall through its client.  Both kinds of calls stand in
the source's order, and other requests may intervene between any two of them.
-/

/-- A handler that also uses the client of the firewall. -/
abbrev RuleHandler := Program (console.beside wire)

namespace RuleHandler

variable {α : Type}

def session (program : Handler α) : RuleHandler α :=
  program.embed (Signature.inner console wire)

def client (program : Program wire α) : RuleHandler α :=
  program.embed (Signature.outer console wire)

end RuleHandler

structure CmcModuleRow where
  name : String
  status : Bool
  deriving DecidableEq

structure CmcUpdateForm where
  csrfToken : String
  modules : ModuleMap

structure RegexRuleQuery where
  rule : String

structure RegexUpdateForm where
  csrfToken : String
  content : String

structure RuleManagementCmcTemplate where
  showAcl : Bool
  showRuleManagement : Bool
  configured : Bool
  deriving DecidableEq

structure RuleManagementRegexSelectTemplate where
  showAcl : Bool
  showRuleManagement : Bool
  configured : Bool
  ruleLists : List String
  deriving DecidableEq

structure RuleManagementRegexEditTemplate where
  showAcl : Bool
  showRuleManagement : Bool
  ruleName : String
  editorMode : String
  content : String
  loaded : Bool
  errorMessage : String
  deriving DecidableEq

inductive RuleResponse where
  | redirect (path : String)
  /-- A status with an error for the operator. -/
  | failure (status : Nat) (error : String)
  | cmcPage (template : RuleManagementCmcTemplate)
  | regexSelectPage (template : RuleManagementRegexSelectTemplate)
  | regexEditPage (template : RuleManagementRegexEditTemplate)
  | cmcList (data : List CmcModuleRow)
  | cmcUpdated (updated : CmcUpdated)
  | regexUpdated (rule : String) (rulesWritten : Nat)
  deriving DecidableEq

def RegexRuleList.editorMode : RegexRuleList -> String
  | .scanners => "ace/mode/text"
  | _ => "ace/mode/json"

/-- What the handlers take from the state of the application. -/
structure RuleDesk where
  app : AppState
  library : WafLibrary
  ruleManagement : Option RuleManagementService

namespace RuleDesk

def regexSelectPath : String := "/kraken_ui/auth/rule_management/regex"

def maxModules : Nat := 1024

def wafErrorMessage : String := "error in WAF server"

def isValidModuleName (name : String) : Bool :=
  !isEmpty name && decide (len name ≤ 128) && name.toList.all isClientIdChar

def wafError : RuleResponse := .failure 502 wafErrorMessage

def notConfigured : RuleResponse := .failure 503 "Rule management is not configured"

def invalidCsrfToken : RuleResponse := .failure 403 "invalid csrf token"

variable (desk : RuleDesk)

def cmcPage : RuleHandler RuleResponse := do
  let showAcl ← RuleHandler.session Auth.isAdmin
  return .cmcPage ⟨showAcl, true, desk.ruleManagement.isSome⟩

def apiCmcList : RuleHandler RuleResponse :=
  match desk.ruleManagement with
  | none => pure notConfigured
  | some service => do
      match ← RuleHandler.client (service.listCmc desk.library) with
      | .ok modules =>
          let data := modules.entries.map fun entry => (⟨entry.1, entry.2⟩ : CmcModuleRow)
          return .cmcList (data.mergeSort fun left right => decide (left.name ≤ right.name))
      | .error _ => return wafError

/-- A set of modules that may be forwarded. -/
def acceptsModules (modules : ModuleMap) : Bool :=
  !modules.entries.isEmpty && decide (modules.entries.length ≤ maxModules) &&
    modules.entries.all fun entry => isValidModuleName entry.1

def cmcUpdate (visit : Visit) (form : CmcUpdateForm) : RuleHandler RuleResponse :=
  if !Csrf.verify visit.token form.csrfToken then pure invalidCsrfToken
  else match desk.ruleManagement with
    | none => pure notConfigured
    | some service =>
        if !acceptsModules form.modules then pure (.failure 400 "invalid module set")
        else do
          match ← RuleHandler.client (service.updateCmc desk.library form.modules) with
          | .ok outcome => do
              let _username ← RuleHandler.session Auth.authenticatedUsername
              return .cmcUpdated outcome.updated
          | .error _ => return wafError

def regexSelectPage : RuleHandler RuleResponse := do
  let showAcl ← RuleHandler.session Auth.isAdmin
  return .regexSelectPage
    ⟨showAcl, true, desk.ruleManagement.isSome, RegexRuleList.all.map RegexRuleList.asStr⟩

/-- The content of the editor, whether it was loaded, and what is wrong. -/
def regexContent (list : RegexRuleList) : RuleHandler (String × Bool × String) :=
  match desk.ruleManagement with
  | none => pure ("", false, "Rule management is not configured.")
  | some service => do
      match ← RuleHandler.client (service.viewRegex desk.library list) with
      | .ok content => return (content, true, "")
      | .error _ => return ("", false, wafErrorMessage)

def regexEditPage (query : RegexRuleQuery) : RuleHandler RuleResponse :=
  match RegexRuleList.parse query.rule with
  | none => pure (.redirect regexSelectPath)
  | some list => do
      let shown ← desk.regexContent list
      let showAcl ← RuleHandler.session Auth.isAdmin
      return .regexEditPage
        { showAcl := showAcl
          showRuleManagement := true
          ruleName := list.asStr
          editorMode := list.editorMode
          content := shown.1
          loaded := shown.2.1
          errorMessage := shown.2.2 }

def regexUpdate (visit : Visit) (query : RegexRuleQuery) (form : RegexUpdateForm) :
    RuleHandler RuleResponse :=
  if !Csrf.verify visit.token form.csrfToken then pure invalidCsrfToken
  else match RegexRuleList.parse query.rule with
    | none => pure (.failure 400 "unknown rule list")
    | some list =>
        match desk.ruleManagement with
        | none => pure notConfigured
        | some service =>
            match codecFor desk.library.serde list form.content with
            | .error error => pure (.failure 400 error.message)
            | .ok body => do
                match ← RuleHandler.client (service.updateRegex desk.library list body) with
                | .ok outcome => do
                    let _username ← RuleHandler.session Auth.authenticatedUsername
                    return .regexUpdated list.asStr outcome.rulesWritten
                | .error _ => return wafError

/-! ## The routes -/

inductive RuleRoute where
  | cmcPage
  | apiCmcList
  | cmcUpdate (form : CmcUpdateForm)
  | regexSelectPage
  | regexEditPage (query : RegexRuleQuery)
  | regexUpdate (query : RegexRuleQuery) (form : RegexUpdateForm)

/-- The roles of `require_operator`. -/
def operatorRoles : List OperatorRole := [.admin, .operator]

def requireOperator (next : RuleHandler RuleResponse) : RuleHandler RuleResponse := do
  match ← RuleHandler.session (Auth.authorizedRole desk.app) with
  | some role => if role ∈ operatorRoles then next else pure (.redirect "/kraken_ui/login")
  | none => pure (.redirect "/kraken_ui/login")

def handler (visit : Visit) : RuleRoute -> RuleHandler RuleResponse
  | .cmcPage => desk.cmcPage
  | .apiCmcList => desk.apiCmcList
  | .cmcUpdate form => desk.cmcUpdate visit form
  | .regexSelectPage => desk.regexSelectPage
  | .regexEditPage query => desk.regexEditPage query
  | .regexUpdate query form => desk.regexUpdate visit query form

def respond (visit : Visit) (route : RuleRoute) : RuleHandler RuleResponse :=
  desk.requireOperator (desk.handler visit route)

/-- A request to one of the pages of the rules, or to another page. -/
inductive Request where
  | elsewhere (request : KrakenUi.Request)
  | rules (visit : Visit) (route : RuleRoute)

/-- The request of the console that a request is: the pages of the rules are pages
for operators. -/
def Request.underlying : Request -> KrakenUi.Request
  | elsewhere request => request
  | rules visit _ => ⟨visit, .page operatorRoles⟩

/-- The environment's part of a call of the client. -/
structure Choice where
  nonce : Nonce
  answer : Except String HttpAnswer

/-- What a call of the client is answered.  The firewall is anywhere else. -/
def answer (state : State) (command : WireCommand) (choice : Choice) : Option command.Reply :=
  match command with
  | .abort => none
  | .unixTimestamp => some state.now
  | .copyRandombytes => some choice.nonce
  | .send _ => some choice.answer

/-- The machine of the whole console, with the firewall outside. -/
abbrev machine : Semantics (console.beside wire) :=
  (Console.machine desk.app).outward wire Request.underlying Choice answer

def service : Service desk.machine
  | .elsewhere request => do
      let _response ← RuleHandler.session (Routes.respond desk.app request)
      pure ()
  | .rules visit route => do
      let _response ← desk.respond visit route
      pure ()

end RuleDesk
end KrakenUi
