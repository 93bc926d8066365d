import KrakenUi.Guarantees.Authority
import KrakenUi.Guarantees.RequestTokens
import KrakenUi.Guarantees.Restarts
import KrakenUi.Interaction.Audit
import KrakenUi.Interaction.Mirror
import KrakenUi.Controllers.RuleManagement

namespace KrakenUi

open Interaction RegexRules RuleManagement RuleManagementService Text

/-!
# What the firewall hears

Whatever is sent to the firewall was asked for by an operator whom the guard has let
through, in a request of its own with nothing else in it: for an update the form
carried the token, and what is sent is what was submitted, after its checks.  It is
signed for exactly its method, path and body, with the time and the nonce of the
request.  All of it stands in the log in front of the message.
-/

namespace RuleDesk

variable {desk : RuleDesk}

abbrev Item (desk : RuleDesk) := Entry desk.machine

abbrev Flight (desk : RuleDesk) := InFlight desk.machine

/-- A message to the firewall. -/
def sends : (console.beside wire).Command -> Bool
  | .inr (.send _) => true
  | _ => false

/-- A command of the console. -/
def Inside : (console.beside wire).Command -> Prop
  | .inl _ => True
  | .inr _ => False

/-- The guard compared a stored row with the loaded session. -/
structure Vouches (item : Item desk) (account : Int) (operator : Operator) : Prop where
  seen : item.seen = (Signature.inner console wire).carry ⟨.findById account, some operator⟩
  role : Exists fun role => operator.role = some role ∧ role ∈ operatorRoles
  session : Exists fun data : SessionData => item.held.data = some data ∧
    data.authenticatedUserId = some account ∧
      data.authenticatedAuthzVersion = some operator.authzVersion

/-- The names of modules that may be forwarded. -/
structure ModuleName (name : String) : Prop where
  some' : name ≠ ""
  bounded : len name ≤ 128
  plain : forall character, character ∈ name.toList -> isClientIdChar character = true

theorem acceptsModules_iff {modules : ModuleMap} : acceptsModules modules = true ↔
    modules.entries ≠ [] ∧ modules.entries.length ≤ maxModules ∧
      forall entry, entry ∈ modules.entries -> ModuleName entry.1 := by
  have named : forall name, isValidModuleName name = true ↔ ModuleName name := by
    intro name
    unfold isValidModuleName
    rw [Bool.and_eq_true, Bool.and_eq_true, Bool.not_eq_true', decide_eq_true_eq,
      List.all_eq_true, ← Bool.not_eq_true, RegexRules.isEmpty_iff]
    constructor
    · rintro ⟨⟨some', bounded⟩, plain⟩
      exact ⟨some', bounded, plain⟩
    · rintro ⟨some', bounded, plain⟩
      exact ⟨⟨some', bounded⟩, plain⟩
  unfold acceptsModules
  rw [Bool.and_eq_true, Bool.and_eq_true, Bool.not_eq_true', decide_eq_true_eq,
    List.all_eq_true, ← Bool.not_eq_true, List.isEmpty_iff]
  simp only [named, and_assoc]

/-- What a request asks of the firewall, with its checks. -/
inductive Asks (desk : RuleDesk) (visit : Visit) :
    RuleRoute -> Endpoint -> Option ByteArray -> Prop
  | list : Asks desk visit .apiCmcList .listCmc none
  | modules {form : CmcUpdateForm} {body : ByteArray}
      (verified : Csrf.verify visit.token form.csrfToken = true)
      (some' : form.modules.entries ≠ []) (bounded : form.modules.entries.length ≤ maxModules)
      (named : forall entry, entry ∈ form.modules.entries -> ModuleName entry.1)
      (encoded : desk.library.serde.toVec (cmcUpdateRequest form.modules) = .ok body) :
      Asks desk visit (.cmcUpdate form) .updateCmc (some body)
  | view {query : RegexRuleQuery} {list : RegexRuleList} {body : ByteArray}
      (named : query.rule = list.asStr)
      (encoded : desk.library.serde.toVec (regexViewRequest list.asStr) = .ok body) :
      Asks desk visit (.regexEditPage query) .viewRegex (some body)
  | update {query : RegexRuleQuery} {form : RegexUpdateForm} {list : RegexRuleList}
      {body : ByteArray} (verified : Csrf.verify visit.token form.csrfToken = true)
      (named : query.rule = list.asStr)
      (checked : codecFor desk.library.serde list form.content = .ok body) :
      Asks desk visit (.regexUpdate query form) (.updateRegex list) (some body)

/-- The message is signed for its method, path and body, with a time and a nonce that
the request has asked for. -/
def Signed (service : RuleManagementService) (items : List (Item desk)) (endpoint : Endpoint)
    (body : Option ByteArray) (message : Message) : Prop :=
  Exists fun unixTimestamp : Int => Exists fun nonce : Nonce => Exists fun authorization =>
    Saw items (.inr .unixTimestamp) unixTimestamp ∧ Saw items (.inr .copyRandombytes) nonce ∧
      service.rorschachToken desk.library.toLibrary unixTimestamp nonce.val endpoint.method
        endpoint.path (body.getD ByteArray.empty) = some (.ok authorization) ∧
      message = service.message endpoint authorization body

/-- What has to stand in front of a message. -/
structure Warranted (flight : Flight desk) (message : Message) : Prop where
  asked : Exists fun visit => Exists fun route => Exists fun service => Exists fun endpoint =>
    Exists fun body => flight.request = .rules visit route ∧
      desk.ruleManagement = some service ∧ Asks desk visit route endpoint body ∧
        Signed service flight.own endpoint body message
  vouched : Exists fun item => item ∈ flight.own ∧
    Exists fun account => Exists fun operator => Vouches item account operator
  alone : Without sends flight.own

/-- A thread that has panicked does nothing any more, and none does. -/
def hearing (desk : RuleDesk) : Contract desk.machine where
  Permitted := fun flight command =>
    match command with
    | .inl _ => True
    | .inr .abort => False
    | .inr (.send message) => Warranted flight message
    | .inr _ => True
  Settled := fun _ => True

variable {flight after : Flight desk}

/-! ## Programs that say nothing -/

theorem silent_session {α : Type} (program : Handler α) :
    (RuleHandler.session program).Only Inside :=
  Program.only_embedded program fun _ => True.intro

/-- What reads the session keeps the request and says nothing. -/
theorem keeps_silent {α : Type} {program : RuleHandler α}
    (silent : program.Only Inside) (flight : Flight desk) :
    Keeps (hearing desk) program flight (fun _ after => after.request = flight.request ∧
      (Without sends flight.own -> Without sends after.own)) := by
  apply Keeps.only (fun flight after : Flight desk => after.request = flight.request ∧
    (Without sends flight.own -> Without sends after.own)) _ _ _ _ silent
  · exact fun _ => ⟨rfl, id⟩
  · rintro first second third ⟨one, before⟩ ⟨two, later⟩
    exact ⟨two.trans one, fun none => later (before none)⟩
  · intro flight command inner
    cases command with
    | inl command => exact True.intro
    | inr command => exact inner.elim
  · intro flight after command reply inner follows
    cases command with
    | inl command => exact ⟨follows.request, follows.without rfl⟩
    | inr command => exact inner.elim

theorem keeps_nothing {α : Type} {program : RuleHandler α}
    (silent : program.Only Inside) :
    Keeps (hearing desk) program flight (fun _ _ => True) :=
  (keeps_silent silent flight).mono fun _ _ _ => True.intro

/-! ## The guard -/

/-- A request to a route of the rules that the guard has let through. -/
structure Admitted (flight : Flight desk) (visit : Visit) (route : RuleRoute) : Prop where
  request : flight.request = .rules visit route
  vouched : Exists fun item => item ∈ flight.own ∧
    Exists fun account => Exists fun operator => Vouches item account operator
  silent : Without sends flight.own

/-- The console's own guard: who is let through has a row with the role. -/
theorem keeps_empowered {app : AppState} {flight : Console.Flight app} (fresh : flight.own = []) :
    Keeps (Console.authority app) (Auth.authorizedRole app) flight (fun role after =>
      forall allowed, role = some allowed -> forall roles : List OperatorRole, allowed ∈ roles ->
        Exists fun account => Console.Empowered after.own account roles) := by
  refine ((Console.keeps_authorizedRole.returns.recall
    (Console.keeps_unprivileged Privilege.unprivileged_authorizedRole flight))).mono ?_
  rintro role after ⟨⟨⟨request, through⟩, segment, own, returned⟩, -⟩ allowed rfl roles member
  rw [fresh, List.append_nil] at own
  rcases through rfl with ⟨-, account, identified, item, among, passed⟩
  have compared := passed
  rcases compared with ⟨operator, data, seen, rest⟩
  refine ⟨account, item, among, passed, operator, allowed, seen, ?_, member⟩
  rw [own] at among
  exact Console.role_of_returns returned among seen

/-- What the console's guard has seen, seen in the whole machine. -/
theorem vouches_of_empowered {before : Console.Flight desk.app}
    {omitted : Item desk -> Prop} (mirrors : before.Mirrors omitted after)
    {account : Int} (empowered : Console.Empowered before.own account operatorRoles) :
    Exists fun item => item ∈ after.own ∧
      Exists fun account => Exists fun operator => Vouches item account operator := by
  rcases empowered with ⟨item, member, ⟨operator, data, seen, -, loaded, owner, epoch⟩,
    operator', role, seen', stored, among⟩
  rw [seen] at seen'
  cases seen'
  rcases mirrors.own.reflected member with ⟨outer, found, reflects⟩
  refine ⟨outer, found, account, operator, ?_, ⟨role, stored, among⟩, data, ?_, owner, epoch⟩
  · rw [reflects.seen, seen]
  · rw [reflects.held]
    exact loaded

theorem keeps_guard {visit : Visit} {route : RuleRoute} (fresh : flight.own = [])
    (request : flight.request = .rules visit route) :
    Keeps (hearing desk) (RuleHandler.session (Auth.authorizedRole desk.app)) flight
      (fun role after => forall allowed, role = some allowed -> allowed ∈ operatorRoles ->
        Admitted after visit route) := by
  let before : Console.Flight desk.app :=
    ⟨flight.ticket, flight.request.underlying, flight.opened, flight.held, [], []⟩
  have mirrors : before.Mirrors (fun _ => False) flight := by
    refine ⟨rfl, rfl, rfl, rfl, ?_⟩
    rw [fresh]
    exact Mirrored.nil
  have empowered : Keeps (hearing desk) (RuleHandler.session (Auth.authorizedRole desk.app)) flight
      _ := Keeps.embed (fun _ _ _ _ _ => True.intro) (@keeps_empowered desk.app before rfl) mirrors
  refine (empowered.recall (keeps_silent (silent_session _) flight)).mono ?_
  rintro role last ⟨⟨inner, mirrors, empowered⟩, same, silent⟩ allowed rfl member
  rcases empowered allowed rfl operatorRoles member with ⟨account, found⟩
  refine ⟨same.trans request, vouches_of_empowered mirrors found, silent ?_⟩
  rw [fresh]
  exact Without.nil

/-! ## The client -/

/-- The key of a window is always there. -/
theorem rorschachToken_isSome (service : RuleManagementService) (library : Library)
    (unixTimestamp : Int) (nonce : ByteArray) (method path : String) (body : ByteArray) :
    (service.rorschachToken library unixTimestamp nonce method path body).isSome = true := by
  unfold RuleManagementService.rorschachToken
  dsimp only
  split
  · rfl
  rw [(macKeyForStep_some service _).1]
  dsimp only
  split
  · rfl
  · split <;> rfl

/-- The rule for an exchange: it has to be asked for, and the request has been silent. -/
theorem keeps_exchange {α : Type} {visit : Visit} {route : RuleRoute}
    {service : RuleManagementService} {endpoint : Endpoint} {body : Option ByteArray}
    (admitted : Admitted flight visit route) (configured : desk.ruleManagement = some service)
    (asks : Asks desk visit route endpoint body)
    {next : Except String ByteArray -> RuleHandler α} (silent : forall answered,
      (next answered).Only Inside) :
    Keeps (hearing desk)
      (RuleHandler.client (service.exchange desk.library endpoint body) >>= next) flight
      (fun _ _ => True) := by
  refine Keeps.call True.intro ?_
  intro unixTimestamp first looked
  refine Keeps.call True.intro ?_
  intro nonce second drawn
  change Int at unixTimestamp
  change Nonce at nonce
  change Keeps _ ((service.deliver desk.library endpoint body (service.rorschachToken
    desk.library.toLibrary unixTimestamp nonce.val endpoint.method endpoint.path
      (body.getD ByteArray.empty))).embed _ >>= next) _ _
  have some' := rorschachToken_isSome service desk.library.toLibrary unixTimestamp nonce.val
    endpoint.method endpoint.path (body.getD ByteArray.empty)
  cases token : service.rorschachToken desk.library.toLibrary unixTimestamp nonce.val
      endpoint.method endpoint.path (body.getD ByteArray.empty) with
  | none =>
      rw [token] at some'
      cases some'
  | some signed =>
  cases signed with
  | error message => exact keeps_nothing (silent _)
  | ok authorization =>
      have warranted : Warranted second (service.message endpoint authorization body) := by
        refine ⟨⟨visit, route, service, endpoint, body, ?_, configured, asks, unixTimestamp, nonce,
          authorization, looked.saw.mono drawn.subset, drawn.saw, token, rfl⟩, ?_, ?_⟩
        · rw [drawn.request, looked.request, admitted.request]
        · rcases admitted.vouched with ⟨item, member, vouches⟩
          exact ⟨item, drawn.subset (looked.subset member), vouches⟩
        · exact drawn.without rfl (looked.without rfl admitted.silent)
      refine Keeps.call warranted ?_
      intro answered last _
      change Except String HttpAnswer at answered
      cases answered with
      | error message => exact keeps_nothing (silent _)
      | ok answer =>
          have finished : forall answer : HttpAnswer, Keeps (hearing desk)
              ((if answer.isSuccess then pure (.ok answer.body) else pure (.error ("WAF " ++
                endpoint.name ++ " returned HTTP " ++ desk.library.statusText answer.status)) :
                  Program wire (Except String ByteArray)).embed
                (Signature.outer console wire) >>= next) last (fun _ _ => True) := by
            intro answer
            split <;> exact keeps_nothing (silent _)
          exact finished answer

/-- The rule for a function of the client, which reads the answer of an exchange. -/
theorem keeps_function {α β : Type} {visit : Visit} {route : RuleRoute}
    {service : RuleManagementService} {endpoint : Endpoint} {body : Option ByteArray}
    (admitted : Admitted flight visit route) (configured : desk.ruleManagement = some service)
    (asks : Asks desk visit route endpoint body) {read : Except String ByteArray -> β}
    {next : β -> RuleHandler α} (silent : forall value, (next value).Only Inside) :
    Keeps (hearing desk)
      (RuleHandler.client (service.exchange desk.library endpoint body >>=
        fun answered => pure (read answered)) >>= next) flight (fun _ _ => True) := by
  unfold RuleHandler.client
  rw [Program.embed_bind, Program.bind_assoc]
  exact keeps_exchange admitted configured asks fun answered => silent (read answered)

/-! ## The handlers -/

theorem silent_pure {α : Type} (value : α) :
    (pure value : RuleHandler α).Only Inside := Program.only_pure _ value

theorem hearing_apiCmcList {visit : Visit} (admitted : Admitted flight visit .apiCmcList) :
    Keeps (hearing desk) desk.apiCmcList flight (fun _ _ => True) := by
  unfold apiCmcList
  split
  · exact Keeps.pure True.intro
  rename_i service configured
  refine keeps_function admitted configured Asks.list ?_
  intro answered
  cases answered <;> exact silent_pure _

theorem hearing_cmcUpdate {visit : Visit} {form : CmcUpdateForm}
    (admitted : Admitted flight visit (.cmcUpdate form)) :
    Keeps (hearing desk) (desk.cmcUpdate visit form) flight (fun _ _ => True) := by
  unfold cmcUpdate
  split
  · exact Keeps.pure True.intro
  rename_i verified
  split
  · exact Keeps.pure True.intro
  rename_i service configured
  split
  · exact Keeps.pure True.intro
  rename_i accepted
  rw [Bool.not_eq_true', Bool.not_eq_false] at verified accepted
  rcases acceptsModules_iff.mp accepted with ⟨some', bounded, named⟩
  unfold RuleManagementService.updateCmc
  cases encoded : desk.library.serde.toVec (cmcUpdateRequest form.modules) with
  | error message => exact Keeps.pure True.intro
  | ok body =>
      refine keeps_function admitted configured
        (Asks.modules verified some' bounded named encoded) ?_
      intro answered
      cases answered with
      | ok outcome => exact (silent_session _).bind fun _ => silent_pure _
      | error message => exact silent_pure _

theorem hearing_regexContent {visit : Visit} {query : RegexRuleQuery} {list : RegexRuleList}
    (admitted : Admitted flight visit (.regexEditPage query)) (named : query.rule = list.asStr)
    {α : Type} {next : String × Bool × String -> RuleHandler α}
    (silent : forall shown, (next shown).Only Inside) :
    Keeps (hearing desk) (desk.regexContent list >>= next) flight (fun _ _ => True) := by
  unfold regexContent
  split
  · exact keeps_nothing (silent _)
  rename_i service configured
  rw [Program.bind_assoc]
  unfold RuleManagementService.viewRegex
  cases encoded : desk.library.serde.toVec (regexViewRequest list.asStr) with
  | error message => exact keeps_nothing (silent _)
  | ok body =>
      refine keeps_function admitted configured (Asks.view named encoded) ?_
      intro answered
      cases answered <;> exact silent _

theorem hearing_regexEditPage {visit : Visit} {query : RegexRuleQuery}
    (admitted : Admitted flight visit (.regexEditPage query)) :
    Keeps (hearing desk) (desk.regexEditPage query) flight (fun _ _ => True) := by
  unfold regexEditPage
  split
  · exact Keeps.pure True.intro
  rename_i list parsed
  apply hearing_regexContent admitted (RegexRuleList.parse_eq_some.mp parsed)
  intro shown
  exact (silent_session _).bind fun _ => silent_pure _

theorem hearing_regexUpdate {visit : Visit} {query : RegexRuleQuery} {form : RegexUpdateForm}
    (admitted : Admitted flight visit (.regexUpdate query form)) :
    Keeps (hearing desk) (desk.regexUpdate visit query form) flight (fun _ _ => True) := by
  unfold regexUpdate
  split
  · exact Keeps.pure True.intro
  rename_i verified
  split
  · exact Keeps.pure True.intro
  rename_i list parsed
  split
  · exact Keeps.pure True.intro
  rename_i service configured
  split
  · exact Keeps.pure True.intro
  rename_i body checked
  rw [Bool.not_eq_true', Bool.not_eq_false] at verified
  refine keeps_function admitted configured
    (Asks.update verified (RegexRuleList.parse_eq_some.mp parsed) checked) ?_
  intro answered
  cases answered with
  | ok outcome => exact (silent_session _).bind fun _ => silent_pure _
  | error message => exact silent_pure _

theorem hearing_handler {visit : Visit} {route : RuleRoute}
    (admitted : Admitted flight visit route) :
    Keeps (hearing desk) (desk.handler visit route) flight (fun _ _ => True) := by
  cases route with
  | cmcPage => exact keeps_nothing ((silent_session _).bind fun _ => silent_pure _)
  | apiCmcList => exact hearing_apiCmcList admitted
  | cmcUpdate form => exact hearing_cmcUpdate admitted
  | regexSelectPage => exact keeps_nothing ((silent_session _).bind fun _ => silent_pure _)
  | regexEditPage query => exact hearing_regexEditPage admitted
  | regexUpdate query form => exact hearing_regexUpdate admitted

theorem hearing_respond {visit : Visit} {route : RuleRoute} (fresh : flight.own = [])
    (request : flight.request = .rules visit route) :
    Keeps (hearing desk) (desk.respond visit route) flight (fun _ _ => True) := by
  refine (keeps_guard fresh request).bind ?_
  intro role last admits
  cases role with
  | none => exact Keeps.pure True.intro
  | some role =>
      dsimp only
      split
      · rename_i member
        exact hearing_handler (admits role rfl member)
      · exact Keeps.pure True.intro

theorem obeys_hearing (desk : RuleDesk) : Obeys (hearing desk) desk.service := by
  intro world ticket request
  cases request with
  | elsewhere request =>
      exact keeps_nothing ((silent_session _).bind fun _ => Program.only_pure _ _)
  | rules visit route =>
      exact (hearing_respond rfl rfl).bind fun _ _ _ => Keeps.pure True.intro

/-! ## Runs -/

/-- Every entry of the log was performed. -/
theorem genuine_of_log {allowed : Condition desk.machine} {state : State}
    {config : Config desk.machine}
    (reached : Reaches desk.service allowed (Config.idle state) config) {item : Item desk}
    (member : item ∈ config.world.log) : item.Genuine := by
  let growth : Growth desk.machine := {
    Later := fun _ _ => True
    refl := fun _ => True.intro
    trans := fun _ _ => True.intro
    accept := fun _ _ => True.intro
    perform := fun _ => True.intro
    close := fun _ => True.intro
    happen := fun _ => True.intro }
  exact (growth.journal_lasting desk.service allowed state config reached).1.genuine item member

/-- The row that the guard has read was stored at that moment. -/
theorem Vouches.stored {item : Item desk} {account : Int} {operator : Operator}
    (vouches : Vouches item account operator) (genuine : item.Genuine) :
    item.before.database.findOperator account = some operator := by
  rcases genuine with ⟨held, draw, performed⟩
  rw [vouches.seen] at performed
  have inside : Console.perform item.before item.held (.findById account) draw.1 =
    some (some operator, item.after, held) := performed
  exact (Console.perform_findById inside).1.symm

/-- Whatever is sent to the firewall was asked for, in this very request, by somebody
with a stored account for operators; it has passed its checks, is signed, and comes alone. -/
theorem firewall_hears_operators {allowed : Condition desk.machine} {state : State}
    {config : Config desk.machine}
    (reached : Reaches desk.service allowed (Config.idle state) config)
    {newer older : List (Item desk)} {item : Item desk}
    (performed : config.world.log = newer ++ item :: older) {message : Message}
    (sent : item.seen.command = .inr (.send message)) :
    (Exists fun visit => Exists fun route => Exists fun service => Exists fun endpoint =>
      Exists fun body => item.request = .rules visit route ∧
        desk.ruleManagement = some service ∧ Asks desk visit route endpoint body ∧
          Signed service (entriesOf older item.ticket) endpoint body message) ∧
    (Exists fun guarding => guarding ∈ entriesOf older item.ticket ∧
      Exists fun account => Exists fun operator => Vouches guarding account operator ∧
        guarding.before.database.findOperator account = some operator) ∧
    Without sends (entriesOf older item.ticket) := by
  rcases Contract.audited_reaches (obeys_hearing desk) reached newer item older performed with
      ⟨flight, own, request, -, permitted⟩
  rw [sent] at permitted
  have warranted : Warranted flight message := permitted
  rcases warranted with ⟨asked, vouched, alone⟩
  rw [own] at asked vouched alone
  rw [request] at asked
  refine ⟨asked, ?_, alone⟩
  rcases vouched with ⟨guarding, member, account, operator, vouches⟩
  refine ⟨guarding, member, account, operator, vouches, vouches.stored ?_⟩
  apply genuine_of_log reached
  rw [performed]
  exact List.mem_append_right _ (List.mem_cons_of_mem _ (mem_entriesOf.mp member).1)

/-- No thread panics. -/
theorem nothing_aborts {allowed : Condition desk.machine} {state : State}
    {config : Config desk.machine}
    (reached : Reaches desk.service allowed (Config.idle state) config) {ticket : Nat}
    {flight : Flight desk} {rest : Empty -> Program (console.beside wire) Unit}
    (waiting : config.threads ticket = some ⟨flight, .call (.inr .abort) rest⟩) : False :=
  (Keeps.call_iff.mp
    (Invariant.bound_reaches (obeys_hearing desk) (fun _ => rfl) reached _ _ waiting)).1

end RuleDesk

namespace Sample

open RuleDesk

def enablingBody : String := "\x7b\"modules\":\x7b\"CMC-Rules\":\x7b\"HPP_detect\":true\x7d\x7d\x7d"

/-- Libraries that answer always the same, and a configured client. -/
def ruleDesk : RuleDesk where
  app := app
  library := {
    urlSafeNoPad := fun _ => "bm9uY2U"
    generichash := fun _ _ => some emptyDigest
    serde := {
      fromStr := fun _ => .ok .null
      toVec := fun _ => .ok enablingBody.toUTF8
      fromSlice := fun _ => .ok .null }
    cmcListResponse := fun _ => .ok ⟨[], List.Pairwise.nil⟩
    cmcUpdateOutcome := fun _ => .ok { updated := { enabled := ["HPP_detect"] } }
    regexViewResponse := fun _ => .ok ""
    regexUpdateOutcome := fun _ => .ok {}
    statusText := fun status => toString status }
  ruleManagement := some ruleClient

/-- The administrator has signed in and holds the session with id 7. -/
def ruleState : State where
  database := root.getD Database.empty
  sessions := SessionStore.empty.upsert ⟨7, orphan, 5000⟩
  now := 1000
  known := []

/-- The administrator enables one module. -/
def enabling : RuleDesk.Request :=
  .rules (visit (some 7))
    (.cmcUpdate ⟨"token", ⟨[("HPP_detect", true)], List.pairwise_singleton _ _⟩⟩)

def ruleDraw : Draw × RuleDesk.Choice :=
  (({} : Draw), ⟨⟨⟨Array.replicate 64 0⟩, by decide⟩, .ok ⟨200, ByteArray.empty⟩⟩)

/-- The request up to the answer of the firewall. -/
def forwarded : Option (Config ruleDesk.machine) :=
  (Config.idle ruleState).play ruleDesk.service
    (.accept enabling :: List.replicate 11 (.step 0 ruleDraw))

def sentUrl : (console.beside wire).Command -> Option String
  | .inr (.send message) => some message.url
  | _ => none

theorem sentUrl_some {command : (console.beside wire).Command} {url : String}
    (sent : sentUrl command = some url) :
    Exists fun message => command = .inr (.send message) ∧ message.url = url := by
  cases command with
  | inl command => cases sent
  | inr command =>
      cases command with
      | send message => exact ⟨message, rfl, Option.some.inj sent⟩
      | _ => cases sent

set_option maxRecDepth 100000 in
theorem firewall_hears_operators_enabling :
    Exists fun config => Exists fun item => Exists fun older => Exists fun message =>
      forwarded = some config ∧ config.world.log = item :: older ∧
        item.seen.command = .inr (.send message) ∧
        message.url = "https://waf:4342/rule/control/cmc/update" ∧
        Exists fun guarding => guarding ∈ entriesOf older item.ticket ∧
          Exists fun account => Exists fun operator => Vouches guarding account operator := by
  have replayed : (forwarded.bind fun config => config.world.log.head?.bind fun item =>
      sentUrl item.seen.command) = some "https://waf:4342/rule/control/cmc/update" := by decide
  rcases Option.bind_eq_some_iff.mp replayed with ⟨config, played, newest⟩
  rcases Option.bind_eq_some_iff.mp newest with ⟨item, first, posted⟩
  rcases List.head?_eq_some_iff.mp first with ⟨older, whole⟩
  rcases sentUrl_some posted with ⟨message, sent, url⟩
  have performed : config.world.log = [] ++ item :: older := whole
  rcases (firewall_hears_operators (Config.play_reaches _ played) performed sent).2.1 with
      ⟨guarding, member, account, operator, vouches, -⟩
  exact ⟨config, item, older, message, played, whole, sent, url, guarding, member, account,
    operator, vouches⟩

end Sample
end KrakenUi
