import KrakenUi.Guarantees.FirewallRules
import KrakenUi.Protocol.Provenance

namespace KrakenUi

open Interaction RuleManagement

/-!
# The pages of the rules are pages

The console was modelled with one route for all pages that only render or ask the
firewall.  Here the requests to the rules are followed call by call, among all other
requests, and the console with them is still the console as it was modelled: on
accounts and sessions a request to the rules does what a page for operators does.
-/

namespace Console

theorem perform_settled {state after : State} {session held : Session} {command : Command}
    {draw : Draw} {reply : command.Reply} (loaded : session.data.isSome = true)
    (performed : perform state session command draw = some (reply, after, held)) :
    held.data.isSome = true := by
  cases touches : command.touchesSession with
  | true => exact data_of_touching touches performed
  | false =>
      rw [perform_held touches performed]
      exact loaded

/-- A request that has loaded its session record may look at it again. -/
def reading (app : AppState) : Looks (machine app) where
  look := fun command => command = .record
  settles := fun command => command = .record
  settled := fun session => session.data.isSome = true
  settling := by
    rintro state held command draw reply after held' rfl performed
    have read : perform state held .record draw = some (reply, after, held') := performed
    exact data_of_touching rfl read
  stays := fun loaded performed => perform_settled loaded performed
  still := by
    rintro state held command draw reply after held' loaded rfl performed
    rcases Option.isSome_iff_exists.mp loaded with ⟨data, present⟩
    have read : perform state held .record draw = some (reply, after, held') := performed
    rcases perform_record read with ⟨-, unchanged, kept⟩
    exact ⟨unchanged, kept.trans (loaded_of_data present)⟩

end Console

namespace RuleDesk

variable {desk : RuleDesk}

/-- What the requests to the rules do that the console does not hear of. -/
abbrev Unheard (desk : RuleDesk) : (console.beside wire).Command -> Prop :=
  (Console.reading desk.app).unheard

theorem unheard_client {α : Type} (program : Program wire α) :
    (RuleHandler.client program).Only (Unheard desk) :=
  Program.only_embedded program fun _ => True.intro

theorem unheard_session {α : Type} {program : Handler α}
    (reads : program.Only fun command => command = Command.record) :
    (RuleHandler.session program).Only (Unheard desk) :=
  Program.only_embed reads fun _ same => same

theorem unheard_isAdmin : (RuleHandler.session Auth.isAdmin).Only (Unheard desk) := by
  apply unheard_session
  exact (Program.only_call _ _ _).mpr ⟨rfl, fun _ => Program.only_pure _ _⟩

theorem unheard_authenticatedUsername :
    (RuleHandler.session Auth.authenticatedUsername).Only (Unheard desk) := by
  apply unheard_session
  exact (Program.only_call _ _ _).mpr ⟨rfl, fun _ => Program.only_pure _ _⟩

/-- Behind the guard nothing is done but reading the session and asking the firewall. -/
theorem unheard_handler (visit : Visit) (route : RuleRoute) :
    (desk.handler visit route).Only (Unheard desk) := by
  cases route with
  | cmcPage => exact unheard_isAdmin.bind fun _ => Program.only_pure _ _
  | apiCmcList =>
      change (desk.apiCmcList).Only _
      unfold apiCmcList
      split
      · exact Program.only_pure _ _
      · refine (unheard_client _).bind ?_
        intro answered
        cases answered <;> exact Program.only_pure _ _
  | cmcUpdate form =>
      change (desk.cmcUpdate visit form).Only _
      unfold cmcUpdate
      split
      · exact Program.only_pure _ _
      split
      · exact Program.only_pure _ _
      split
      · exact Program.only_pure _ _
      refine (unheard_client _).bind ?_
      intro answered
      cases answered with
      | ok outcome => exact unheard_authenticatedUsername.bind fun _ => Program.only_pure _ _
      | error message => exact Program.only_pure _ _
  | regexSelectPage => exact unheard_isAdmin.bind fun _ => Program.only_pure _ _
  | regexEditPage query =>
      change (desk.regexEditPage query).Only _
      unfold regexEditPage
      split
      · exact Program.only_pure _ _
      rename_i list _
      have shows : (desk.regexContent list).Only (Unheard desk) := by
        unfold regexContent
        split
        · exact Program.only_pure _ _
        · refine (unheard_client _).bind ?_
          intro answered
          cases answered <;> exact Program.only_pure _ _
      exact shows.bind fun _ => unheard_isAdmin.bind fun _ => Program.only_pure _ _
  | regexUpdate query form =>
      change (desk.regexUpdate visit query form).Only _
      unfold regexUpdate
      split
      · exact Program.only_pure _ _
      split
      · exact Program.only_pure _ _
      split
      · exact Program.only_pure _ _
      split
      · exact Program.only_pure _ _
      refine (unheard_client _).bind ?_
      intro answered
      cases answered with
      | ok outcome => exact unheard_authenticatedUsername.bind fun _ => Program.only_pure _ _
      | error message => exact Program.only_pure _ _

/-- The guard begins with a look at the record. -/
theorem authorizedRole_reads (app : AppState) :
    Exists fun rest => Auth.authorizedRole app = .call Command.record rest :=
  ⟨_, rfl⟩

/-- The guard of the rules, once the record has been loaded. -/
theorem tracks_guarded (visit : Visit) (route : RuleRoute)
    (checks : Handler (Option OperatorRole)) :
    Tracks (Console.reading desk.app) true
      (checks >>= fun role => (match role with
          | some role => if role ∈ operatorRoles then pure Response.page else pure Response.toLogin
          | none => pure Response.toLogin : Handler Response) >>= fun _ => pure ())
      (checks.embed (Signature.inner console wire) >>= fun role => (match role with
          | some role =>
              if role ∈ operatorRoles then desk.handler visit route
              else pure (.redirect "/kraken_ui/login")
          | none => pure (.redirect "/kraken_ui/login") : RuleHandler RuleResponse) >>=
        fun _ => pure ()) := by
  apply tracks_bind
  intro role
  cases role with
  | none => exact Tracks.done
  | some role =>
      dsimp only
      split
      · exact tracks_omitted (unheard_handler visit route) fun _ => Tracks.done
      · exact Tracks.done

/-- Every request is followed by the console's request that it stands for. -/
theorem tracks_service (request : Request) :
    Tracks (Console.reading desk.app) false (Console.service desk.app request.underlying)
      (desk.service request) := by
  cases request with
  | elsewhere request => exact tracks_bind fun _ => Tracks.done
  | rules visit route =>
      rcases authorizedRole_reads desk.app with ⟨rest, reads⟩
      change Tracks _ _ ((Auth.authorizedRole desk.app >>= _) >>= _)
        (((Auth.authorizedRole desk.app).embed _ >>= _) >>= _)
      rw [reads, Program.bind_assoc, Program.bind_assoc]
      have settles : (Console.reading desk.app).settles Command.record :=
        (rfl : Command.record = Command.record)
      exact Tracks.settle settles fun data => tracks_guarded visit route (rest data)

/-- What happens in the console with the pages of the rules, happens in the console:
the same state, and the same log but for the calls to the firewall and the looks at
a loaded record. -/
theorem rule_pages_are_pages {allowed : Condition (Console.machine desk.app)} {state : State}
    {config : Config desk.machine}
    (reached : Reaches desk.service (allowed.mirrored (Console.reading desk.app))
      (Config.idle state) config) :
    Exists fun console : Config (Console.machine desk.app) =>
      Reaches (Console.service desk.app) allowed (Config.idle state) console ∧
        console.Mirrors (Console.reading desk.app) config :=
  mirrored_reaches tracks_service reached

end RuleDesk

namespace Sample

/-- The update of a module to the end of its request. -/
def answered : Option (Config ruleDesk.machine) :=
  (Config.idle ruleState).play ruleDesk.service
    (.accept enabling :: List.replicate 12 (.step 0 ruleDraw) ++ [.close 0 ruleDraw])

/-- The session has been marked in the database, as by a page. -/
def rotated (state : State) : Option Int :=
  (state.sessions.load 1000 7).bind fun record => record.data.sessionRotatedAt

set_option maxRecDepth 100000 in
theorem rule_pages_are_pages_enabling :
    Exists fun config => Exists fun console : Config (Console.machine app) =>
      answered = some config ∧ Reaches (Console.service app) anyCommand (Config.idle ruleState)
        console ∧ console.world.state = config.world.state ∧
        rotated console.world.state = some 1000 := by
  have replayed : (answered.bind fun config => rotated config.world.state) = some 1000 := by
    decide
  rcases Option.bind_eq_some_iff.mp replayed with ⟨config, played, marked⟩
  rcases @RuleDesk.rule_pages_are_pages ruleDesk anyCommand ruleState config
    (reaches_mirrored (Config.play_reaches _ played)) with ⟨console, reached, mirrors⟩
  refine ⟨config, console, played, reached, mirrors.state.symm, ?_⟩
  rw [← mirrors.state]
  exact marked

end Sample
end KrakenUi
