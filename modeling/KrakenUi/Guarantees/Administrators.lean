import KrakenUi.Guarantees.Authentication
import KrakenUi.Protocol.Accounts

namespace KrakenUi

open Interaction Storage

/-!
# The last administrator

No request removes the account of its own session or takes the role of that
account away.  What this protects is an actor who is still an administrator.
The role is checked in the guard and not again when the write commits, so two
administrators can remove each other.  If the actor of each such write is still
stored as an administrator when it commits, one administrator always remains.
-/

namespace Database

/-- An administrator is stored. -/
def HasAdmin (database : Database) : Prop :=
  Exists fun operator => operator ∈ database.operators.rows ∧
    operator.operatorType = OperatorRole.admin.asStr

/-- A later row of the same account with the same role is stored. -/
def KeepsRole (database : Database) (operator : Operator) : Prop :=
  Exists fun later => later ∈ database.operators.rows ∧ later.idUser = operator.idUser ∧
    later.operatorType = operator.operatorType

variable {database after : Database} {idUser : Int} {operator : Operator}

theorem keepsRole_of_member (member : operator ∈ database.operators.rows) :
    database.KeepsRole operator :=
  ⟨operator, member, rfl, rfl⟩

theorem keepsRole_of_operators (same : after.operators = database.operators)
    (member : operator ∈ database.operators.rows) : after.KeepsRole operator := by
  apply keepsRole_of_member
  rw [same]
  exact member

end Database

namespace Console

variable {app : AppState} {world : World (machine app)} {flight : Flight app}
  {state next : State} {session held : Session} {command : Command} {reply : command.Reply}
  {draw : Draw} {idUser : Int}

/-- The account that a command may take the role of an administrator from. -/
def unseats : Command -> Option Int
  | .deleteById idUser => some idUser
  | .update idUser input _ =>
      if input.operatorType = OperatorRole.admin.asStr then none else some idUser
  | _ => none

/-- Whoever unseats an administrator is stored as one at that moment. -/
def unseatedByAdmins : Condition (machine app) := fun world flight command =>
  forall target, unseats command = some target ->
    (Exists fun operator => world.state.database.findOperator target = some operator ∧
      operator.operatorType = OperatorRole.admin.asStr) ->
    Exists fun actor => Exists fun operator => Identified flight actor ∧
      world.state.database.findOperator actor = some operator ∧
      operator.operatorType = OperatorRole.admin.asStr

/-- Roles only change by an edit and accounts only go by a deletion. -/
theorem role_kept (performed : perform state session command draw = some (reply, next, held))
    {operator : Operator} (member : operator ∈ state.database.operators.rows)
    (stays : command ≠ .deleteById operator.idUser)
    (unedited : forall input hash, command ≠ .update operator.idUser input hash) :
    next.database.KeepsRole operator := by
  cases turns_perform performed with
  | kept same record epoch => exact Database.keepsRole_of_operators same member
  | created creates numbered named members =>
      exact Database.keepsRole_of_member ((members operator).mpr (Or.inl member))
  | @edited idUser change edits members =>
      refine ⟨_, (members _).mpr ⟨operator, member, rfl⟩, ?_⟩
      split
      · rename_i selected
        refine ⟨(edits.descends operator selected).key.symm, ?_⟩
        rw [edits.role operator selected, Command.roleFor_of_unedited (selected ▸ unedited)]
        rfl
      · exact ⟨rfl, rfl⟩
  | deleted deletes members =>
      apply Database.keepsRole_of_member
      refine (members operator).mpr ⟨member, ?_⟩
      intro same
      exact stays (by rw [deletes, same])

/-- The role after an edit is the role of the form. -/
theorem role_edited {input : UpdateOperator} {hash : Option String} {operator reply : Operator}
    (performed : perform state session (.update operator.idUser input hash) draw =
      some (reply, next, held)) (member : operator ∈ state.database.operators.rows) :
    Exists fun later => later ∈ next.database.operators.rows ∧
      later.operatorType = input.operatorType :=
  ⟨_, ((Database.changeOperator_spec
    (Database.changeAndLoad_spec (commit_some performed).1).1).1 _).mpr
      ⟨operator, member, if_pos rfl⟩, rfl⟩

theorem identified_unique {first second : Int} (one : Identified flight first)
    (two : Identified flight second) : first = second := by
  rcases one with ⟨data, loaded, owner⟩
  rcases two with ⟨again, loadedAgain, ownerAgain⟩
  rw [loaded] at loadedAgain
  cases loadedAgain
  rw [owner] at ownerAgain
  exact Option.some.inj ownerAgain

/-- An actor other than the target is not touched by the write. -/
theorem hasAdmin_of_actor {target actor : Int} {after : State} {held : Session}
    (performed : perform world.state flight.held command draw = some (reply, after, held))
    (identified : Identified flight actor) (different : actor ≠ target)
    (touches : forall other, other ≠ target ->
      command ≠ .deleteById other ∧ forall input hash, command ≠ .update other input hash)
    (acting : Exists fun actor => Exists fun operator => Identified flight actor ∧
      world.state.database.findOperator actor = some operator ∧
      operator.operatorType = OperatorRole.admin.asStr) : after.database.HasAdmin := by
  rcases acting with ⟨other, operator, same, found, admin⟩
  rw [identified_unique same identified] at found
  rcases Database.findOperator_eq_some.mp found with ⟨member, owner⟩
  rcases touches operator.idUser (by rw [owner]; exact different) with ⟨stays, unedited⟩
  rcases role_kept performed member stays unedited with ⟨later, laterMember, -, role⟩
  exact ⟨later, laterMember, role.trans admin⟩

/-- One command leaves an administrator behind. -/
theorem hasAdmin_perform {after : State} {held : Session}
    (performed : perform world.state flight.held command draw = some (reply, after, held))
    (permitted : Permitted flight command) (meets : unseatedByAdmins world flight command)
    (sound : world.state.database.HasAdmin) : after.database.HasAdmin := by
  rcases sound with ⟨operator, member, admin⟩
  have stored : Exists fun found =>
      world.state.database.findOperator operator.idUser = some found ∧
        found.operatorType = OperatorRole.admin.asStr :=
    ⟨operator, Database.findOperator_eq_some.mpr ⟨member, rfl⟩, admin⟩
  by_cases deletes : command = .deleteById operator.idUser
  · subst deletes
    rcases permitted with ⟨actor, identified, different⟩
    refine hasAdmin_of_actor performed identified different ?_ (meets _ rfl stored)
    intro other distinct
    refine ⟨?_, fun _ _ => by simp⟩
    intro same
    cases same
    exact distinct rfl
  by_cases edits : Exists fun input => Exists fun hash => command = .update operator.idUser input hash
  · rcases edits with ⟨input, hash, rfl⟩
    by_cases promoted : input.operatorType = OperatorRole.admin.asStr
    · rcases role_edited performed member with ⟨later, laterMember, role⟩
      exact ⟨later, laterMember, role.trans promoted⟩
    · rcases permitted with ⟨⟨actor, identified, different | same⟩, -⟩
      · refine hasAdmin_of_actor performed identified different ?_
          (meets _ (by simp only [unseats, if_neg promoted]) stored)
        intro other distinct
        refine ⟨by simp, ?_⟩
        intro form secret same
        cases same
        exact distinct rfl
      · exact absurd same promoted
  · have unedited : forall input hash, command ≠ .update operator.idUser input hash :=
      fun input hash same => edits ⟨input, hash, same⟩
    rcases role_kept performed member deletes unedited with ⟨later, laterMember, -, role⟩
    exact ⟨later, laterMember, role.trans admin⟩

/-- An administrator remains in every run whose administrators are only unseated
by administrators. -/
theorem administrator_remains {state : State} (administrated : state.database.HasAdmin)
    {config : Config (machine app)}
    (reached : Reaches (service app) unseatedByAdmins (Config.idle state) config) :
    config.world.state.database.HasAdmin := by
  have kept : Invariant.trivial.Kept (storing app Database.HasAdmin) (contract app)
      unseatedByAdmins := by
    apply storing_kept
    intro world flight command draw reply after held sound permitted meets performed
    exact hasAdmin_perform performed permitted meets sound
  have initial : (storing app Database.HasAdmin).Sound (Config.idle state).world := administrated
  exact (kept.lasting (obeys app) (fun _ => rfl) Invariant.lasting_trivial initial config reached).1

end Console

namespace Sample

/-- A second administrator next to the first. -/
def couple : State where
  database := (root.bind fun database =>
    database.insertOperator 0 "boss" "boss@example" "admin" "hash").getD Database.empty
  sessions := SessionStore.empty
  now := 1000
  known := []

def deletion (cookie : SessionId) (identity : String) : Request :=
  ⟨visit (some cookie), .deleteUserAction ⟨identity, "secret", "", "token"⟩⟩

/-- Both administrators sign in. -/
def openings : Schedule :=
  opening ++ [.accept ⟨visit none, .loginSubmit ⟨"boss", "secret", "token"⟩⟩] ++ steps 1 19 ++
    [.close 1 { sessionId := 8 }]

/-- One administrator deletes the other. -/
def deleting : Schedule := openings ++ [.accept (deletion 7 "2")] ++ steps 2 20

/-- Each has passed guard and step-up before the other one's write commits. -/
def deletingEachOther : Schedule :=
  openings ++ [.accept (deletion 7 "2")] ++ steps 2 18 ++ [.accept (deletion 8 "1")] ++
    steps 3 18 ++ steps 2 1 ++ steps 3 1

theorem couple_hasAdmin : couple.database.HasAdmin :=
  ⟨_, List.mem_cons_self, rfl⟩

/-- The test of a run in which only administrators unseat anyone. -/
def actsAsAdmin (world : World (Console.machine app)) (flight : Console.Flight app)
    (command : Command) : Bool :=
  match Console.unseats command with
  | none => true
  | some _ =>
      ((flight.held.data.bind SessionData.authenticatedUserId).bind
        world.state.database.findOperator).any fun operator =>
          operator.operatorType = OperatorRole.admin.asStr

theorem unseatedByAdmins_of_actsAsAdmin (world : World (Console.machine app))
    (flight : Console.Flight app) (command : Command)
    (passed : actsAsAdmin world flight command = true) :
    Console.unseatedByAdmins world flight command := by
  intro target unseats _
  simp only [actsAsAdmin, unseats, Option.any_eq_true] at passed
  rcases passed with ⟨operator, stored, admin⟩
  rcases Option.bind_eq_some_iff.mp stored with ⟨actor, named, found⟩
  rcases Option.bind_eq_some_iff.mp named with ⟨data, loaded, owner⟩
  exact ⟨actor, operator, ⟨data, loaded, owner⟩, found, of_decide_eq_true admin⟩

set_option maxRecDepth 100000 in
theorem administrator_remains_deleting :
    Exists fun config =>
      (Config.idle couple).playWhile (Console.service app) actsAsAdmin deleting = some config ∧
      config.world.state.database.operators.rows.length = 1 ∧
      config.world.state.database.HasAdmin := by
  have replayed : ((Config.idle couple).playWhile (Console.service app) actsAsAdmin deleting).map
      (fun config => config.world.state.database.operators.rows.length) = some 1 := by decide
  rcases Option.map_eq_some_iff.mp replayed with ⟨config, played, same⟩
  exact ⟨config, played, same, Console.administrator_remains couple_hasAdmin
    (Config.playWhile_reaches unseatedByAdmins_of_actsAsAdmin deleting played)⟩

set_option maxRecDepth 100000 in
/-- Two administrators who delete each other leave an empty table. -/
theorem administrator_lost :
    ¬ forall state, state.database.HasAdmin -> forall config,
      Reaches (Console.service app) anyCommand (Config.idle state) config ->
      config.world.state.database.HasAdmin := by
  intro remains
  have replayed : (run couple deletingEachOther).map (fun config =>
      config.world.state.database.operators.rows) = some [] := by decide
  rcases Option.map_eq_some_iff.mp replayed with ⟨config, played, empty⟩
  rcases remains couple couple_hasAdmin config (Config.play_reaches _ played) with
      ⟨operator, member, -⟩
  rw [empty] at member
  cases member

end Sample
end KrakenUi
