import KrakenUi.Protocol.Contract

namespace KrakenUi

open Interaction

/-!
# Single commands in a request's own view

How each kind of command changes what a request holds, and which facts of the
contract it leaves alone.  Most commands do not touch the session at all; for
a request that has loaded its record, reading it again changes nothing either.
A request that only issues such commands stays `Steady`.
-/

namespace Command

/-- The calls of the session library. -/
def touchesSession : Command -> Bool
  | record | insert _ | remove _ | cycleId | flush => true
  | _ => false

/-- The commands that the contract permits without conditions. -/
def isFree : Command -> Bool
  | insert (.authenticatedUserId _) | insert (.authenticatedAuthzVersion _)
  | insert (.authenticatedAt _) | insert (.mfaPendingUserId _) | insert (.mfaPendingAt _)
  | deleteById _ | update _ _ _ | updatePassword _ _ | storeEncryptedPassword _ _
  | beginEnrollment _ _ | disable _ => false
  | _ => true

/-- Reads and writes that have nothing to do with the session. -/
def isQuiet (command : Command) : Bool := !command.touchesSession && command.isFree

end Command

namespace Console

variable {app : AppState} {flight after last : Flight app} {command : Command}
  {reply : command.Reply} {idUser : Int}

theorem permitted_of_free (flight : Flight app) (free : command.isFree = true) :
    Permitted flight command := by
  cases command with
  | insert value => cases value <;> first | exact True.intro | cases free
  | deleteById _ | update _ _ _ | updatePassword _ _ | storeEncryptedPassword _ _
  | beginEnrollment _ _ | disable _ => cases free
  | _ => exact True.intro

/-! ## The session after a command -/

/-- Only the session library changes what a request holds. -/
theorem perform_held {state next : State} {session held : Session} {draw : Draw}
    (quiet : command.touchesSession = false)
    (performed : perform state session command draw = some (reply, next, held)) :
    held = session := by
  cases command with
  | record | insert _ | remove _ | cycleId | flush => cases quiet
  | fail _ => cases performed
  | create _ | update _ _ _ | updatePassword _ _ | deleteById _ | confirmEnrollment _ _ _
  | regenerateRecoveryCodes _ | consumeTotpStep _ _ _ | consumeRecoveryCodeRow _ _ =>
      exact (commit_some performed).2.2
  | storeEncryptedPassword _ _ | recordAuthenticationTimestamp _ _ | beginEnrollment _ _
  | disable _ =>
      exact (commitUnit_some performed).2.2
  | deleteByUserId _ | deleteByUserIdExcept _ _ =>
      simp only [perform] at performed
      split at performed <;> (cases performed; rfl)
  | _ =>
      cases performed
      rfl

theorem performs (follows : flight.Follows after command reply) :
    Exists fun state => Exists fun draw => Exists fun next =>
      perform state flight.held command draw = some (reply, next, after.held) :=
  follows.performed

theorem held_of_quiet (follows : flight.Follows after command reply)
    (quiet : command.touchesSession = false) : after.held = flight.held := by
  rcases performs follows with ⟨state, draw, next, performed⟩
  exact perform_held quiet performed

theorem loaded_of_data {session : Session} {data : SessionData} {state : State}
    (loaded : session.data = some data) : session.loaded state = session := by
  rcases session with ⟨id, stored, modified⟩
  cases loaded
  rfl

/-- Reading the record of a request that has loaded it. -/
theorem record_again {data reply : SessionData} (loaded : flight.held.data = some data)
    (follows : flight.Follows after .record reply) : reply = data ∧ after.held = flight.held := by
  rcases performs follows with ⟨state, draw, next, performed⟩
  rcases perform_record performed with ⟨read, -, held⟩
  exact ⟨by simp [read, Session.current, loaded], held.trans (loaded_of_data loaded)⟩

/-- After the record has been read, the copy is what was read. -/
theorem record_data {reply : SessionData} (follows : flight.Follows after .record reply) :
    after.held.data = some reply := by
  rcases performs follows with ⟨state, draw, next, performed⟩
  rcases perform_record performed with ⟨read, -, held⟩
  rw [held, read]
  rfl

theorem insert_data {value : SessionValue} {data : SessionData} {reply : Unit}
    (loaded : flight.held.data = some data) (follows : flight.Follows after (.insert value) reply) :
    after.held.data = some (data.insert value) ∧ after.held.id = flight.held.id := by
  rcases performs follows with ⟨state, draw, next, performed⟩
  rw [(perform_insert performed).2]
  simp [Session.insert, Session.current, Session.heldId, loaded]

theorem remove_data {key : PendingKey} {data : SessionData} {reply : Unit}
    (loaded : flight.held.data = some data) (follows : flight.Follows after (.remove key) reply) :
    after.held.data = some (data.remove key) ∧ after.held.id = flight.held.id := by
  rcases performs follows with ⟨state, draw, next, performed⟩
  rw [(perform_remove performed).2]
  simp [Session.remove, Session.current, Session.heldId, loaded]

/-- Rotation keeps the data and gives up the id. -/
theorem cycle_data {reply : Unit} (follows : flight.Follows after .cycleId reply) :
    after.held.id = none ∧ after.held.data.isSome = true ∧
      forall data, flight.held.data = some data -> after.held.data = some data := by
  rcases performs follows with ⟨state, draw, next, performed⟩
  rw [(perform_cycleId performed).2]
  refine ⟨rfl, rfl, ?_⟩
  intro data loaded
  simp [Session.cycled, Session.current, loaded]

/-! ## Rows and their numbers -/

theorem findById_reply {operator : Operator}
    (follows : flight.Follows after (.findById idUser) (some operator)) :
    operator.idUser = idUser := by
  rcases performs follows with ⟨state, draw, next, performed⟩
  exact (Database.findOperator_eq_some.mp (perform_findById performed).1.symm).2

theorem updatePassword_reply {hash : String} {operator : Operator}
    (follows : flight.Follows after (.updatePassword idUser hash) operator) :
    operator.idUser = idUser := by
  rcases performs follows with ⟨state, draw, next, performed⟩
  rcases commit_some performed with ⟨changed, -⟩
  exact (Database.findOperator_eq_some.mp (Database.changeAndLoad_spec changed).2).2

/-! ## Facts that stay -/

section Monotone

variable {items more : List (Item app)}

theorem EpochRead.mono {version : Int} (read : EpochRead items idUser version)
    (subset : items ⊆ more) : EpochRead more idUser version := by
  rcases read with ⟨item, member, row⟩
  exact ⟨item, subset member, row⟩

theorem PasswordAccepted.mono {form : LoginForm} (accepted : PasswordAccepted items form idUser)
    (subset : items ⊆ more) : PasswordAccepted more form idUser := by
  rcases accepted with ⟨username, operator, verification, found, owner, verified, valid⟩
  exact ⟨username, operator, verification, found.mono subset, owner, verified.mono subset, valid⟩

theorem Rehashed.mono {replacement : String} (rehashed : Rehashed items idUser replacement)
    (subset : items ⊆ more) : Rehashed more idUser replacement := by
  rcases rehashed with ⟨username, operator, password, found, owner, verified⟩
  exact ⟨username, operator, password, found.mono subset, owner, verified.mono subset⟩

theorem EnabledRead.mono {enabled : Bool} (read : EnabledRead items idUser enabled)
    (subset : items ⊆ more) : EnabledRead more idUser enabled := by
  rcases read with ⟨row, saw, on⟩
  exact ⟨row, saw.mono subset, on⟩

theorem FreshMarker.mono (marker : FreshMarker items idUser) (subset : items ⊆ more) :
    FreshMarker more idUser := by
  rcases marker with ⟨data, startedAt, now, read, owner, started, clock, fresh⟩
  exact ⟨data, startedAt, now, read.mono subset, owner, started, clock.mono subset, fresh⟩

theorem Guarded.mono (guarded : Guarded items idUser) (subset : items ⊆ more) :
    Guarded more idUser := by
  rcases guarded with ⟨item, member, passed⟩
  exact ⟨item, subset member, passed⟩

theorem LastLook.append {look : Item app} (last : LastLook items look)
    {newest : List (Item app)} (away : Without Command.looksAtFactor newest) :
    LastLook (newest ++ items) look := by
  rcases last with ⟨newer, older, rfl, unlooked⟩
  exact ⟨newest ++ newer, older, (List.append_assoc _ _ _).symm,
    Without.append_iff.mpr ⟨away, unlooked⟩⟩

theorem SteppedUp.append (stepped : SteppedUp items idUser) {newest : List (Item app)}
    (away : Without Command.looksAtFactor newest) : SteppedUp (newest ++ items) idUser := by
  rcases stepped with ⟨look, last, settled⟩
  exact ⟨look, last.append away, settled⟩

end Monotone

theorem Verified.append {items : List (Item app)} (verified : Verified items idUser)
    (newest : List (Item app)) : Verified (newest ++ items) idUser := by
  rcases verified with ⟨code, newer, segment, older, rfl, returned⟩
  exact ⟨code, newest ++ newer, segment, older, by simp only [List.append_assoc], returned⟩

theorem Proven.mono (proven : Proven flight idUser) (request : after.request = flight.request)
    {newer : List (Item app)} (own : after.own = newer ++ flight.own) : Proven after idUser := by
  have subset : flight.own ⊆ after.own := by
    rw [own]
    exact List.subset_append_right _ _
  unfold Proven at proven ⊢
  rw [request]
  cases route : flight.request.route with
  | loginSubmit form =>
      rw [route] at proven
      exact ⟨proven.1.mono subset, proven.2.mono subset⟩
  | mfaVerify form =>
      rw [route] at proven
      exact ⟨proven.1.mono subset, by rw [own]; exact proven.2.append newer⟩
  | _ =>
      rw [route] at proven
      exact proven

/-! ## Steady requests -/

/-- The request has only added harmless entries to its journal. -/
structure Steady (flight after : Flight app) : Prop where
  request : after.request = flight.request
  held : after.held = flight.held
  own : Exists fun newer => after.own = newer ++ flight.own ∧ Calm newer

namespace Steady

theorem refl (flight : Flight app) : Steady flight flight :=
  ⟨rfl, rfl, [], rfl, Without.nil⟩

theorem trans (first : Steady flight after) (second : Steady after last) : Steady flight last := by
  rcases first with ⟨request, held, newer, own, calm⟩
  rcases second with ⟨request', held', newer', own', calm'⟩
  refine ⟨request'.trans request, held'.trans held, newer' ++ newer, ?_,
    Without.append_iff.mpr ⟨calm', calm⟩⟩
  rw [own', own, List.append_assoc]

theorem subset (steady : Steady flight after) : flight.own ⊆ after.own := by
  rcases steady.own with ⟨newer, own, -⟩
  rw [own]
  exact List.subset_append_right _ _

theorem identified (steady : Steady flight after) (before : Identified flight idUser) :
    Identified after idUser := by
  rcases before with ⟨data, loaded, owner⟩
  exact ⟨data, by rw [steady.held]; exact loaded, owner⟩

end Steady

theorem marksIdentity_of_quiet (quiet : command.touchesSession = false) :
    command.marksIdentity = false := by
  cases command with
  | insert _ => cases quiet
  | _ => rfl

theorem steady_of_quiet (follows : flight.Follows after command reply)
    (quiet : command.touchesSession = false) : Steady flight after := by
  rcases follows.own with ⟨item, own, seen, -⟩
  refine ⟨follows.request, held_of_quiet follows quiet, [item], own,
    Without.cons_iff.mpr ⟨?_, Without.nil⟩⟩
  rw [seen]
  exact marksIdentity_of_quiet quiet

/-- A program of quiet commands is steady. -/
theorem keeps_quiet {α : Type} {program : Handler α}
    (quiet : program.Only fun command : Command => command.isQuiet = true) (flight : Flight app) :
    Keeps (contract app) program flight (fun _ after => Steady flight after) := by
  refine Keeps.only Steady Steady.refl Steady.trans ?_ ?_ quiet flight
  · intro flight command allowed
    simp only [Command.isQuiet, Bool.and_eq_true] at allowed
    exact permitted_of_free flight allowed.2
  · intro flight after command reply allowed follows
    simp only [Command.isQuiet, Bool.and_eq_true, Bool.not_eq_true'] at allowed
    exact steady_of_quiet follows allowed.1

/-- A program of free commands stays the program of its request. -/
theorem keeps_free {α : Type} {program : Handler α}
    (free : program.Only fun command : Command => command.isFree = true) (flight : Flight app) :
    Keeps (contract app) program flight (fun _ after => after.request = flight.request) := by
  refine Keeps.only (fun flight after : Flight app => after.request = flight.request)
    (fun _ => rfl) (fun one two => two.trans one) ?_ ?_ free flight
  · intro flight command allowed
    exact permitted_of_free flight allowed
  · intro flight after command reply _ follows
    exact follows.request

end Console
end KrakenUi
