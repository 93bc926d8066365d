import KrakenUi.Protocol.SecondFactor

namespace KrakenUi

open Interaction

/-!
# Guarded requests under the contract

Every route except the sign-in routes, the challenge page and the bootstrap
starts with the guard.  The guard leaves a journal entry in which the stored
epoch of the account was compared with the session's, and a loaded record that
names the account.  Nothing a guarded handler does afterwards changes whom it
acts for.
-/

namespace Command

/-- Commands that leave the account of the loaded record alone, and that do not
look at the second factor. -/
def isPlain : Command -> Bool
  | flush | totpRow _ | consumeTotpStep _ _ _ | consumeRecoveryCodeRow _ _ => false
  | command => command.isFree

theorem isPlain_free {command : Command} (plain : command.isPlain = true) :
    command.isFree = true := by
  cases command with
  | flush | totpRow _ | consumeTotpStep _ _ _ | consumeRecoveryCodeRow _ _ => cases plain
  | _ => exact plain

theorem isPlain_away {command : Command} (plain : command.isPlain = true) :
    command.looksAtFactor = false := by
  cases command with
  | totpRow _ | consumeTotpStep _ _ _ | consumeRecoveryCodeRow _ _ => cases plain
  | _ => rfl

end Command

namespace Console

variable {app : AppState} {flight after last : Flight app} {idUser : Int} {α β : Type}

/-- Commands that need no permission, as a condition on programs. -/
abbrev Free (command : Command) : Prop := command.isFree = true

abbrev Plain (command : Command) : Prop := command.isPlain = true

theorem free_of_quiet {program : Handler α} (quiet : program.Only Quiet) : program.Only Free := by
  refine quiet.mono ?_
  intro command allowed
  simp only [Quiet, Command.isQuiet, Bool.and_eq_true] at allowed
  exact allowed.2

/-! ## Whom a request acts for -/

/-- The request has gone on for the same account. -/
structure Onward (flight after : Flight app) : Prop where
  request : after.request = flight.request
  identified : forall idUser, Identified flight idUser -> Identified after idUser
  own : Exists fun newer => after.own = newer ++ flight.own ∧ Without Command.looksAtFactor newer

namespace Onward

theorem refl (flight : Flight app) : Onward flight flight :=
  ⟨rfl, fun _ identified => identified, [], rfl, Without.nil⟩

theorem trans (first : Onward flight after) (second : Onward after last) : Onward flight last := by
  rcases first with ⟨request, identified, newer, own, away⟩
  rcases second with ⟨request', identified', newer', own', away'⟩
  refine ⟨request'.trans request, fun idUser known => identified' idUser (identified idUser known),
    newer' ++ newer, ?_, Without.append_iff.mpr ⟨away', away⟩⟩
  rw [own', own, List.append_assoc]

theorem subset (onward : Onward flight after) : flight.own ⊆ after.own := by
  rcases onward.own with ⟨newer, own, -⟩
  rw [own]
  exact List.subset_append_right _ _

theorem steppedUp (onward : Onward flight after) (before : SteppedUp flight.own idUser) :
    SteppedUp after.own idUser := by
  rcases onward.own with ⟨newer, own, away⟩
  rw [own]
  exact before.append away

theorem unenrolled (onward : Onward flight after) (before : Unenrolled flight.own idUser) :
    Unenrolled after.own idUser := by
  rcases onward.own with ⟨newer, own, away⟩
  rcases before with ⟨look, last, off⟩
  rw [own]
  exact ⟨look, last.append away, off⟩

end Onward

/-- A free command other than `flush` keeps the account of the loaded record. -/
theorem identified_of_free {command : Command} {reply : command.Reply}
    (follows : flight.Follows after command reply) (free : command.isFree = true)
    (kept : command ≠ .flush) (identified : Identified flight idUser) :
    Identified after idUser := by
  rcases identified with ⟨data, loaded, owner⟩
  cases command with
  | record => exact ⟨data, by rw [(record_again loaded follows).2]; exact loaded, owner⟩
  | insert value =>
      refine ⟨data.insert value, (insert_data loaded follows).1, ?_⟩
      cases value with
      | authenticatedUserId _ => cases free
      | _ => exact owner
  | remove key =>
      refine ⟨data.remove key, (remove_data loaded follows).1, ?_⟩
      cases key <;> exact owner
  | cycleId => exact ⟨data, (cycle_data follows).2.2 data loaded, owner⟩
  | flush => exact absurd rfl kept
  | _ => exact ⟨data, by rw [held_of_quiet follows rfl]; exact loaded, owner⟩

theorem onward_of_plain {command : Command} {reply : command.Reply}
    (follows : flight.Follows after command reply) (plain : command.isPlain = true) :
    Onward flight after := by
  rcases follows.own with ⟨item, own, seen, -⟩
  refine ⟨follows.request, ?_, [item], own, Without.cons_iff.mpr ⟨?_, Without.nil⟩⟩
  · intro idUser identified
    refine identified_of_free follows (Command.isPlain_free plain) ?_ identified
    rintro rfl
    cases plain
  · rw [seen]
    exact Command.isPlain_away plain

theorem keeps_plain {program : Handler α} (plain : program.Only Plain) (flight : Flight app) :
    Keeps (contract app) program flight (fun _ after => Onward flight after) := by
  refine Keeps.only Onward Onward.refl Onward.trans ?_ ?_ plain flight
  · intro flight command allowed
    exact permitted_of_free flight (Command.isPlain_free allowed)
  · intro flight after command reply allowed follows
    exact onward_of_plain follows allowed

/-- The rule for a plain command in front of a program. -/
theorem keeps_plainly {command : Command} {rest : command.Reply -> Handler α}
    {post : α -> Flight app -> Prop} (plain : Plain command)
    (next : forall reply after, flight.Follows after command reply -> Onward flight after ->
      Keeps (contract app) (rest reply) after post) :
    Keeps (contract app) (call command >>= rest) flight post := by
  refine keeps_call (permitted_of_free flight (Command.isPlain_free plain)) ?_
  intro reply after follows
  exact next reply after follows (onward_of_plain follows plain)

/-- The rule for reading the record again: the reply is known. -/
theorem keeps_again {data : SessionData} {rest : SessionData -> Handler α}
    {post : α -> Flight app -> Prop} (loaded : flight.held.data = some data)
    (next : forall after, after.held.data = some data -> Onward flight after ->
      Keeps (contract app) (rest data) after post) :
    Keeps (contract app) (call .record >>= rest) flight post := by
  refine keeps_plainly rfl ?_
  intro reply after follows onward
  rcases record_again loaded follows with ⟨rfl, held⟩
  exact next after (by rw [held]; exact loaded) onward

/-! ## The guard -/

theorem plain_rotateSessionIdIfDue (now : Int) : (Auth.rotateSessionIdIfDue now).Only Plain := by
  refine only_step rfl ?_
  intro data
  split
  · exact only_command Plain rfl
  · split
    · exact only_value Plain ()
    · exact only_step rfl fun _ => only_command Plain rfl

/-- What the guard leaves behind when it lets a request through. -/
def LetThrough (flight after : Flight app) : Prop :=
  after.request = flight.request ∧
    Exists fun idUser => Identified after idUser ∧ Guarded after.own idUser

theorem keeps_refuse :
    Keeps (contract app) Auth.refuse flight
      (fun role after => after.request = flight.request ∧
        (role.isSome = true -> LetThrough flight after)) := by
  refine keeps_call (permitted_of_free flight rfl) ?_
  intro reply after follows
  exact Keeps.pure ⟨follows.request, fun some => by cases some⟩

/-- The guard compares the stored epoch with the epoch of the loaded record. -/
theorem keeps_authorizedRole :
    Keeps (contract app) (Auth.authorizedRole app) flight
      (fun role after => after.request = flight.request ∧
        (role.isSome = true -> LetThrough flight after)) := by
  have refused : forall {middle : Flight app}, Onward flight middle ->
      Keeps (contract app) Auth.refuse middle
        (fun role after => after.request = flight.request ∧
          (role.isSome = true -> LetThrough flight after)) := by
    intro middle onward
    refine keeps_refuse.mono ?_
    rintro role after ⟨request, through⟩
    refine ⟨request.trans onward.request, ?_⟩
    intro some
    rcases through some with ⟨request', passed⟩
    exact ⟨request'.trans onward.request, passed⟩
  refine keeps_plainly rfl ?_
  intro data first looked onward₁
  have loaded₁ := record_data looked
  dsimp only
  cases owner : data.authenticatedUserId with
  | none => exact Keeps.pure ⟨onward₁.request, fun some => by cases some⟩
  | some idUser =>
  refine keeps_again loaded₁ ?_
  intro second loaded₂ onward₂
  have sofar₂ := onward₁.trans onward₂
  dsimp only
  cases data.authenticatedOperatorType.bind OperatorRole.parse with
  | none => exact refused sofar₂
  | some sessionRole =>
  refine keeps_again loaded₂ ?_
  intro third loaded₃ onward₃
  have sofar₃ := sofar₂.trans onward₃
  dsimp only
  cases epoch : data.authenticatedAuthzVersion with
  | none => exact refused sofar₃
  | some sessionAuthzVersion =>
  refine keeps_again loaded₃ ?_
  intro fourth loaded₄ onward₄
  have sofar₄ := sofar₃.trans onward₄
  cases data.authenticatedAt with
  | none => exact refused sofar₄
  | some authenticatedAt =>
  refine keeps_step rfl ?_
  intro now fifth clock steady
  have sofar₅ := sofar₄.trans (onward_of_plain clock rfl)
  split
  · exact refused sofar₅
  refine keeps_step rfl ?_
  intro found sixth read steady'
  have sofar₆ := sofar₅.trans (onward_of_plain read rfl)
  change Option Operator at found
  cases found with
  | none => exact refused sofar₆
  | some operator =>
  dsimp only
  cases operator.role with
  | none => exact refused sofar₆
  | some currentRole =>
  dsimp only
  split
  · exact refused sofar₆
  rename_i matching
  simp only [not_or, not_not] at matching
  refine (keeps_plain (plain_rotateSessionIdIfDue now) sixth).bind ?_
  intro _ seventh rotated
  refine Keeps.pure ⟨(sofar₆.trans rotated).request, ?_⟩
  intro _
  have identified : Identified sixth idUser := by
    refine ⟨data, ?_, owner⟩
    rw [steady'.held, steady.held]
    exact loaded₄
  have guarded : Guarded sixth.own idUser := by
    rcases read.own with ⟨item, own, seen, held⟩
    refine ⟨item, by rw [own]; exact List.mem_cons_self, operator, data, seen,
      findById_reply read, ?_, owner, ?_⟩
    · rw [held, steady.held]
      exact loaded₄
    · rw [epoch, matching.2]
  exact ⟨(sofar₆.trans rotated).request, idUser, rotated.identified idUser identified,
    guarded.mono rotated.subset⟩

/-- A request that has passed the guard. -/
structure Acting (flight : Flight app) (idUser : Int) : Prop where
  guardedRoute : flight.request.route.signsIn = false
  identified : Identified flight idUser
  guarded : Guarded flight.own idUser

theorem Acting.onward (acting : Acting flight idUser) (onward : Onward flight after) :
    Acting after idUser where
  guardedRoute := by rw [onward.request]; exact acting.guardedRoute
  identified := onward.identified idUser acting.identified
  guarded := acting.guarded.mono onward.subset

theorem Acting.steady (acting : Acting flight idUser) (steady : Steady flight after) :
    Acting after idUser where
  guardedRoute := by rw [steady.request]; exact acting.guardedRoute
  identified := steady.identified acting.identified
  guarded := acting.guarded.mono steady.subset

/-- A guarded handler only has to keep the contract for a request that acts for
someone. -/
theorem keeps_guard {allowedRoles : List OperatorRole} {next : Handler Response}
    (route : flight.request.route.signsIn = false)
    (inner : forall (after : Flight app) idUser, Acting after idUser ->
      Keeps (contract app) next after (fun _ last => last.request = after.request)) :
    Keeps (contract app) (Routes.guard app allowedRoles next) flight
      (fun _ after => after.request = flight.request) := by
  refine keeps_authorizedRole.bind ?_
  rintro role after ⟨request, through⟩
  cases role with
  | none => exact Keeps.pure request
  | some role =>
      rcases through rfl with ⟨-, idUser, identified, guarded⟩
      dsimp only
      split
      · refine (inner after idUser ⟨by rw [request]; exact route, identified, guarded⟩).mono ?_
        intro _ last same
        exact same.trans request
      · exact Keeps.pure request

end Console
end KrakenUi
