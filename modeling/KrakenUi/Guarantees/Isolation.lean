import KrakenUi.Guarantees.Authentication
import KrakenUi.Guarantees.RateLimits
import KrakenUi.Interaction.Unwinding
import KrakenUi.Protocol.Idle
import KrakenUi.RateLimiting

namespace KrakenUi

open Interaction Net Metering Idling

/-!
# Clients do not throttle each other

The limiters and the throttle are shared maps.  Events of one client touch
entries of another only by deleting what has no effect any more, and the keys of
two clients never coincide, whatever text stands in a user name.  So a client
gets the same answers whether the others are there or not.
-/

namespace Isolation

/-! ## Keys -/

/-- What the throttle and the login limiter count separately. -/
inductive LoginKey where
  | address
  | account (username : String)
  | code (idUser : Int)
  deriving DecidableEq

namespace LoginKey

/-- The key of the login throttle. -/
def text (ip : IpAddr) : LoginKey -> String
  | address => "ip:" ++ ip.toString
  | account username => "ip:" ++ ip.toString ++ "|user:" ++ username
  | code idUser => "mfa:" ++ ip.toString ++ "|user:" ++ toString idUser

end LoginKey

/-- What the table of the persistent limiters counts separately. -/
inductive TableKey where
  | request
  | login (key : LoginKey)
  deriving DecidableEq

namespace TableKey

def text (ip : IpAddr) : TableKey -> String
  | request => ip.toString
  | login key => "login:" ++ key.text ip

end TableKey

/-- Two texts without the separator, cut at its first occurrence. -/
theorem cut {left right leftRest rightRest : List Char} {separator : Char}
    (leftFree : separator ∉ left) (rightFree : separator ∉ right)
    (same : left ++ separator :: leftRest = right ++ separator :: rightRest) :
    left = right ∧ leftRest = rightRest := by
  induction left generalizing right with
  | nil =>
      cases right with
      | nil => exact ⟨rfl, (List.cons.inj same).2⟩
      | cons first rest =>
          have equal := (List.cons.inj same).1
          rw [equal] at rightFree
          exact absurd List.mem_cons_self rightFree
  | cons first rest inductionHypothesis =>
      cases right with
      | nil =>
          have equal := (List.cons.inj same).1
          rw [equal] at leftFree
          exact absurd List.mem_cons_self leftFree
      | cons other more =>
          rcases List.cons.inj same with ⟨heads, tails⟩
          rcases inductionHypothesis (fun member => leftFree (List.mem_cons_of_mem _ member))
              (fun member => rightFree (List.mem_cons_of_mem _ member)) tails with ⟨rests, ends⟩
          exact ⟨by rw [heads, rests], ends⟩

theorem barless (ip : IpAddr) : '|' ∉ ip.toString.toList := fun member =>
  absurd (ip.isAddressChar_of_mem _ member) (by decide)

theorem toString_eq {ip other : IpAddr} (same : ip.toString.toList = other.toString.toList) :
    ip = other := IpAddr.toString_injective (String.toList_inj.mp same)

theorem whole_ne_cut {ip other : IpAddr} {rest : List Char} :
    ip.toString.toList ≠ other.toString.toList ++ '|' :: rest := by
  intro same
  have bar : '|' ∈ ip.toString.toList := by
    rw [same]
    exact List.mem_append_right _ List.mem_cons_self
  exact barless ip bar

/-- The text of a key without its first letters. -/
theorem LoginKey.text_toList (ip : IpAddr) (key : LoginKey) :
    (key.text ip).toList = match key with
      | address => "ip:".toList ++ ip.toString.toList
      | account username =>
          "ip:".toList ++ (ip.toString.toList ++ '|' :: ("user:".toList ++ username.toList))
      | code idUser =>
          "mfa:".toList ++ (ip.toString.toList ++ '|' :: ("user:".toList ++ (toString idUser).toList)) := by
  cases key <;> simp [text, String.toList_append]

/-- Keys of the throttle are different for different clients, purposes and users. -/
theorem LoginKey.text_injective {ip other : IpAddr} {key key' : LoginKey}
    (same : key.text ip = key'.text other) : ip = other ∧ key = key' := by
  have texts := congrArg String.toList same
  rw [text_toList, text_toList] at texts
  cases key with
  | address =>
      cases key' with
      | address => exact ⟨toString_eq (List.append_cancel_left texts), rfl⟩
      | account username => exact absurd (List.append_cancel_left texts) whole_ne_cut
      | code idUser => exact absurd (List.cons.inj texts).1 (by decide)
  | account username =>
      cases key' with
      | address => exact absurd (List.append_cancel_left texts).symm whole_ne_cut
      | account name =>
          rcases cut (barless ip) (barless other) (List.append_cancel_left texts) with ⟨ips, names⟩
          refine ⟨toString_eq ips, ?_⟩
          rw [String.toList_inj.mp (List.append_cancel_left names)]
      | code idUser => exact absurd (List.cons.inj texts).1 (by decide)
  | code idUser =>
      cases key' with
      | address => exact absurd (List.cons.inj texts).1 (by decide)
      | account username => exact absurd (List.cons.inj texts).1 (by decide)
      | code number =>
          rcases cut (barless ip) (barless other) (List.append_cancel_left texts) with
              ⟨ips, numbers⟩
          refine ⟨toString_eq ips, ?_⟩
          rw [Numeral.toString_injective
            (String.toList_inj.mp (List.append_cancel_left numbers))]

/-- Keys of the table are different for different clients, purposes and users. -/
theorem TableKey.text_injective {ip other : IpAddr} {key key' : TableKey}
    (same : key.text ip = key'.text other) : ip = other ∧ key = key' := by
  have spelled : forall (ip other : IpAddr) (key : LoginKey),
      ip.toString ≠ "login:" ++ key.text other := by
    intro ip other key equal
    have letter : 'l' ∈ ip.toString.toList := by
      rw [equal, String.toList_append]
      exact List.mem_append_left _ (by decide)
    exact absurd (ip.isAddressChar_of_mem _ letter) (by decide)
  cases key with
  | request =>
      cases key' with
      | request => exact ⟨IpAddr.toString_injective same, rfl⟩
      | login key => exact absurd same (spelled _ _ _)
  | login key =>
      cases key' with
      | request => exact absurd same.symm (spelled _ _ _)
      | login other =>
          have texts := congrArg String.toList same
          unfold text at texts
          rw [String.toList_append, String.toList_append] at texts
          rcases LoginKey.text_injective (String.toList_inj.mp (List.append_cancel_left texts)) with
              ⟨ips, keys⟩
          exact ⟨ips, by rw [keys]⟩

/-! ## Handlers keep to the keys of their client -/

/-- The command concerns no other keys of the throttles than these, of this client. -/
def Uses (keys : LoginKey -> Prop) (ip : IpAddr) : Command -> Prop
  | .lockedFor key | .recordFailure key | .recordSuccess key =>
      Exists fun own => keys own ∧ key = own.text ip
  | .retryAfter key => Exists fun own => keys own ∧ key = (TableKey.login own).text ip
  | _ => True

/-- The command concerns no key of another client. -/
def Concerns (ip : IpAddr) : Command -> Prop := Uses (fun _ => True) ip

/-- The keys of a sign-in. -/
def signInKeys : LoginKey -> Prop
  | .address | .account _ => True
  | .code _ => False

/-- The keys of the code challenge. -/
def codeKeys : LoginKey -> Prop
  | .code _ => True
  | .address | .account _ => False

section Handlers

variable {app : AppState} {ip : IpAddr} {keys : LoginKey -> Prop}

theorem uses_of_idle {command : Command} (idle : Idle command) : Uses keys ip command := by
  cases command <;> first | exact True.intro | exact idle.elim

theorem uses_idle {α : Type} {program : Handler α} (only : program.Only Idle) :
    program.Only (Uses keys ip) :=
  only.mono fun _ idle => uses_of_idle idle

theorem concerns_of_uses {command : Command} (uses : Uses keys ip command) :
    Concerns ip command := by
  cases command with
  | lockedFor key | recordFailure key | recordSuccess key | retryAfter key =>
      rcases uses with ⟨own, -, same⟩
      exact ⟨own, True.intro, same⟩
  | _ => exact True.intro

/-- Both keys of a sign-in belong to the client. -/
theorem uses_registerLoginFailure (username : String) :
    (Auth.registerLoginFailure (LoginKey.address.text ip) ((LoginKey.account username).text ip)
      username).Only (Uses signInKeys ip) := by
  apply only_step ⟨LoginKey.address, True.intro, rfl⟩
  intro _
  apply only_step ⟨LoginKey.account username, True.intro, rfl⟩
  intro _
  split
  · exact only_value _ _
  · exact only_step True.intro fun _ => only_value _ _

theorem uses_finishLogin (username : String) (operator : Operator) :
    (Auth.finishLogin app (LoginKey.address.text ip) ((LoginKey.account username).text ip)
      operator).Only (Uses signInKeys ip) := by
  unfold Auth.finishLogin
  split
  · exact only_value _ _
  · apply only_step ⟨LoginKey.address, True.intro, rfl⟩
    intro _
    apply only_step ⟨LoginKey.account username, True.intro, rfl⟩
    intro _
    apply (uses_idle (idle_routine (routine_isEnabled _))).bind
    intro enabled
    split
    · exact only_step True.intro fun _ => only_step True.intro fun _ =>
        only_step True.intro fun _ => only_step True.intro fun _ => only_value _ _
    · apply only_step True.intro
      intro _
      exact (uses_idle (idle_routine (routine_establishSession operator))).bind fun _ =>
        only_value _ _

theorem uses_checkPassword (username password : String) :
    (Auth.checkPassword app (LoginKey.address.text ip) ((LoginKey.account username).text ip)
      username password).Only (Uses signInKeys ip) := by
  have refused : (do
      Auth.registerLoginFailure (LoginKey.address.text ip) ((LoginKey.account username).text ip)
        username
      pure Auth.invalidLogin : Handler Response).Only (Uses signInKeys ip) :=
    (uses_registerLoginFailure username).bind fun _ => only_value _ _
  unfold Auth.checkPassword
  split
  · exact refused
  · apply only_step True.intro
    intro found
    split
    · exact only_step True.intro fun _ => refused
    · rename_i operator
      apply only_step True.intro
      intro verdict
      split
      · exact refused
      · split
        · exact refused
        · have finished := @uses_finishLogin app ip username operator
          split
          · exact (uses_idle (idle_routine (routine_updateEncryptedPassword _ _))).bind fun _ =>
              finished
          · exact finished

theorem uses_loginSubmit (cookie : Option SessionId) (token : Csrf.Token) (form : LoginForm) :
    (Auth.loginSubmit app ⟨cookie, ip.toString, token⟩ form).Only (Uses signInKeys ip) := by
  unfold Auth.loginSubmit
  split
  · exact only_value _ _
  · apply only_step ⟨LoginKey.address, True.intro, rfl⟩
    intro locked
    split
    · exact only_value _ _
    · apply only_step ⟨LoginKey.address, True.intro, rfl⟩
      intro limited
      split
      · exact only_value _ _
      · apply only_step ⟨LoginKey.account _, True.intro, rfl⟩
        intro lockedUser
        split
        · exact only_value _ _
        · apply only_step ⟨LoginKey.account _, True.intro, rfl⟩
          intro limitedUser
          split
          · exact only_value _ _
          · exact uses_checkPassword _ _

theorem uses_checkCode (code : String) (idUser : Int) :
    (Auth.checkCode app ((LoginKey.code idUser).text ip) code idUser).Only (Uses codeKeys ip) := by
  apply only_step True.intro
  intro found
  split
  · exact only_step True.intro fun _ => only_value _ _
  · have checked : (if 32 < Text.len code then pure false
        else OperatorMfaRepository.verifyLoginCode app idUser code : Handler Bool).Only
          (Uses codeKeys ip) := by
      split
      · exact only_value _ _
      · exact uses_idle (idle_routine (routine_verifyLoginCode idUser code))
    apply checked.bind
    intro accepted
    split
    · exact only_step ⟨LoginKey.code idUser, True.intro, rfl⟩ fun _ => only_value _ _
    · unfold Auth.finishMfa
      split
      · exact only_step True.intro fun _ => only_value _ _
      · apply only_step ⟨LoginKey.code idUser, True.intro, rfl⟩
        intro _
        apply only_step True.intro
        intro _
        apply (uses_idle (idle_routine routine_clearMfaPending)).bind
        intro _
        exact (uses_idle (idle_routine (routine_establishSession _))).bind fun _ =>
          only_value _ _

theorem uses_mfaVerify (cookie : Option SessionId) (token : Csrf.Token)
    (form : MfaCodeForm) :
    (Auth.mfaVerify app ⟨cookie, ip.toString, token⟩ form).Only (Uses codeKeys ip) := by
  unfold Auth.mfaVerify
  split
  · exact only_value _ _
  · apply (uses_idle (idle_routine routine_mfaPendingUserId)).bind
    intro pending
    split
    · exact only_value _ _
    · rename_i idUser
      apply only_step ⟨LoginKey.code idUser, True.intro, rfl⟩
      intro locked
      split
      · exact only_value _ _
      · apply only_step ⟨LoginKey.code idUser, True.intro, rfl⟩
        intro limited
        split
        · exact only_value _ _
        · exact uses_checkCode _ idUser

/-- A handler uses keys of its client only. -/
theorem concerns_handler (app : AppState) (ip : IpAddr) (arrival : Arrival) :
    (Traffic.handler app ip arrival).Only (Concerns ip) := by
  cases arrival with
  | other => exact only_value _ _
  | login cookie token form =>
      exact (uses_loginSubmit cookie token form).mono fun _ uses => concerns_of_uses uses
  | code cookie token form =>
      exact (uses_mfaVerify cookie token form).mono fun _ uses => concerns_of_uses uses

end Handlers

/-! ## Limiters that a client cannot tell apart -/

/-- The two limiters agree about the keys of a client. -/
structure Agree (x : IpAddr) (now : Reading) (left right : RateLimiting) : Prop where
  persistent : left.persistent.map SqliteBackend.rate = right.persistent.map SqliteBackend.rate
  loginPersistent : left.loginPersistent.map SqliteBackend.rate =
    right.loginPersistent.map SqliteBackend.rate
  loginThrottle : left.loginThrottle = right.loginThrottle
  table : forall key : TableKey,
    effective now.systemUs (left.table.tatUs (key.text x)) =
      effective now.systemUs (right.table.tatUs (key.text x))
  attempts : forall key : LoginKey,
    left.loginThrottle.standing now.instant (left.attempts (key.text x)) =
      left.loginThrottle.standing now.instant (right.attempts (key.text x))

section Limits

variable {x ip : IpAddr} {now later : Reading} {left right : RateLimiting}

theorem Agree.refl (x : IpAddr) (now : Reading) (limiting : RateLimiting) :
    Agree x now limiting limiting :=
  ⟨rfl, rfl, rfl, fun _ => rfl, fun _ => rfl⟩

theorem Agree.aged (agree : Agree x now left right) (older : now ≤ later) :
    Agree x later left right where
  persistent := agree.persistent
  loginPersistent := agree.loginPersistent
  loginThrottle := agree.loginThrottle
  table := fun key => effective_agree older.1 (agree.table key)
  attempts := fun key => LoginThrottle.standing_agree older.2 (agree.attempts key)

/-- Two optional backends of one rate. -/
theorem rates_cases {left right : Option SqliteBackend}
    (same : left.map SqliteBackend.rate = right.map SqliteBackend.rate) :
    (left = none ∧ right = none) ∨ Exists fun first => Exists fun second =>
      left = some first ∧ right = some second ∧ first.rate = second.rate := by
  cases left with
  | none =>
      cases right with
      | none => exact Or.inl ⟨rfl, rfl⟩
      | some second => cases same
  | some first =>
      cases right with
      | none => cases same
      | some second => exact Or.inr ⟨first, second, rfl, rfl, Option.some.inj same⟩

/-- A check of a key of the client, on both sides. -/
theorem table_own {first second : SqliteBackend} (agree : Agree x now left right)
    (rates : first.rate = second.rate) (checked key : TableKey) :
    effective now.systemUs
        ((first.check now.systemUs (checked.text x) left.table).2.2.tatUs (key.text x)) =
      effective now.systemUs
        ((second.check now.systemUs (checked.text x) right.table).2.2.tatUs (key.text x)) := by
  by_cases same : key.text x = checked.text x
  · rw [same]
    exact SqliteBackend.check_same now.representable.1 rates (agree.table checked)
  · exact (SqliteBackend.transact_other same).trans
      ((agree.table key).trans (SqliteBackend.transact_other same).symm)

/-- A check of a key of another client, on one side. -/
theorem table_foreign {backend : SqliteBackend} (agree : Agree x now left right)
    (different : ip ≠ x) (checked key : TableKey) :
    effective now.systemUs
        ((backend.check now.systemUs (checked.text ip) left.table).2.2.tatUs (key.text x)) =
      effective now.systemUs (right.table.tatUs (key.text x)) := by
  have other : key.text x ≠ checked.text ip := fun same =>
    different (TableKey.text_injective same).1.symm
  exact (SqliteBackend.transact_other other).trans (agree.table key)

theorem checkRequest_own (agree : Agree x now left right) (key : TableKey) :
    (left.checkRequest now (key.text x)).1 = (right.checkRequest now (key.text x)).1 ∧
      Agree x now (left.checkRequest now (key.text x)).2
        (right.checkRequest now (key.text x)).2 := by
  unfold RateLimiting.checkRequest
  rcases rates_cases agree.persistent with ⟨none, none'⟩ | ⟨first, second, some, some', rates⟩
  · rw [none, none']
    exact ⟨rfl, agree⟩
  · rw [some, some']
    dsimp only
    constructor
    · rw [SqliteBackend.check_answer now.representable.1 rates (agree.table key)]
    · constructor
      · exact congrArg Option.some rates
      · exact agree.loginPersistent
      · exact agree.loginThrottle
      · exact table_own agree rates key
      · exact agree.attempts

theorem checkRequest_foreign (agree : Agree x now left right) (different : ip ≠ x)
    (key : TableKey) : Agree x now (left.checkRequest now (key.text ip)).2 right := by
  unfold RateLimiting.checkRequest
  cases found : left.persistent with
  | none => exact agree
  | some backend =>
      have rates := agree.persistent
      rw [found] at rates
      exact ⟨rates, agree.loginPersistent, agree.loginThrottle,
        table_foreign agree different key, agree.attempts⟩

theorem checkLogin_own (agree : Agree x now left right) (key : TableKey) :
    (left.checkLogin now (key.text x)).1 = (right.checkLogin now (key.text x)).1 ∧
      Agree x now (left.checkLogin now (key.text x)).2
        (right.checkLogin now (key.text x)).2 := by
  unfold RateLimiting.checkLogin
  rcases rates_cases agree.loginPersistent with
    ⟨none, none'⟩ | ⟨first, second, some, some', rates⟩
  · rw [none, none']
    exact ⟨rfl, agree⟩
  · rw [some, some']
    dsimp only
    constructor
    · rw [SqliteBackend.check_answer now.representable.1 rates (agree.table key)]
    · constructor
      · exact agree.persistent
      · exact congrArg Option.some rates
      · exact agree.loginThrottle
      · exact table_own agree rates key
      · exact agree.attempts

theorem checkLogin_foreign (agree : Agree x now left right) (different : ip ≠ x)
    (key : TableKey) : Agree x now (left.checkLogin now (key.text ip)).2 right := by
  unfold RateLimiting.checkLogin
  cases found : left.loginPersistent with
  | none => exact agree
  | some backend =>
      have rates := agree.loginPersistent
      rw [found] at rates
      exact ⟨agree.persistent, rates, agree.loginThrottle,
        table_foreign agree different key, agree.attempts⟩

/-- New entries of the throttle that still agree. -/
theorem Agree.withAttempts (agree : Agree x now left right) {first second : Attempts}
    (attempts : forall key : LoginKey,
      left.loginThrottle.standing now.instant (first (key.text x)) =
        left.loginThrottle.standing now.instant (second (key.text x))) :
    Agree x now { left with attempts := first } { right with attempts := second } :=
  ⟨agree.persistent, agree.loginPersistent, agree.loginThrottle, agree.table, attempts⟩

theorem other_text {key own : LoginKey} (different : ip ≠ x) : key.text x ≠ own.text ip :=
  fun same => different (LoginKey.text_injective same).1.symm

theorem recordFailure_own (agree : Agree x now left right) (own : LoginKey) :
    (left.loginThrottle.recordFailure now.instant (own.text x) left.attempts).1 =
      (right.loginThrottle.recordFailure now.instant (own.text x) right.attempts).1 ∧
    forall key : LoginKey,
      left.loginThrottle.standing now.instant
        ((left.loginThrottle.recordFailure now.instant (own.text x) left.attempts).2
          (key.text x)) =
      left.loginThrottle.standing now.instant
        ((right.loginThrottle.recordFailure now.instant (own.text x) right.attempts).2
          (key.text x)) := by
  have moderate := left.moderate
  rw [← agree.loginThrottle]
  constructor
  · rw [LoginThrottle.recordFailure_answer moderate, LoginThrottle.recordFailure_answer moderate,
      agree.attempts own]
  · intro key
    by_cases same : key.text x = own.text x
    · rw [same, LoginThrottle.recordFailure_same moderate,
        LoginThrottle.recordFailure_same moderate, agree.attempts own]
    · rw [LoginThrottle.recordFailure_other moderate same,
        LoginThrottle.recordFailure_other moderate same, agree.attempts key]

theorem recordSuccess_own (agree : Agree x now left right) (own key : LoginKey) :
    left.loginThrottle.standing now.instant
        (LoginThrottle.recordSuccess (own.text x) left.attempts (key.text x)) =
      left.loginThrottle.standing now.instant
        (LoginThrottle.recordSuccess (own.text x) right.attempts (key.text x)) := by
  unfold LoginThrottle.recordSuccess
  by_cases same : key.text x = own.text x
  · rw [same, LoginThrottle.setAttempt_same, LoginThrottle.setAttempt_same]
  · rw [LoginThrottle.setAttempt_other same, LoginThrottle.setAttempt_other same]
    exact agree.attempts key

/-- A call that concerns the client is answered alike, and the limiters still agree. -/
theorem perform_own (environment : (command : Command) -> Option command.Reply)
    (agree : Agree x now left right) {command : Command} (concerns : Concerns x command) :
    (left.perform now environment command).1 = (right.perform now environment command).1 ∧
      (left.perform now environment command).2.2 = (right.perform now environment command).2.2 ∧
      Agree x now (left.perform now environment command).2.1
        (right.perform now environment command).2.1 := by
  cases command with
  | lockedFor key =>
      rcases concerns with ⟨own, -, rfl⟩
      have answers : (LoginThrottle.lockedFor now.instant (own.text x) left.attempts).1 =
          (LoginThrottle.lockedFor now.instant (own.text x) right.attempts).1 := by
        rw [@LoginThrottle.lockedFor_answer left.loginThrottle,
          @LoginThrottle.lockedFor_answer left.loginThrottle, agree.attempts own]
      unfold RateLimiting.perform
      dsimp only
      rw [answers]
      refine ⟨rfl, rfl, agree.withAttempts ?_⟩
      intro key
      rw [LoginThrottle.lockedFor_standing, LoginThrottle.lockedFor_standing, agree.attempts key]
  | retryAfter key =>
      rcases concerns with ⟨own, -, rfl⟩
      rcases checkLogin_own agree (TableKey.login own) with ⟨answers, after⟩
      unfold RateLimiting.perform
      dsimp only
      rw [answers]
      exact ⟨rfl, rfl, after⟩
  | recordFailure key =>
      rcases concerns with ⟨own, -, rfl⟩
      rcases recordFailure_own agree own with ⟨answers, after⟩
      unfold RateLimiting.perform
      dsimp only
      rw [answers]
      exact ⟨rfl, rfl, agree.withAttempts after⟩
  | recordSuccess key =>
      rcases concerns with ⟨own, -, rfl⟩
      exact ⟨rfl, rfl, agree.withAttempts (recordSuccess_own agree own)⟩
  | _ => exact ⟨rfl, rfl, agree⟩

/-- A call that concerns another client does not show. -/
theorem perform_foreign (environment : (command : Command) -> Option command.Reply)
    (agree : Agree x now left right) (different : ip ≠ x) {command : Command}
    (concerns : Concerns ip command) :
    Agree x now (left.perform now environment command).2.1 right := by
  cases command with
  | lockedFor key =>
      rcases concerns with ⟨own, -, rfl⟩
      apply agree.withAttempts
      intro key
      rw [LoginThrottle.lockedFor_standing, agree.attempts key]
  | retryAfter key =>
      rcases concerns with ⟨own, -, rfl⟩
      exact checkLogin_foreign agree different (TableKey.login own)
  | recordFailure key =>
      rcases concerns with ⟨own, -, rfl⟩
      apply agree.withAttempts
      intro key
      rw [LoginThrottle.recordFailure_other left.moderate (other_text different),
        agree.attempts key]
  | recordSuccess key =>
      rcases concerns with ⟨own, -, rfl⟩
      apply agree.withAttempts
      intro key
      unfold LoginThrottle.recordSuccess
      rw [LoginThrottle.setAttempt_other (other_text different), agree.attempts key]
  | _ => exact agree

end Limits

/-! ## Traffic that a client cannot tell apart -/

/-- The limiters agree, the client has the same handlers, and all handlers keep
to the keys of their clients. -/
structure Alike (x : IpAddr) (now : Reading) (left right : Traffic) : Prop where
  limiting : Agree x now left.limiting right.limiting
  handlers : left.handlers x = right.handlers x
  concerns : forall ip ticket program, left.handlers ip ticket = some program ->
    program.Only (Concerns ip)

section Events

variable {app : AppState} {x : IpAddr} {now later : Reading} {left right : Traffic}
  {event : ClientEvent}

theorem Alike.aged (alike : Alike x now left right) (older : now ≤ later) :
    Alike x later left right :=
  ⟨alike.limiting.aged older, alike.handlers, alike.concerns⟩

theorem setHandler_own {ip : IpAddr} {ticket : Nat} {handler : Option (Handler Response)}
    (same : left.handlers ip = right.handlers ip) :
    (left.setHandler ip ticket handler).handlers ip =
      (right.setHandler ip ticket handler).handlers ip := by
  unfold Traffic.setHandler
  funext number
  dsimp only
  rw [same]

theorem setHandler_foreign {ip client : IpAddr} {ticket : Nat}
    {handler : Option (Handler Response)} (different : client ≠ ip) :
    (left.setHandler ip ticket handler).handlers client = left.handlers client := by
  unfold Traffic.setHandler
  funext number
  exact if_neg fun both => different both.1

theorem setHandler_concerns {ip : IpAddr} {ticket : Nat} {handler : Option (Handler Response)}
    (before : forall ip ticket program, left.handlers ip ticket = some program ->
      program.Only (Concerns ip))
    (new : forall program, handler = some program -> program.Only (Concerns ip)) :
    forall client number program,
      (left.setHandler ip ticket handler).handlers client number = some program ->
        program.Only (Concerns client) := by
  intro client number program found
  unfold Traffic.setHandler at found
  dsimp only at found
  split at found
  · rename_i both
    rcases both with ⟨rfl, rfl⟩
    exact new program found
  · exact before client number program found

/-- The next program of a handler keeps to the keys of its client. -/
theorem concerns_next {ip : IpAddr} {command : Command} {next : command.Reply -> Handler Response}
    (only : (Program.call (S := console) command next).Only (Concerns ip))
    {reply : Option command.Reply} :
    forall program, reply.map next = some program -> program.Only (Concerns ip) := by
  rintro program stepped
  rcases Option.map_eq_some_iff.mp stepped with ⟨answer, -, rfl⟩
  exact ((Program.only_call _ _ _).mp only).2 answer

/-- An event of the client is answered alike, and leaves the traffic alike. -/
theorem react_own (alike : Alike event.ip event.now left right) :
    (Traffic.react app left event).1 = (Traffic.react app right event).1 ∧
      Alike event.ip event.now (Traffic.react app left event).2
        (Traffic.react app right event).2 := by
  rcases event with ⟨ip, now, happening⟩
  dsimp only at alike
  cases happening with
  | arrive ticket arrival =>
      rcases checkRequest_own alike.limiting TableKey.request with ⟨answers, after⟩
      change (left.limiting.checkRequest now ip.toString).1 =
        (right.limiting.checkRequest now ip.toString).1 at answers
      unfold Traffic.react
      dsimp only
      rw [answers]
      refine ⟨rfl, ?_⟩
      by_cases admitted : (right.limiting.checkRequest now ip.toString).1.all
          RateLimitDecision.allowed = true
      · rw [if_pos admitted, if_pos admitted]
        constructor
        · exact after
        · exact setHandler_own alike.handlers
        · apply setHandler_concerns alike.concerns
          intro program started
          cases started
          exact concerns_handler app ip arrival
      · rw [if_neg admitted, if_neg admitted]
        exact ⟨after, alike.handlers, alike.concerns⟩
  | step ticket environment =>
      unfold Traffic.react
      dsimp only
      rw [← alike.handlers]
      cases found : left.handlers ip ticket with
      | none => exact ⟨rfl, alike⟩
      | some program =>
          cases program with
          | done value => exact ⟨rfl, alike⟩
          | call command next =>
              have only := alike.concerns ip ticket _ found
              rcases perform_own environment alike.limiting ((Program.only_call _ _ _).mp only).1
                  with ⟨answers, replies, after⟩
              dsimp only
              rw [answers, replies]
              refine ⟨rfl, ?_⟩
              constructor
              · exact after
              · exact setHandler_own alike.handlers
              · exact setHandler_concerns alike.concerns (concerns_next only)

/-- An event of another client does not show. -/
theorem react_foreign (different : event.ip ≠ x) (alike : Alike x event.now left right) :
    Alike x event.now (Traffic.react app left event).2 right := by
  rcases event with ⟨ip, now, happening⟩
  dsimp only at alike different
  cases happening with
  | arrive ticket arrival =>
      have after := checkRequest_foreign alike.limiting different TableKey.request
      unfold Traffic.react
      dsimp only
      split
      · constructor
        · exact after
        · exact (setHandler_foreign different.symm).trans alike.handlers
        · apply setHandler_concerns alike.concerns
          intro program started
          cases started
          exact concerns_handler app ip arrival
      · exact ⟨after, alike.handlers, alike.concerns⟩
  | step ticket environment =>
      unfold Traffic.react
      dsimp only
      cases found : left.handlers ip ticket with
      | none => exact alike
      | some program =>
          cases program with
          | done value => exact alike
          | call command next =>
              have only := alike.concerns ip ticket _ found
              have after := perform_foreign environment alike.limiting different
                ((Program.only_call _ _ _).mp only).1
              constructor
              · exact after
              · exact (setHandler_foreign different.symm).trans alike.handlers
              · exact setHandler_concerns alike.concerns (concerns_next only)

/-- The client cannot tell apart alike traffic. -/
theorem unwinds (app : AppState) (x : IpAddr) :
    Unwinds (Traffic.react app) (fun event => decide (event.ip = x)) ClientEvent.now
      (Alike x) where
  aged := fun older alike => alike.aged older
  answered := by
    intro event left right mine alike
    rcases of_decide_eq_true mine with rfl
    exact (react_own alike).1
  kept := by
    intro event left right mine alike
    rcases of_decide_eq_true mine with rfl
    exact (react_own alike).2
  unseen := fun foreign alike => react_foreign (of_decide_eq_false foreign) alike

end Events

/-- Whatever the other clients send, a client gets the answers that it would get
without them, and no two keys of different clients, purposes or users coincide. -/
theorem clients_are_isolated (app : AppState) (limiting : RateLimiting) (x : IpAddr)
    (events : List ClientEvent)
    (ordered : events.Pairwise fun earlier later => earlier.now ≤ later.now) :
    ((answers (Traffic.react app) (Traffic.idle limiting) events).filter
        (fun answer => decide (answer.1.ip = x)) =
      answers (Traffic.react app) (Traffic.idle limiting)
        (events.filter fun event => decide (event.ip = x))) ∧
    (forall (ip : IpAddr) (arrival : Arrival),
      (Traffic.handler app ip arrival).Only (Concerns ip)) ∧
    (forall (ip other : IpAddr) (key key' : TableKey),
      key.text ip = key'.text other -> ip = other ∧ key = key') ∧
    (forall (ip other : IpAddr) (key key' : LoginKey),
      key.text ip = key'.text other -> ip = other ∧ key = key') := by
  refine ⟨?_, concerns_handler app, fun _ _ _ _ => TableKey.text_injective,
    fun _ _ _ _ => LoginKey.text_injective⟩
  cases events with
  | nil => rfl
  | cons event later =>
      have after : forall other, other ∈ event :: later -> event.now ≤ other.now := by
        intro other member
        rcases List.mem_cons.mp member with rfl | among
        · exact le_refl _
        · exact (List.pairwise_cons.mp ordered).1 other among
      apply (unwinds app x).answers_filter ordered after
      constructor
      · exact Agree.refl x event.now limiting
      · rfl
      · intro ip ticket program found
        cases found

end Isolation

namespace Sample

/-- Five requests a second and two at once, one of each in the sign-in limiter. -/
def limiting : RateLimiting where
  table := GcraTable.empty
  persistent := some ⟨fivePerSecond, 2, 0⟩
  loginPersistent := some ⟨onePerSecond, 2, 0⟩
  loginThrottle := .withDefaults
  attempts := fun _ => none
  moderate := LoginThrottle.moderate_withDefaults

def reading (systemUs : Int) (representable : 0 ≤ systemUs ∧ systemUs ≤ RateLimit.i64Max) :
    Reading := ⟨systemUs, systemUs * 1000, representable⟩

theorem one_second : 0 ≤ (1000000 : Int) ∧ (1000000 : Int) ≤ RateLimit.i64Max := by decide

def home : IpAddr := .v4 #v[192, 0, 2, 1]

/-- The address of another client, which maps the first one. -/
def elsewhere : IpAddr := .v6 #v[0, 0, 0, 0, 0, 0xffff, 0xc000, 0x0201]

def signIn : Arrival := .login none (fun _ => true) ⟨"root", "wrong", "token"⟩

def unanswered : Happening := .step 0 fun _ => none

/-- Two clients try to sign in; the first one sends two more requests. -/
def crowd : List ClientEvent :=
  [⟨home, reading 1000000 one_second, .arrive 0 signIn⟩,
    ⟨elsewhere, reading 1000000 one_second, .arrive 0 signIn⟩,
    ⟨home, reading 1000001 (by decide), unanswered⟩,
    ⟨elsewhere, reading 1000002 (by decide), unanswered⟩,
    ⟨elsewhere, reading 1000003 (by decide), unanswered⟩,
    ⟨home, reading 1000004 (by decide), unanswered⟩,
    ⟨home, reading 1000005 (by decide), .arrive 1 .other⟩,
    ⟨home, reading 1000006 (by decide), .arrive 2 .other⟩]

set_option maxRecDepth 100000 in
theorem clients_are_isolated_crowd :
    (answers (Traffic.react app) (Traffic.idle limiting)
        (crowd.filter fun event => decide (event.ip = home))).map Prod.snd =
      [.request (some .allow), .locked none, .login (some .allow), .request (some .allow),
        .request (some (.rejected 199994))] ∧
    ((answers (Traffic.react app) (Traffic.idle limiting) crowd).filter
        (fun answer => decide (answer.1.ip = home))) =
      answers (Traffic.react app) (Traffic.idle limiting)
        (crowd.filter fun event => decide (event.ip = home)) := by
  constructor
  · decide
  · exact (Isolation.clients_are_isolated app limiting home crowd (by decide)).1

end Sample
end KrakenUi
