import KrakenUi.Protocol.Effects
import KrakenUi.Protocol.SignIn

namespace KrakenUi

open Interaction

/-!
# Where the identity in a session comes from

The history of a session record is the list of entries of all requests through
whose hands its data went, newest first.  Every version of a record, stored or
loaded, owes its identity keys to entries of its history: an account was signed
in by a request whose login is on the history, and a pending marker was parked
by a login on the history.

A request in the middle of signing in has already named the account and has
not written the time yet.  Its copy is exempt from the law until it has, and a
request cannot end in between.
-/

namespace Command

/-- The write that parks a pending marker. -/
def parksMarker : Command -> Bool
  | insert (.mfaPendingAt _) => true
  | _ => false

end Command

namespace Console

variable {app : AppState} {idUser timestamp : Int}

/-- Entries of a history that one request made. -/
structure PartOf (part history : List (Item app)) (ticket : Nat) (route : Route) : Prop where
  subset : part ⊆ history
  signed : forall item, item ∈ part -> item.ticket = ticket ∧ item.request.route = route

/-- The newest entry of a history that parks a marker. -/
def lastParked (history : List (Item app)) : Option (Item app) :=
  history.find? fun item => item.seen.command.parksMarker

/-- The marker was parked by a login that verified the password and found the
second factor on. -/
def Parked (history : List (Item app)) (idUser startedAt : Int) : Prop :=
  Exists fun mark => Exists fun form => Exists fun login =>
    lastParked history = some mark ∧ mark.seen = ⟨.insert (.mfaPendingAt startedAt), ()⟩ ∧
      PartOf login history mark.ticket (.loginSubmit form) ∧
      (forall item, item ∈ login -> item.moment < mark.moment) ∧
      PasswordAccepted login form idUser ∧ EnabledRead login idUser true ∧
      Saw login .now startedAt

/-- A request that was accepted soon enough after the login got `true` from
`verify_login_code` for the account. -/
def SecondStep (history login : List (Item app)) (idUser : Int) : Prop :=
  Exists fun startedAt => Exists fun form => Exists fun code => Exists fun ticket =>
    Exists fun newer => Exists fun segment => Exists fun older =>
      Saw login .now startedAt ∧ history = newer ++ segment ++ older ∧
        (forall item, item ∈ segment -> item.ticket = ticket ∧
          item.request.route = .mfaVerify form ∧
          item.opened.now ≤ startedAt + Auth.mfaPendingTtlSeconds) ∧
        (OperatorMfaRepository.verifyLoginCode app idUser code).Returns
          (segment.reverse.map Entry.seen) true

/-- A login of the account, and a second step if that login found it on. -/
def LoggedIn (history : List (Item app)) (idUser : Int) : Prop :=
  Exists fun ticket => Exists fun form => Exists fun login => Exists fun enabled =>
    PartOf login history ticket (.loginSubmit form) ∧ PasswordAccepted login form idUser ∧
      EnabledRead login idUser enabled ∧ (enabled = true -> SecondStep history login idUser)

/-- The last establishment on the history is for this account and read this time. -/
def Established (history : List (Item app)) (idUser timestamp : Int) : Prop :=
  Exists fun established => Exists fun data =>
    lastLandmark history = some established ∧
      established.seen = ⟨.insert (.authenticatedAt timestamp), ()⟩ ∧
      established.held.data = some data ∧ data.authenticatedUserId = some idUser ∧
      Exists fun clock => clock ∈ history ∧ clock.ticket = established.ticket ∧
        clock.seen = ⟨.now, timestamp⟩

/-! ## Longer histories -/

section Longer

variable {part history newer : List (Item app)} {ticket : Nat} {route : Route}

theorem PartOf.append (partOf : PartOf part history ticket route) (newer : List (Item app)) :
    PartOf part (newer ++ history) ticket route where
  subset := List.Subset.trans partOf.subset (List.subset_append_right _ _)
  signed := partOf.signed

theorem lastLandmark_append (absent : Without landmark newer) (history : List (Item app)) :
    lastLandmark (newer ++ history) = lastLandmark history := by
  unfold lastLandmark
  rw [List.find?_append, List.find?_eq_none.mpr, Option.none_or]
  intro item member
  simpa using absent item member

theorem lastParked_append (absent : Without Command.parksMarker newer)
    (history : List (Item app)) : lastParked (newer ++ history) = lastParked history := by
  unfold lastParked
  rw [List.find?_append, List.find?_eq_none.mpr, Option.none_or]
  intro item member
  simpa using absent item member

theorem Parked.append {startedAt : Int} (parked : Parked history idUser startedAt)
    (absent : Without Command.parksMarker newer) : Parked (newer ++ history) idUser startedAt := by
  rcases parked with ⟨mark, form, login, last, seen, partOf, evidence⟩
  exact ⟨mark, form, login, (lastParked_append absent history).trans last, seen,
    partOf.append newer, evidence⟩

theorem SecondStep.append {login : List (Item app)} (second : SecondStep history login idUser)
    (newer : List (Item app)) : SecondStep (newer ++ history) login idUser := by
  rcases second with
      ⟨startedAt, form, code, ticket, recent, segment, older, clock, rfl, signed, returned⟩
  exact ⟨startedAt, form, code, ticket, newer ++ recent, segment, older, clock,
    by simp only [List.append_assoc], signed, returned⟩

theorem LoggedIn.append (loggedIn : LoggedIn history idUser) (newer : List (Item app)) :
    LoggedIn (newer ++ history) idUser := by
  rcases loggedIn with ⟨ticket, form, login, enabled, partOf, accepted, read, second⟩
  exact ⟨ticket, form, login, enabled, partOf.append newer, accepted, read,
    fun on => (second on).append newer⟩

theorem Established.append (established : Established history idUser timestamp)
    (absent : Without landmark newer) : Established (newer ++ history) idUser timestamp := by
  rcases established with ⟨entry, data, last, seen, loaded, owner, clock, member, same, time⟩
  exact ⟨entry, data, (lastLandmark_append absent history).trans last, seen, loaded, owner, clock,
    List.mem_append_right _ member, same, time⟩

end Longer

/-! ## Versions of a record -/

/-- The request has named an account and not established it yet. -/
def HalfSigned (route : Route) (own : List (Item app)) : Prop :=
  route.signsIn = true ∧
    (Exists fun item => item ∈ own ∧ item.seen.command.namesAccount = true) ∧ Without landmark own

/-- The request has named the account of a marker and not parked it yet. -/
def HalfParked (own : List (Item app)) : Prop :=
  (Exists fun item => item ∈ own ∧ item.seen.command.marksPending = true) ∧
    Without Command.parksMarker own

/-- The account of a version of a record was signed in on its history. -/
def AccountVouched (history : List (Item app)) (data : SessionData) : Prop :=
  forall idUser, data.authenticatedUserId = some idUser ->
    Exists fun timestamp => data.authenticatedAt = some timestamp ∧
      Established history idUser timestamp ∧ LoggedIn history idUser

/-- The marker of a version of a record was parked on its history. -/
def MarkerVouched (history : List (Item app)) (data : SessionData) : Prop :=
  forall idUser startedAt, data.mfaPendingUserId = some idUser ->
    data.mfaPendingAt = some startedAt -> Parked history idUser startedAt

/-- The law for the copy of a request with this journal. -/
structure Vouched (route : Route) (own inherited : List (Item app)) (data : SessionData) :
    Prop where
  account : ¬ HalfSigned route own -> AccountVouched (own ++ inherited) data
  marker : ¬ HalfParked own -> MarkerVouched (own ++ inherited) data

section Versions

variable {route : Route} {own inherited : List (Item app)} {data changed : SessionData}

theorem accountVouched_empty (history : List (Item app)) : AccountVouched history {} := by
  intro idUser named
  cases named

theorem markerVouched_empty (history : List (Item app)) : MarkerVouched history {} := by
  intro idUser startedAt named
  cases named

theorem vouched_empty (route : Route) (own inherited : List (Item app)) :
    Vouched route own inherited {} :=
  ⟨fun _ => accountVouched_empty _, fun _ => markerVouched_empty _⟩

theorem AccountVouched.same {history : List (Item app)} (vouched : AccountVouched history data)
    (account : changed.authenticatedUserId = data.authenticatedUserId)
    (time : changed.authenticatedAt = data.authenticatedAt) : AccountVouched history changed := by
  intro idUser named
  rw [account] at named
  rw [time]
  exact vouched idUser named

theorem MarkerVouched.same {history : List (Item app)} (vouched : MarkerVouched history data)
    (account : changed.mfaPendingUserId = data.mfaPendingUserId)
    (time : changed.mfaPendingAt = data.mfaPendingAt) : MarkerVouched history changed := by
  intro idUser startedAt named started
  rw [account] at named
  rw [time] at started
  exact vouched idUser startedAt named started

theorem AccountVouched.append {history newer : List (Item app)}
    (vouched : AccountVouched history data) (absent : Without landmark newer) :
    AccountVouched (newer ++ history) data := by
  intro idUser named
  rcases vouched idUser named with ⟨timestamp, time, established, loggedIn⟩
  exact ⟨timestamp, time, established.append absent, loggedIn.append newer⟩

theorem MarkerVouched.append {history newer : List (Item app)}
    (vouched : MarkerVouched history data) (absent : Without Command.parksMarker newer) :
    MarkerVouched (newer ++ history) data :=
  fun idUser startedAt named started => (vouched idUser startedAt named started).append absent

theorem unlandmarked_of_calm {command : Command} (calm : command.marksIdentity = false) :
    landmark command = false := by
  cases command with
  | insert value => cases value <;> first | rfl | cases calm
  | _ => rfl

theorem unparked_of_calm {command : Command} (calm : command.marksIdentity = false) :
    command.parksMarker = false := by
  cases command with
  | insert value => cases value <;> first | rfl | cases calm
  | _ => rfl

theorem not_halfSigned_of_calm (calm : Calm own) : ¬ HalfSigned route own := by
  rintro ⟨-, ⟨item, member, names⟩, -⟩
  rw [unnamed_of_calm (calm item member)] at names
  cases names

theorem not_halfParked_of_calm (calm : Calm own) : ¬ HalfParked own := by
  rintro ⟨⟨item, member, marks⟩, -⟩
  rw [unmarked_of_calm (calm item member)] at marks
  cases marks

/-- A calm journal adds nothing to what vouches for a stored record. -/
theorem vouched_of_stored (account : AccountVouched inherited data)
    (marker : MarkerVouched inherited data) (calm : Calm own) : Vouched route own inherited data where
  account := fun _ => account.append (calm.narrow fun _ => unlandmarked_of_calm)
  marker := fun _ => marker.append (calm.narrow fun _ => unparked_of_calm)

/-- A new entry whose command is not about accounts leaves the account vouched. -/
theorem Vouched.account_cons (vouched : Vouched route own inherited data) {item : Item app}
    (plain : landmark item.seen.command = false)
    (account : changed.authenticatedUserId = data.authenticatedUserId)
    (time : changed.authenticatedAt = data.authenticatedAt)
    (whole : ¬ HalfSigned route (item :: own)) :
    AccountVouched (item :: own ++ inherited) changed := by
  have settled : ¬ HalfSigned route own := by
    rintro ⟨signs, ⟨other, member, names⟩, absent⟩
    exact whole ⟨signs, ⟨other, List.mem_cons_of_mem _ member, names⟩,
      Without.cons_iff.mpr ⟨plain, absent⟩⟩
  have older := (vouched.account settled).same account time
  have one : Without landmark [item] := Without.cons_iff.mpr ⟨plain, Without.nil⟩
  exact older.append one

theorem Vouched.marker_cons (vouched : Vouched route own inherited data) {item : Item app}
    (plain : item.seen.command.parksMarker = false)
    (account : changed.mfaPendingUserId = data.mfaPendingUserId)
    (time : changed.mfaPendingAt = data.mfaPendingAt)
    (whole : ¬ HalfParked (item :: own)) : MarkerVouched (item :: own ++ inherited) changed := by
  have settled : ¬ HalfParked own := by
    rintro ⟨⟨other, member, names⟩, absent⟩
    exact whole ⟨⟨other, List.mem_cons_of_mem _ member, names⟩,
      Without.cons_iff.mpr ⟨plain, absent⟩⟩
  have older := (vouched.marker settled).same account time
  have one : Without Command.parksMarker [item] := Without.cons_iff.mpr ⟨plain, Without.nil⟩
  exact older.append one

end Versions
end Console
end KrakenUi
