import KrakenUi.Guarantees.SessionDeletion
import KrakenUi.Storage.Keyed

namespace KrakenUi

open Storage

/-!
# What the session store is for

The two mirrored columns and the pruning of expired rows exist for speed only.
The columns decide which rows a query returns or deletes, although the meaning
of a query is about the records.  Here the calls are read without the columns
and without the pruning, as changes of a table of records, and the store agrees
with that reading in every run: an id loads the record that was written last
under it, unless a deletion displaced it or it has expired.
-/

namespace SessionStore

/-- The columns of a row are those of its record. -/
def Mirrored (store : SessionStore) : Prop :=
  forall id row, store.row id = some row ->
    row.expiryUtc = row.record.expiryDate ∧ row.userId = row.record.authenticatedUserId

/-- The records without their columns. -/
def records (store : SessionStore) (id : SessionId) : Option Record :=
  (store.row id).map SessionRow.record

variable {store : SessionStore} {id : SessionId} {record : Record} {now : Int}

theorem records_eq_some : store.records id = some record ↔
    Exists fun row => store.row id = some row ∧ row.record = record :=
  Option.map_eq_some_iff

/-- The record of a session whose row is in the table has its id. -/
theorem id_of_records (found : store.records id = some record) : record.id = id := by
  rcases records_eq_some.mp found with ⟨row, stored, rfl⟩
  exact store.keyed id row stored

theorem mirrored_empty : empty.Mirrored := by
  intro id row found
  cases found

theorem Mirrored.upsert (mirrored : store.Mirrored) (record : Record) :
    (store.upsert record).Mirrored := by
  intro id row found
  rw [row_upsert] at found
  split at found
  · cases found
    exact ⟨rfl, rfl⟩
  · exact mirrored id row found

theorem Mirrored.keepWhere (mirrored : store.Mirrored) (kept : SessionId -> SessionRow -> Bool) :
    (store.keepWhere kept).Mirrored :=
  fun id row found => mirrored id row (row_keepWhere.mp found).1

theorem records_upsert (record : Record) (id : SessionId) :
    (store.upsert record).records id = if id = record.id then some record else store.records id := by
  unfold records
  rw [row_upsert]
  split
  · rfl
  · rfl

/-- In a store with the right columns a deletion by column is one by record. -/
theorem records_keepWhere {kept : SessionId -> SessionRow -> Bool} {stays : Record -> Prop}
    (meaning : forall row, store.row row.record.id = some row ->
      (kept row.record.id row = true ↔ stays row.record)) (record : Record) :
    (store.keepWhere kept).records record.id = some record ↔
      store.records record.id = some record ∧ stays record := by
  rw [records_eq_some, records_eq_some]
  constructor
  · rintro ⟨row, found, rfl⟩
    rcases row_keepWhere.mp found with ⟨stored, accepted⟩
    exact ⟨⟨row, stored, rfl⟩, (meaning row stored).mp accepted⟩
  · rintro ⟨⟨row, stored, rfl⟩, remains⟩
    exact ⟨row, row_keepWhere.mpr ⟨stored, (meaning row stored).mpr remains⟩, rfl⟩

/-- With the right columns a session loads exactly while its record is not expired. -/
theorem Mirrored.load_eq_some (mirrored : store.Mirrored) :
    store.load now id = some record ↔ now < record.expiryDate ∧ store.records id = some record := by
  rw [SessionStore.load_eq_some, records_eq_some]
  constructor
  · rintro ⟨row, stored, live, rfl⟩
    rw [(mirrored id row stored).1] at live
    exact ⟨live, row, stored, rfl⟩
  · rintro ⟨live, row, stored, rfl⟩
    rw [← (mirrored id row stored).1] at live
    exact ⟨row, stored, live, rfl⟩

end SessionStore

namespace SessionClients

variable {initial clients : SessionClients} {record : Record}

/-- What a call asks for, read from the records alone. -/
def change (clients : SessionClients) : Event -> Option (Change Record)
  | .save copy data expiryDate =>
      (clients.copies[copy]?).map fun record => .put ⟨record.id, data, expiryDate⟩
  | .insert chosen => (clients.chosen[chosen]?).map .put
  | .delete id => some (.drop fun record => record.id = id)
  | .deleteByUserId userId => some (.drop fun record => record.authenticatedUserId = userId)
  | .deleteByUserIdExcept userId keep =>
      some (.drop fun record => record.authenticatedUserId = userId ∧ record.id ≠ keep)
  | _ => none

/-- The changes of a run, the newest first. -/
def changes (initial : SessionClients) : List Event -> List (Change Record)
  | [] => []
  | event :: earlier =>
      (change (run initial earlier) event).toList ++ changes initial earlier

/-- The record is not expired. -/
def Alive (clients : SessionClients) (record : Record) : Prop :=
  clients.clock < record.expiryDate

/-- The store agrees with the changes, and its columns with the records. -/
structure Agrees (clients : SessionClients) (changes : List (Change Record)) : Prop where
  mirrored : clients.store.Mirrored
  represents : Represents Record.id clients.Alive clients.store.records changes

namespace Agrees

variable {changes : List (Change Record)}

/-- A call that leaves the store and the clock alone. -/
theorem same (agrees : Agrees clients changes) {after : SessionClients}
    (stored : after.store = clients.store) (time : after.clock = clients.clock) :
    Agrees after changes := by
  refine ⟨?_, ?_⟩
  · rw [stored]
    exact agrees.mirrored
  · rw [stored]
    exact agrees.represents.later fun record live => by
      unfold Alive at live
      rw [time] at live
      exact live

theorem upsert (agrees : Agrees clients changes) (record : Record) {after : SessionClients}
    (stored : after.store = clients.store.upsert record) (time : after.clock = clients.clock) :
    Agrees after (.put record :: changes) := by
  refine ⟨?_, ?_⟩
  · rw [stored]
    exact agrees.mirrored.upsert record
  · have later : Represents Record.id after.Alive clients.store.records changes :=
      agrees.represents.later fun record live => by
        unfold Alive at live
        rw [time] at live
        exact live
    refine later.put record fun id => ?_
    rw [stored]
    exact SessionStore.records_upsert record id

theorem keepWhere (agrees : Agrees clients changes) {kept : SessionId -> SessionRow -> Bool}
    {dropped : Record -> Prop}
    (meaning : forall row, clients.store.row row.record.id = some row ->
      (kept row.record.id row = true ↔ ¬ dropped row.record)) :
    Agrees { clients with store := clients.store.keepWhere kept } (.drop dropped :: changes) :=
  ⟨agrees.mirrored.keepWhere kept,
    agrees.represents.drop (SessionStore.records_keepWhere meaning)⟩

/-- The pruning is not seen by anyone who loads sessions. -/
theorem deleteExpired (agrees : Agrees clients changes) :
    Agrees { clients with store := clients.store.deleteExpired clients.clock } changes := by
  refine ⟨agrees.mirrored.keepWhere _, agrees.represents.prune ?_⟩
  intro record live
  have meaning : forall row, clients.store.row row.record.id = some row ->
      ((!decide (row.expiryUtc ≤ clients.clock)) = true ↔ clients.Alive row.record) := by
    intro row stored
    rw [(agrees.mirrored _ row stored).1, Bool.not_eq_true', decide_eq_false_iff_not, Int.not_le]
    rfl
  refine (SessionStore.records_keepWhere meaning record).trans ?_
  exact and_iff_left live

/-- What one call does to the store is what it asks for. -/
theorem step (agrees : Agrees clients changes) (event : Event) :
    Agrees (clients.step event) ((change clients event).toList ++ changes) := by
  cases event with
  | tick seconds =>
      refine ⟨agrees.mirrored, agrees.represents.later fun record live => ?_⟩
      change clients.clock + seconds < record.expiryDate at live
      change clients.clock < record.expiryDate
      omega
  | load id =>
      simp only [SessionClients.step]
      split
      · exact agrees
      · exact agrees.same rfl rfl
  | abandon copy => exact agrees.same rfl rfl
  | save copy data expiryDate =>
      cases held : clients.copies[copy]? with
      | none =>
          have nothing : clients.step (.save copy data expiryDate) = clients := by
            simp only [SessionClients.step, held]
          have silent : change clients (.save copy data expiryDate) = none := by
            simp only [change, held, Option.map_none]
          rw [nothing, silent]
          exact agrees
      | some record =>
          have asks : change clients (.save copy data expiryDate) =
              some (.put ⟨record.id, data, expiryDate⟩) := by
            simp only [change, held, Option.map_some]
          rw [asks]
          exact agrees.upsert ⟨record.id, data, expiryDate⟩
            (by simp only [SessionClients.step, held]) (by simp only [SessionClients.step, held])
  | delete id =>
      refine agrees.keepWhere fun row _ => ?_
      exact decide_eq_true_iff
  | deleteByUserId userId =>
      refine agrees.keepWhere fun row stored => ?_
      rw [← (agrees.mirrored _ row stored).2]
      exact decide_eq_true_iff
  | deleteByUserIdExcept userId keep =>
      refine agrees.keepWhere fun row stored => ?_
      rw [← (agrees.mirrored _ row stored).2, Bool.not_eq_true', Bool.and_eq_false_iff,
        decide_eq_false_iff_not, decide_eq_false_iff_not]
      exact Decidable.not_and_iff_or_not.symm
  | deleteExpired => exact agrees.deleteExpired
  | choose record =>
      simp only [SessionClients.step]
      split
      · exact agrees
      · exact agrees.same rfl rfl
  | insert chosen =>
      cases found : clients.chosen[chosen]? with
      | none =>
          have nothing : clients.step (.insert chosen) = clients := by
            simp only [SessionClients.step, found]
          have silent : change clients (.insert chosen) = none := by
            simp only [change, found, Option.map_none]
          rw [nothing, silent]
          exact agrees
      | some record =>
          have asks : change clients (.insert chosen) = some (.put record) := by
            simp only [change, found, Option.map_some]
          rw [asks]
          exact agrees.upsert record (by simp only [SessionClients.step, found])
            (by simp only [SessionClients.step, found])

theorem start (clock : Int) : Agrees (SessionClients.start SessionStore.empty clock) [] :=
  ⟨SessionStore.mirrored_empty, Represents.empty _⟩

end Agrees

theorem agrees_run (clock : Int) (events : List Event) :
    Agrees (run (start SessionStore.empty clock) events)
      (changes (start SessionStore.empty clock) events) := by
  induction events with
  | nil => exact Agrees.start clock
  | cons event earlier inductionHypothesis => exact inductionHypothesis.step event

section Creation

variable {store : SessionStore} {made : Record} {generated : List SessionId} {now : Int}

/-- `create` is three calls in a row. -/
theorem step_create
    (created : clients.store.create clients.clock record generated = some (store, made)) :
    (((clients.step .deleteExpired).step (.choose made)).step (.insert 0)).store = store ∧
      (clients.store.deleteExpired clients.clock).row made.id = none ∧
      store = (clients.store.deleteExpired clients.clock).upsert made ∧
      made = { record with id := made.id } := by
  rcases Option.map_eq_some_iff.mp created with ⟨id, found, same⟩
  cases same
  have free := SessionStore.freeId_free found
  have absent : (clients.store.deleteExpired clients.clock).idExists id = false := by
    rw [SessionStore.idExists, free]
    rfl
  refine ⟨?_, free, rfl, rfl⟩
  simp only [SessionClients.step, absent, Bool.false_eq_true, if_false, List.getElem?_cons_zero]

/-- What can be loaded is not pruned. -/
theorem load_deleteExpired (id : SessionId) :
    (store.deleteExpired now).load now id = store.load now id := by
  apply Option.ext
  intro record
  rw [SessionStore.load_eq_some, SessionStore.load_eq_some]
  constructor
  · rintro ⟨row, kept, live, same⟩
    exact ⟨row, (SessionStore.row_keepWhere.mp kept).1, live, same⟩
  · rintro ⟨row, found, live, same⟩
    refine ⟨row, SessionStore.row_keepWhere.mpr ⟨found, ?_⟩, live, same⟩
    rw [decide_eq_false (Int.not_le.mpr live)]
    rfl

end Creation

/-- In every run of the store an id loads a record exactly if the record was written under
that id, no later call displaced it and it has not expired.  A session that is created
takes an id under which nothing could be loaded, and all other ids load what they did. -/
theorem sessions_are_kept (clock : Int) (events : List Event) :
    let clients := run (start SessionStore.empty clock) events
    (forall id record, clients.store.load clients.clock id = some record ↔
      record.id = id ∧ clients.clock < record.expiryDate ∧
        Held Record.id record (changes (start SessionStore.empty clock) events)) ∧
    forall record generated store made,
      clients.store.create clients.clock record generated = some (store, made) ->
        made.data = record.data ∧ made.expiryDate = record.expiryDate ∧
        clients.store.load clients.clock made.id = none ∧
        forall id, store.load clients.clock id =
          if id = made.id then (some made).filter fun made => clients.clock < made.expiryDate
          else clients.store.load clients.clock id := by
  intro clients
  have agrees := agrees_run clock events
  refine ⟨?_, ?_⟩
  · intro id record
    rw [agrees.mirrored.load_eq_some]
    constructor
    · rintro ⟨live, found⟩
      have same := SessionStore.id_of_records found
      subst same
      exact ⟨rfl, live, (agrees.represents record live).mp found⟩
    · rintro ⟨rfl, live, held⟩
      exact ⟨live, (agrees.represents record live).mpr held⟩
  · intro record generated store made created
    rcases step_create created with ⟨-, free, rfl, same⟩
    refine ⟨by rw [same], by rw [same], ?_, ?_⟩
    · rw [← load_deleteExpired, SessionStore.load, free]
      rfl
    · intro id
      split
      · rename_i equal
        rw [SessionStore.load, SessionStore.row_upsert, if_pos equal, Option.filter_some,
          Option.filter_some]
        split
        · rfl
        · rfl
      · rename_i different
        rw [SessionStore.load, SessionStore.row_upsert, if_neg different]
        exact load_deleteExpired id

end SessionClients

namespace Sample

open SessionClients

/-- A visitor without an account, and the two calls that create the session. -/
def stored : List Event := [.insert 0, .choose ⟨7, {}, 1000⟩]

/-- Another session is to be created with the same id and gets the next one. -/
theorem sessions_are_kept_collision :
    Exists fun store =>
      (run (start SessionStore.empty 10) stored).store.create 10 signedIn [9] =
        some (store, { signedIn with id := 9 }) ∧
      store.load 10 7 = some ⟨7, {}, 1000⟩ := by
  have created : (run (start SessionStore.empty 10) stored).store.create 10 signedIn [9] =
      some (_, { signedIn with id := 9 }) := rfl
  have kept := (sessions_are_kept 10 stored).2 signedIn [9] _ _ created
  exact ⟨_, created, (kept.2.2.2 7).trans rfl⟩

end Sample
end KrakenUi
