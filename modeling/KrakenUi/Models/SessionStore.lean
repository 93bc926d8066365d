import Mathlib.Data.Option.Basic

namespace KrakenUi

/-!
# Sessions and the table that keeps them

The data of a session is the set of keys that the authentication controller
writes.  A record adds its id and its expiry date, and the store keeps one row
per id.  `save` and `create` share one upsert: it writes the row whether or not
the id is present.

The `user_id` column mirrors the authenticated operator of the record, with 0
for a record that has none.  The revocation queries select by that column.
-/

/-- Session ids are the 128-bit integers of the session library. -/
abbrev SessionId := Int

structure SessionData where
  authenticatedUserId : Option Int := none
  authenticatedUsername : Option String := none
  authenticatedOperatorType : Option String := none
  authenticatedAuthzVersion : Option Int := none
  authenticatedAt : Option Int := none
  reauthenticatedAt : Option Int := none
  sessionRotatedAt : Option Int := none
  mfaPendingUserId : Option Int := none
  mfaPendingAt : Option Int := none
  deriving DecidableEq

/-- A key of the session together with a value for it. -/
inductive SessionValue where
  | authenticatedUserId (idUser : Int)
  | authenticatedUsername (username : String)
  | authenticatedOperatorType (operatorType : String)
  | authenticatedAuthzVersion (version : Int)
  | authenticatedAt (timestamp : Int)
  | reauthenticatedAt (timestamp : Int)
  | sessionRotatedAt (timestamp : Int)
  | mfaPendingUserId (idUser : Int)
  | mfaPendingAt (timestamp : Int)
  deriving DecidableEq

/-- The keys that are ever removed. -/
inductive PendingKey where
  | mfaPendingUserId
  | mfaPendingAt
  deriving DecidableEq

namespace SessionData

def isEmpty (data : SessionData) : Bool := decide (data = {})

def insert (data : SessionData) : SessionValue -> SessionData
  | .authenticatedUserId idUser => { data with authenticatedUserId := some idUser }
  | .authenticatedUsername username => { data with authenticatedUsername := some username }
  | .authenticatedOperatorType operatorType =>
      { data with authenticatedOperatorType := some operatorType }
  | .authenticatedAuthzVersion version => { data with authenticatedAuthzVersion := some version }
  | .authenticatedAt timestamp => { data with authenticatedAt := some timestamp }
  | .reauthenticatedAt timestamp => { data with reauthenticatedAt := some timestamp }
  | .sessionRotatedAt timestamp => { data with sessionRotatedAt := some timestamp }
  | .mfaPendingUserId idUser => { data with mfaPendingUserId := some idUser }
  | .mfaPendingAt timestamp => { data with mfaPendingAt := some timestamp }

def remove (data : SessionData) : PendingKey -> SessionData
  | .mfaPendingUserId => { data with mfaPendingUserId := none }
  | .mfaPendingAt => { data with mfaPendingAt := none }

end SessionData

/-- What the session library hands to the store. -/
structure Record where
  id : SessionId
  data : SessionData
  expiryDate : Int
  deriving DecidableEq

namespace Record

/-- The value mirrored into the `user_id` column. -/
def authenticatedUserId (record : Record) : Int :=
  record.data.authenticatedUserId.getD 0

end Record

/-- A row of `kraken_sessions` without its key. -/
structure SessionRow where
  record : Record
  expiryUtc : Int
  userId : Int
  deriving DecidableEq

/-- The table, keyed by the id of the stored record. -/
structure SessionStore where
  row : SessionId -> Option SessionRow
  keyed : forall id found, row id = some found -> found.record.id = id

namespace SessionStore

def empty : SessionStore where
  row := fun _ => none
  keyed := fun _ _ found => by cases found

/-- `INSERT … ON CONFLICT(id) DO UPDATE`. -/
def upsert (store : SessionStore) (record : Record) : SessionStore where
  row := fun id =>
    if id = record.id then some ⟨record, record.expiryDate, record.authenticatedUserId⟩
    else store.row id
  keyed := by
    intro id found stored
    split at stored
    · rename_i same
      cases stored
      exact same.symm
    · exact store.keyed id found stored

/-- Keep the rows that a condition on the id and the row accepts. -/
def keepWhere (store : SessionStore) (kept : SessionId -> SessionRow -> Bool) : SessionStore where
  row := fun id => (store.row id).filter (kept id)
  keyed := by
    intro id found stored
    exact store.keyed id found (Option.filter_eq_some_iff.mp stored).1

def delete (store : SessionStore) (sessionId : SessionId) : SessionStore :=
  store.keepWhere fun id _ => id ≠ sessionId

def deleteExpired (store : SessionStore) (now : Int) : SessionStore :=
  store.keepWhere fun _ row => !decide (row.expiryUtc ≤ now)

def deleteByUserId (store : SessionStore) (userId : Int) : SessionStore :=
  store.keepWhere fun _ row => row.userId ≠ userId

def deleteByUserIdExcept (store : SessionStore) (userId : Int) (keep : SessionId) : SessionStore :=
  store.keepWhere fun id row => !(decide (row.userId = userId) && decide (id ≠ keep))

def idExists (store : SessionStore) (id : SessionId) : Bool := (store.row id).isSome

def load (store : SessionStore) (now : Int) (sessionId : SessionId) : Option Record :=
  ((store.row sessionId).filter fun row => now < row.expiryUtc).map SessionRow.record

/-- The first id that is not taken, the given one or one of those that the generator gives. -/
def freeId (store : SessionStore) (id : SessionId) : List SessionId -> Option SessionId
  | [] => if store.idExists id then none else some id
  | fresh :: later => if store.idExists id then store.freeId fresh later else some id

/-- The calls of `create` in a row.  The record gets the id that it is stored under. -/
def create (store : SessionStore) (now : Int) (record : Record) (generated : List SessionId) :
    Option (SessionStore × Record) :=
  ((store.deleteExpired now).freeId record.id generated).map fun id =>
    ((store.deleteExpired now).upsert { record with id := id }, { record with id := id })

variable {store : SessionStore}

theorem row_upsert (record : Record) (id : SessionId) :
    (store.upsert record).row id =
      if id = record.id then some ⟨record, record.expiryDate, record.authenticatedUserId⟩
      else store.row id := rfl

/-- A deletion of any kind leaves no row that was not there before. -/
theorem row_keepWhere {kept : SessionId -> SessionRow -> Bool} {id : SessionId} {row : SessionRow} :
    (store.keepWhere kept).row id = some row ↔ store.row id = some row ∧ kept id row = true :=
  Option.filter_eq_some_iff

theorem load_eq_some {now : Int} {sessionId : SessionId} {record : Record} :
    store.load now sessionId = some record ↔
      Exists fun row => store.row sessionId = some row ∧ now < row.expiryUtc ∧
        row.record = record := by
  simp [load, Option.filter_eq_some_iff, and_assoc]

theorem freeId_free {id free : SessionId} {generated : List SessionId}
    (found : store.freeId id generated = some free) : store.row free = none := by
  have free_of : forall {taken : SessionId}, ¬ store.idExists taken = true ->
      store.row taken = none := by
    intro taken absent
    exact Option.not_isSome_iff_eq_none.mp absent
  induction generated generalizing id with
  | nil =>
      rw [freeId] at found
      split at found
      · cases found
      · rename_i absent
        cases found
        exact free_of absent
  | cons fresh later inductionHypothesis =>
      rw [freeId] at found
      split at found
      · exact inductionHypothesis found
      · rename_i absent
        cases found
        exact free_of absent

end SessionStore
end KrakenUi
