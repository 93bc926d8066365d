import KrakenUi.Models.SessionStore
import Mathlib.Algebra.Order.Ring.Int

namespace KrakenUi

/-!
# When a deleted session stays deleted

Requests work on copies of a record that they have loaded at their start.  Their
calls of the store, and the bulk deletions, come in any order.  A deletion takes
away the row, but not the copies, and saving a copy writes the row again.  No
other call brings a deleted session back.
-/

/-- The store and what the requests on their way have in their hands. -/
structure SessionClients where
  store : SessionStore
  clock : Int
  /-- The records that requests have loaded and not yet saved. -/
  copies : List Record
  /-- The records whose ids were found free and that are about to be created. -/
  chosen : List Record

namespace SessionClients

/-- The next call.  Copies are meant by their places in the list. -/
inductive Event where
  | tick (seconds : Nat)
  | load (id : SessionId)
  /-- A request ends without a call. -/
  | abandon (copy : Nat)
  /-- A request ends and saves its copy with what it has changed. -/
  | save (copy : Nat) (data : SessionData) (expiryDate : Int)
  | delete (id : SessionId)
  | deleteByUserId (userId : Int)
  | deleteByUserIdExcept (userId : Int) (keep : SessionId)
  /-- The three calls of `create`. -/
  | deleteExpired
  | choose (record : Record)
  | insert (chosen : Nat)
  deriving DecidableEq

def start (store : SessionStore) (clock : Int) : SessionClients := ⟨store, clock, [], []⟩

/-- One call.  What is not possible changes nothing. -/
def step (clients : SessionClients) : Event -> SessionClients
  | .tick seconds => { clients with clock := clients.clock + seconds }
  | .load id =>
      match clients.store.load clients.clock id with
      | none => clients
      | some record => { clients with copies := record :: clients.copies }
  | .abandon copy => { clients with copies := clients.copies.eraseIdx copy }
  | .save copy data expiryDate =>
      match clients.copies[copy]? with
      | none => clients
      | some record =>
          { clients with
            store := clients.store.upsert ⟨record.id, data, expiryDate⟩
            copies := clients.copies.eraseIdx copy }
  | .delete id => { clients with store := clients.store.delete id }
  | .deleteByUserId userId => { clients with store := clients.store.deleteByUserId userId }
  | .deleteByUserIdExcept userId keep =>
      { clients with store := clients.store.deleteByUserIdExcept userId keep }
  | .deleteExpired => { clients with store := clients.store.deleteExpired clients.clock }
  | .choose record =>
      if clients.store.idExists record.id then clients
      else { clients with chosen := record :: clients.chosen }
  | .insert chosen =>
      match clients.chosen[chosen]? with
      | none => clients
      | some record =>
          { clients with
            store := clients.store.upsert record
            chosen := clients.chosen.eraseIdx chosen }

/-- The state after these calls, of which the newest is first. -/
def run (initial : SessionClients) : List Event -> SessionClients
  | [] => initial
  | event :: earlier => (run initial earlier).step event

/-- The call deletes this session: `delete` of its id, or a deletion that covers its row. -/
def Deletes (clients : SessionClients) (id : SessionId) : Event -> Prop
  | .delete deleted => deleted = id
  | .deleteByUserId userId =>
      Exists fun row => clients.store.row id = some row ∧ row.userId = userId
  | .deleteByUserIdExcept userId keep =>
      id ≠ keep ∧ Exists fun row => clients.store.row id = some row ∧ row.userId = userId
  | _ => False

/-- The call creates a session with this id. -/
def Creates (clients : SessionClients) (id : SessionId) : Event -> Prop
  | .insert chosen => (clients.chosen[chosen]?).map Record.id = some id
  | _ => False

section Runs

variable (initial : SessionClients)

/-- The session was deleted, and no session was created with its id since. -/
def Ended (id : SessionId) : List Event -> Prop
  | [] => False
  | event :: earlier =>
      Deletes (run initial earlier) id event ∨
        (Ended id earlier ∧ ¬ Creates (run initial earlier) id event)

/-- No deleted session can be loaded. -/
def Final (events : List Event) : Prop :=
  forall id, Ended initial id events ->
    (run initial events).store.load (run initial events).clock id = none

/-- The call saves the copy of a deleted session, which is not expired. -/
def Revives (earlier : List Event) (event : Event) : Prop :=
  Exists fun copy => Exists fun data => Exists fun expiryDate => Exists fun record =>
    event = .save copy data expiryDate ∧ (run initial earlier).copies[copy]? = some record ∧
      Ended initial record.id earlier ∧ (run initial earlier).clock < expiryDate

end Runs

section Rows

variable {initial clients : SessionClients} {id : SessionId} {now : Int} {store : SessionStore}

/-- A row that cannot be loaded, if there is one. -/
def Gone (store : SessionStore) (now : Int) (id : SessionId) : Prop :=
  forall row, store.row id = some row -> row.expiryUtc ≤ now

theorem gone_iff : Gone store now id ↔ store.load now id = none := by
  constructor
  · intro gone
    cases loaded : store.load now id with
    | none => rfl
    | some record =>
        rcases SessionStore.load_eq_some.mp loaded with ⟨row, found, live, -⟩
        exact absurd (gone row found) (Int.not_le.mpr live)
  · intro none row found
    by_contra live
    have loaded := SessionStore.load_eq_some.mpr ⟨row, found, Int.not_le.mp live, rfl⟩
    rw [none] at loaded
    cases loaded

theorem Gone.keepWhere (gone : Gone store now id) (kept : SessionId -> SessionRow -> Bool) :
    Gone (store.keepWhere kept) now id :=
  fun row found => gone row (SessionStore.row_keepWhere.mp found).1

theorem Gone.upsert_other (gone : Gone store now id) {record : Record} (other : record.id ≠ id) :
    Gone (store.upsert record) now id := by
  intro row found
  rw [SessionStore.row_upsert, if_neg (Ne.symm other)] at found
  exact gone row found

theorem gone_upsert_same {record : Record} :
    Gone (store.upsert record) now record.id ↔ record.expiryDate ≤ now := by
  unfold Gone
  rw [SessionStore.row_upsert, if_pos rfl]
  simp

/-- Where a condition on the rows fails there is no row any more. -/
theorem gone_dropped {kept : SessionId -> SessionRow -> Bool}
    (dropped : forall row, store.row id = some row -> kept id row = false) :
    Gone (store.keepWhere kept) now id := by
  intro row found
  rcases SessionStore.row_keepWhere.mp found with ⟨before, accepted⟩
  rw [dropped row before] at accepted
  cases accepted

/-- After a deletion the session is gone. -/
theorem gone_of_deletes {event : Event} (deletes : Deletes clients id event) :
    Gone (clients.step event).store (clients.step event).clock id := by
  cases event with
  | delete deleted =>
      cases deletes
      apply gone_dropped
      intro row _
      exact decide_eq_false fun other => other rfl
  | deleteByUserId userId =>
      rcases deletes with ⟨row, found, owner⟩
      apply gone_dropped
      intro other same
      rw [found] at same
      cases same
      exact decide_eq_false fun different => different owner
  | deleteByUserIdExcept userId keep =>
      rcases deletes with ⟨spared, row, found, owner⟩
      apply gone_dropped
      intro other same
      rw [found] at same
      cases same
      simp [owner, spared]
  | _ => exact deletes.elim

/-- Nothing but a save or the creation of a session brings it back. -/
theorem Gone.step (gone : Gone clients.store clients.clock id) {event : Event}
    (created : ¬ Creates clients id event)
    (saved : forall copy data expiryDate record, event = .save copy data expiryDate ->
      clients.copies[copy]? = some record -> record.id = id -> expiryDate ≤ clients.clock) :
    Gone (clients.step event).store (clients.step event).clock id := by
  cases event with
  | tick seconds =>
      intro row found
      change row.expiryUtc ≤ clients.clock + seconds
      have before := gone row found
      omega
  | load loaded =>
      simp only [SessionClients.step]
      split
      · exact gone
      · exact gone
  | abandon copy => exact gone
  | save copy data expiryDate =>
      simp only [SessionClients.step]
      split
      · exact gone
      · rename_i record held
        by_cases same : record.id = id
        · subst same
          exact gone_upsert_same.mpr (saved copy data expiryDate record rfl held rfl)
        · exact gone.upsert_other same
  | delete deleted => exact gone.keepWhere _
  | deleteByUserId userId => exact gone.keepWhere _
  | deleteByUserIdExcept userId keep => exact gone.keepWhere _
  | deleteExpired => exact gone.keepWhere _
  | choose record =>
      simp only [SessionClients.step]
      split
      · exact gone
      · exact gone
  | insert chosen =>
      simp only [SessionClients.step]
      split
      · exact gone
      · rename_i record found
        apply gone.upsert_other
        intro same
        apply created
        rw [Creates, found, Option.map_some, same]

end Rows

section Result

variable {initial : SessionClients} {event : Event} {earlier : List Event}

/-- What one call keeps. -/
theorem final_cons (final : Final initial earlier) (lasting : ¬ Revives initial earlier event) :
    Final initial (event :: earlier) := by
  rintro id (deletes | ⟨ended, created⟩)
  · exact gone_iff.mp (gone_of_deletes deletes)
  · apply gone_iff.mp
    apply (gone_iff.mpr (final id ended)).step created
    rintro copy data expiryDate record rfl held rfl
    by_contra live
    exact lasting ⟨copy, data, expiryDate, record, rfl, held, ended, Int.not_le.mp live⟩

/-- A copy that is saved after its session was deleted can be loaded. -/
theorem not_final_cons (revives : Revives initial earlier event) :
    ¬ Final initial (event :: earlier) := by
  rcases revives with ⟨copy, data, expiryDate, record, rfl, held, ended, live⟩
  intro final
  have none := final record.id (Or.inr ⟨ended, fun impossible => impossible⟩)
  have gone := gone_iff.mpr none
  simp only [run, step, held] at gone
  exact absurd (gone_upsert_same.mp gone) (Int.not_le.mpr live)

/-- In a run no deleted session can ever be loaded exactly if no copy of a deleted
session is saved. -/
theorem deletion_is_final_iff (initial : SessionClients) (events : List Event) :
    (forall part, part <:+ events -> Final initial part) ↔
      forall event earlier, event :: earlier <:+ events -> ¬ Revives initial earlier event := by
  constructor
  · intro final event earlier isPart revives
    exact not_final_cons revives (final _ isPart)
  · intro lasting part isPart
    induction part with
    | nil => exact fun id ended => ended.elim
    | cons event earlier inductionHypothesis =>
        have before := inductionHypothesis ((List.suffix_cons event earlier).trans isPart)
        exact final_cons before (lasting event earlier isPart)

end Result

end SessionClients

namespace Sample

open SessionClients

/-- The record of a signed-in operator. -/
def signedIn : Record := ⟨7, { authenticatedUserId := some 3 }, 1000⟩

def sessions : SessionClients := start (SessionStore.empty.upsert signedIn) 10

/-- A request loads the session, another one logs out, and the first saves its copy. -/
def savedLate : List Event :=
  [.save 0 { authenticatedUserId := some 3 } 1010, .delete 7, .load 7]

theorem session_revived :
    ¬ forall (initial : SessionClients) (events : List Event),
      forall part, part <:+ events -> Final initial part := by
  intro always
  have none := always sessions savedLate savedLate (List.suffix_refl _) 7
    (Or.inr ⟨Or.inl rfl, fun impossible => impossible⟩)
  revert none
  decide

end Sample
end KrakenUi
