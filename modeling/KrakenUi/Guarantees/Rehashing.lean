import KrakenUi.Guarantees.Authentication
import KrakenUi.Protocol.Accounts
import KrakenUi.Services.PasswordCrypto

namespace KrakenUi

open Interaction Storage

/-!
# Rehashing at login

A login replaces a record whose parameters are out of date.  It has read the
record before the slow verification, and it writes the replacement afterwards
by the number of the account alone.  A password change that commits in between
is lost: the replacement was made for the password that the login presented.

The stored record belongs to the newest password change in every run in which
no login writes over a change that it has not seen.
-/

namespace Command

/-- The account whose password the command changes, and the new record. -/
def changesPassword : Command -> Option (Int × String)
  | updatePassword idUser hash | update idUser _ (some hash) => some (idUser, hash)
  | _ => none

theorem recordFor_of_changesPassword {command : Command} {idUser : Int} {hash : String}
    (changes : command.changesPassword = some (idUser, hash)) :
    command.recordFor idUser = some hash := by
  cases command with
  | updatePassword _ _ =>
      cases changes
      exact if_pos rfl
  | update _ _ hash =>
      cases hash with
      | none => cases changes
      | some _ =>
          cases changes
          exact if_pos rfl
  | _ => cases changes

/-- A command that writes a record changes a password, unless it is a rehash. -/
theorem changesPassword_of_recordFor {command : Command} {idUser : Int} {hash : String}
    (writes : command.recordFor idUser = some hash) :
    command.changesPassword = some (idUser, hash) ∨
      command = .storeEncryptedPassword idUser hash := by
  cases command with
  | updatePassword account _ | storeEncryptedPassword account _ =>
      by_cases same : account = idUser
      · subst same
        simp only [recordFor, if_pos, Option.some.injEq] at writes
        subst writes
        first | exact Or.inl rfl | exact Or.inr rfl
      · simp [recordFor, same] at writes
  | update account _ hash =>
      by_cases same : account = idUser
      · subst same
        simp only [recordFor, if_pos] at writes
        subst writes
        exact Or.inl rfl
      · simp [recordFor, same] at writes
  | _ => cases writes

end Command

namespace Console

variable {app : AppState} {crypto : PasswordCryptoService} {log : List (Item app)}
  {item change entry : Item app} {idUser : Int} {moment : Nat} {password : String}

/-- The entry changed the password of the account. -/
def ChangesPassword (item : Item app) (idUser : Int) : Prop :=
  Exists fun record => item.seen.command.changesPassword = some (idUser, record)

/-- The entry stored a record that its request had made for the password. -/
def SetsPassword (log : List (Item app)) (item : Item app) (idUser : Int) (password : String) :
    Prop :=
  Exists fun record => item.seen.command.changesPassword = some (idUser, record) ∧
    Exists fun encrypting => encrypting ∈ log ∧ encrypting.ticket = item.ticket ∧
      encrypting.moment < item.moment ∧
      encrypting.seen = ⟨.spawnEncrypt idUser password, record⟩

theorem not_changes_of_recordFor (untouched : item.seen.command.recordFor idUser = none) :
    ¬ ChangesPassword item idUser := by
  rintro ⟨hash, changes⟩
  rw [Command.recordFor_of_changesPassword changes] at untouched
  cases untouched

/-- The newest password change of the account before the moment. -/
structure LastChange (log : List (Item app)) (moment : Nat) (change : Item app) (idUser : Int) :
    Prop where
  member : change ∈ log
  before : change.moment < moment
  changes : ChangesPassword change idUser
  newest : forall other, other ∈ log -> other.moment < moment -> ChangesPassword other idUser ->
    other.moment ≤ change.moment

/-- What the password service answered is what its code computes. -/
def Answers (crypto : PasswordCryptoService) (item : Item app) : Prop :=
  match item.seen with
  | ⟨.spawnEncrypt idUser password, record⟩ =>
      Exists fun random => crypto.encryptPassword random idUser password = .ok record
  | ⟨.spawnVerify idUser record password, answer⟩ =>
      Exists fun random => crypto.verifyPassword random idUser record password = answer
  | _ => True

/-- No login writes over a change that it has not seen: the newest change of the
account is older than the row that the login read, or it set the very password
that the login presented. -/
def seesLastChange : Condition (machine app) := fun world flight command =>
  match command with
  | .storeEncryptedPassword idUser replacement =>
      forall change, LastChange world.log world.log.length change idUser ->
        forall reading username operator verifying password,
          reading ∈ flight.own -> reading.seen = ⟨.findByUsername username, some operator⟩ ->
          verifying ∈ flight.own -> verifying.seen =
            ⟨.spawnVerify idUser operator.encryptedPasswordHash password,
              .ok ⟨true, some replacement⟩⟩ ->
          change.moment < reading.moment ∨ SetsPassword world.log change idUser password
  | _ => True

/-! ## The newest change in a growing log -/

section Growing

/-- An account whose password was ever changed has a newest change. -/
theorem exists_lastChange
    (ordered : log.Pairwise fun newer older : Item app => older.moment < newer.moment)
    (counted : forall item, item ∈ log -> item.moment < moment) (member : item ∈ log)
    (changes : ChangesPassword item idUser) :
    Exists fun change => LastChange log moment change idUser := by
  induction log with
  | nil => cases member
  | cons head tail inductionHypothesis =>
      rcases List.pairwise_cons.mp ordered with ⟨newest, rest⟩
      by_cases first : ChangesPassword head idUser
      · refine ⟨head, List.mem_cons_self, counted head List.mem_cons_self, first, ?_⟩
        intro other otherMember _ _
        rcases List.mem_cons.mp otherMember with rfl | old
        · exact Nat.le_refl _
        · exact Nat.le_of_lt (newest other old)
      · have old : item ∈ tail := by
          rcases List.mem_cons.mp member with rfl | old
          · exact absurd changes first
          · exact old
        rcases inductionHypothesis rest (fun other otherMember => counted other
            (List.mem_cons_of_mem _ otherMember)) old with ⟨change, last⟩
        refine ⟨change, List.mem_cons_of_mem _ last.member, last.before, last.changes, ?_⟩
        intro other otherMember before otherChanges
        rcases List.mem_cons.mp otherMember with rfl | older
        · exact absurd otherChanges first
        · exact last.newest other older before otherChanges

/-- An entry at the moment or later is not asked. -/
theorem LastChange.of_cons (late : moment ≤ entry.moment)
    (last : LastChange (entry :: log) moment change idUser) :
    LastChange log moment change idUser where
  member := by
    rcases List.mem_cons.mp last.member with rfl | old
    · exact absurd last.before (Nat.not_lt.mpr late)
    · exact old
  before := last.before
  changes := last.changes
  newest := fun other member => last.newest other (List.mem_cons_of_mem _ member)

/-- A newest entry that changes nothing can be left out. -/
theorem LastChange.older (next : moment = entry.moment + 1)
    (idle : ¬ ChangesPassword entry idUser)
    (last : LastChange (entry :: log) moment change idUser)
    (counted : forall item, item ∈ log -> item.moment < entry.moment) :
    LastChange log entry.moment change idUser := by
  have member : change ∈ log := by
    rcases List.mem_cons.mp last.member with rfl | old
    · exact absurd last.changes idle
    · exact old
  constructor
  · exact member
  · exact counted change member
  · exact last.changes
  · intro other otherMember earlier changes
    exact last.newest other (List.mem_cons_of_mem _ otherMember) (by omega) changes

/-- A newest entry that changes the password is the newest change. -/
theorem LastChange.eq_head (next : moment = entry.moment + 1)
    (changes : ChangesPassword entry idUser)
    (last : LastChange (entry :: log) moment change idUser)
    (counted : forall item, item ∈ log -> item.moment < entry.moment) : change = entry := by
  rcases List.mem_cons.mp last.member with same | old
  · exact same
  · have later := last.newest entry List.mem_cons_self (by omega) changes
    have earlier := counted change old
    omega

theorem SetsPassword.of_cons (early : item.moment ≤ entry.moment)
    (sets : SetsPassword (entry :: log) item idUser password) :
    SetsPassword log item idUser password := by
  rcases sets with ⟨record, changes, encrypting, member, ticket, before, seen⟩
  refine ⟨record, changes, encrypting, ?_, ticket, before, seen⟩
  rcases List.mem_cons.mp member with rfl | old
  · omega
  · exact old

end Growing

/-- What an honest answer to `spawn_encrypt` is worth. -/
theorem accepts_of_encrypting (lawful : crypto.Lawful) {record : String}
    (answers : Answers crypto item) (seen : item.seen = ⟨.spawnEncrypt idUser password, record⟩) :
    crypto.Accepts idUser record password := by
  unfold Answers at answers
  rw [seen] at answers
  rcases answers with ⟨random, encrypted⟩
  exact PasswordCryptoService.accepts_encryptPassword lawful encrypted

theorem accepts_of_verifying (lawful : crypto.Lawful) {record replacement : String}
    (answers : Answers crypto item)
    (seen : item.seen =
      ⟨.spawnVerify idUser record password, .ok ⟨true, some replacement⟩⟩) :
    crypto.Accepts idUser record password ∧ crypto.Accepts idUser replacement password := by
  unfold Answers at answers
  rw [seen] at answers
  rcases answers with ⟨random, verified⟩
  rcases PasswordCryptoService.verifyPassword_ok verified with ⟨verdict, replaced⟩
  rcases replaced replacement rfl with ⟨-, encrypted⟩
  exact ⟨verdict.mp rfl, PasswordCryptoService.accepts_encryptPassword lawful encrypted⟩

/-- One change sets one password. -/
theorem SetsPassword.unique (lawful : crypto.Lawful) {other : String}
    (answers : forall item, item ∈ log -> Answers crypto item)
    (first : SetsPassword log change idUser password)
    (second : SetsPassword log change idUser other) : password = other := by
  rcases first with ⟨record, changes, encrypting, member, -, -, seen⟩
  rcases second with ⟨again, changesAgain, encryptingAgain, memberAgain, -, -, seenAgain⟩
  rw [changes] at changesAgain
  cases changesAgain
  exact (accepts_of_encrypting lawful (answers _ member) seen).unique lawful
    (accepts_of_encrypting lawful (answers _ memberAgain) seenAgain)

/-! ## The record of a row -/

/-- The row accepts the password of the newest change before the moment. -/
def Faithful (crypto : PasswordCryptoService) (log : List (Item app)) (moment : Nat)
    (operator : Operator) : Prop :=
  forall change password, LastChange log moment change operator.idUser ->
    SetsPassword log change operator.idUser password ->
    crypto.Accepts operator.idUser operator.encryptedPasswordHash password

/-- Every stored row is faithful, and every row was when a login read it. -/
def rehashing (app : AppState) (crypto : PasswordCryptoService) : Invariant (machine app) where
  Sound := fun world => (forall item, item ∈ world.log -> Answers crypto item) ->
    (forall operator, operator ∈ world.state.database.operators.rows ->
      Faithful crypto world.log world.log.length operator) ∧
    forall reading username operator, reading ∈ world.log ->
      reading.seen = ⟨.findByUsername username, some operator⟩ ->
      Faithful crypto world.log reading.moment operator
  Fits := fun _ _ => True

theorem Faithful.cons {operator : Operator} (late : moment ≤ entry.moment)
    (faithful : Faithful crypto log moment operator) :
    Faithful crypto (entry :: log) moment operator := by
  intro change password last sets
  have before := last.before
  exact faithful change password (last.of_cons late) (sets.of_cons (by omega))

/-- The number of an account whose password was changed has been issued. -/
theorem issued_of_changes {growth : Growth (machine app)} {world : World (machine app)}
    (later : forall {before after}, growth.Later before after -> State.Later before after)
    (recorded : world.Recorded growth) (member : item ∈ world.log)
    (changes : ChangesPassword item idUser) :
    idUser ≤ world.state.database.operators.sequence := by
  rcases changes with ⟨record, changes⟩
  rcases recorded.genuine item member with ⟨held, draw, performed⟩
  have stored : Exists fun operator : Operator =>
      item.after.database.findOperator idUser = some operator := by
    rcases item with ⟨ticket, request, opened, moment, before, after, itemHeld, era, command, reply⟩
    cases command with
    | updatePassword account hash =>
        cases changes
        exact ⟨reply, (Database.changeAndLoad_spec (commit_some performed).1).2⟩
    | update account input hash =>
        cases hash with
        | none => cases changes
        | some hash =>
            cases changes
            exact ⟨reply, (Database.changeAndLoad_spec (commit_some performed).1).2⟩
    | _ => cases changes
  rcases stored with ⟨operator, found⟩
  rcases Database.findOperator_eq_some.mp found with ⟨present, owner⟩
  have bounded : operator.idUser ≤ item.after.database.operators.sequence :=
    item.after.database.operators.bounded operator present
  have grown := (later (recorded.current item member)).database.operators.1
  omega

/-- A row after a command is faithful again. -/
theorem faithful_after (lawful : crypto.Lawful) {world : World (machine app)}
    {flight : Flight app} {command : Command} {draw : Draw} {reply : command.Reply}
    {after : State} {held : Session} {operator : Operator}
    (recorded : world.Recorded (growth app)) (fits : flight.Recorded (growth app) world)
    (permitted : Permitted flight command) (meets : seesLastChange world flight command)
    (performed : perform world.state flight.held command draw = some (reply, after, held))
    (answers : forall item, item ∈ world.log -> Answers crypto item)
    (rows : forall operator, operator ∈ world.state.database.operators.rows ->
      Faithful crypto world.log world.log.length operator)
    (readings : forall reading username operator, reading ∈ world.log ->
      reading.seen = ⟨.findByUsername username, some operator⟩ ->
      Faithful crypto world.log reading.moment operator)
    (member : operator ∈ after.database.operators.rows) :
    Faithful crypto (flight.entry world command reply after :: world.log)
      (world.log.length + 1) operator := by
  intro change password last sets
  have counted := recorded.counted
  rcases row_before performed member with ⟨old, oldMember, key, record, -⟩ | ⟨new, untouched⟩
  · cases writes : command.recordFor operator.idUser with
    | none =>
        rw [writes, Option.getD_none] at record
        have idle : ¬ ChangesPassword (flight.entry world command reply after)
            operator.idUser := not_changes_of_recordFor writes
        have before := last.older rfl idle counted
        have setsBefore := sets.of_cons (Nat.le_of_lt before.before)
        rw [record, ← key]
        rw [← key] at before setsBefore
        exact rows old oldMember change password before setsBefore
    | some hash =>
        rw [writes, Option.getD_some] at record
        rw [record]
        rcases Command.changesPassword_of_recordFor writes with changes | rehashes
        · have newest := last.eq_head rfl ⟨hash, changes⟩ counted
          subst newest
          rcases sets with ⟨written, changed, encrypting, encryptingMember, -, before, seen⟩
          change command.changesPassword = _ at changed
          rw [changes] at changed
          cases changed
          rcases List.mem_cons.mp encryptingMember with rfl | older
          · exact absurd before (Nat.lt_irrefl _)
          · exact accepts_of_encrypting lawful (answers _ older) seen
        · subst rehashes
          have idle : ¬ ChangesPassword (flight.entry world
              (.storeEncryptedPassword operator.idUser hash) reply after) operator.idUser := by
            rintro ⟨_, changes⟩
            cases changes
          have before := last.older rfl idle counted
          have setsBefore := sets.of_cons (Nat.le_of_lt before.before)
          rcases permitted with
              ⟨username, row, presented, ⟨reading, readingMember, readingSeen⟩, owner, verifying,
              verifyingMember, verifyingSeen⟩
          rw [← owner] at verifyingSeen
          rcases accepts_of_verifying lawful (answers _ (fits.own _ verifyingMember)) verifyingSeen
              with ⟨accepted, replaced⟩
          have same : presented = password := by
            rcases meets change before reading username row verifying presented readingMember
              readingSeen verifyingMember (by rw [verifyingSeen, owner]) with earlier | resets
            · have readingLog := fits.own _ readingMember
              have sofar : LastChange world.log reading.moment change row.idUser := by
                rw [owner]
                exact {
                  member := before.member
                  before := earlier
                  changes := before.changes
                  newest := fun other otherMember _ =>
                    before.newest other otherMember (counted other otherMember) }
              rw [← owner] at setsBefore
              exact accepted.unique lawful
                (readings reading username row readingLog readingSeen change password sofar
                  setsBefore)
            · exact resets.unique lawful answers setsBefore
          rw [← owner, ← same]
          exact replaced
  · exfalso
    have idle : ¬ ChangesPassword (flight.entry world command reply after) operator.idUser :=
      not_changes_of_recordFor untouched
    have before := last.older rfl idle counted
    have issued := issued_of_changes (fun later => later) recorded before.member before.changes
    omega

theorem rehashing_kept (lawful : crypto.Lawful) :
    (growth app).journal.Kept (rehashing app crypto) (contract app) seesLastChange where
  accept := fun _ _ _ _ sound => ⟨sound, True.intro, fun _ _ _ => True.intro⟩
  execute := by
    intro world flight command draw reply after held recorded fits sound _ permitted meets
      performed _ _
    refine ⟨?_, True.intro, fun _ _ _ => True.intro⟩
    intro answers
    have answersBefore : forall item, item ∈ world.log -> Answers crypto item :=
      fun item member => answers item (List.mem_cons_of_mem _ member)
    rcases sound answersBefore with ⟨rows, readings⟩
    constructor
    · intro operator member
      exact faithful_after lawful recorded fits permitted meets performed answersBefore rows
        readings member
    · intro reading username operator member seen
      rcases List.mem_cons.mp member with rfl | older
      · change (⟨command, reply⟩ : Observation console) = _ at seen
        cases seen
        have found : world.state.database.operators.find
            (fun operator => operator.username = username) = some operator :=
          (Prod.mk.inj (Option.some.inj performed)).1
        exact (rows operator (AutoTable.find_mem found)).cons (Nat.le_refl _)
      · exact (readings reading username operator older seen).cons
          (Nat.le_of_lt (recorded.counted reading older))
  close := by
    intro world flight draw after place _ _ sound _ _ closed _
    refine ⟨?_, fun _ _ _ => True.intro⟩
    intro answers
    rcases sound answers with ⟨rows, readings⟩
    refine ⟨?_, readings⟩
    show forall operator, operator ∈ after.database.operators.rows -> _
    rw [close_database closed]
    exact rows
  happen := by
    intro world event after _ sound happened _
    cases happened
    exact ⟨sound, fun _ _ _ => True.intro⟩

/-- Every change of a password was made for some password. -/
theorem setsPassword_of_changes {world : World (machine app)}
    (audited : (contract app).audited.Sound world) (member : change ∈ world.log)
    (changes : ChangesPassword change idUser) :
    Exists fun password => SetsPassword world.log change idUser password := by
  rcases changes with ⟨hash, changes⟩
  rcases audited change member with ⟨flight, permitted, -, among⟩
  have encrypted : Encrypted flight.own idUser hash := by
    change Permitted flight change.seen.command at permitted
    cases same : change.seen.command with
    | updatePassword account _ =>
        rw [same] at changes permitted
        cases changes
        exact permitted
    | update account _ written =>
        rw [same] at changes permitted
        cases written with
        | none => cases changes
        | some _ =>
            cases changes
            exact permitted.2 hash rfl
    | _ =>
        rw [same] at changes
        cases changes
  rcases encrypted with ⟨password, encrypting, own, seen⟩
  rcases among encrypting own with ⟨inLog, ticket, earlier⟩
  exact ⟨password, hash, changes, encrypting, inLog, ticket, earlier, seen⟩

/-- In a run without disturbance the stored record belongs to the newest change
of the password, whatever logins have rehashed. -/
theorem rehash_preserves_change (lawful : crypto.Lawful) {state : State}
    {config : Config (machine app)}
    (reached : Reaches (service app) seesLastChange (Config.idle state) config)
    (answers : forall item, item ∈ config.world.log -> Answers crypto item)
    (last : LastChange config.world.log config.world.log.length change idUser)
    {operator : Operator} (stored : config.world.state.database.findOperator idUser = some operator) :
    (Exists fun password => SetsPassword config.world.log change idUser password) ∧
      forall password, SetsPassword config.world.log change idUser password ->
        crypto.Accepts idUser operator.encryptedPasswordHash password := by
  have journal := (growth app).journal_lasting (service app) seesLastChange state
  have initial : (rehashing app crypto).Sound (Config.idle state).world := by
    intro _
    constructor
    · intro operator _ change password last
      exact absurd last.member List.not_mem_nil
    · intro reading username operator member
      exact absurd member List.not_mem_nil
  have sound := ((rehashing_kept lawful).lasting (obeys app) (fun _ => rfl) journal initial
    config reached).1
  have audited := (Contract.audited_lasting (growth app) (obeys app) seesLastChange state
    config reached).1
  refine ⟨setsPassword_of_changes audited last.member last.changes, ?_⟩
  intro password sets
  rcases Database.findOperator_eq_some.mp stored with ⟨member, rfl⟩
  exact (sound answers).1 operator member change password last sets

end Console

namespace Sample

/-- A byte as two letters. -/
def halves (byte : UInt8) : List UInt8 :=
  [UInt8.ofNat (97 + byte.toNat / 16), UInt8.ofNat (97 + byte.toNat % 16)]

theorem utf8_letter (number : Fin 16) :
    String.utf8EncodeChar (Char.ofNat (97 + number)) = [UInt8.ofNat (97 + number)] := by
  revert number
  decide

theorem halves_valid (content : List UInt8) :
    (ByteArray.mk (content.flatMap halves).toArray).IsValidUTF8 := by
  refine ⟨content.flatMap fun byte =>
    [Char.ofNat (97 + byte.toNat / 16), Char.ofNat (97 + byte.toNat % 16)], ?_⟩
  ext1
  rw [List.utf8Encode, List.flatMap_assoc, List.data_toByteArray]
  refine congrArg (fun letter => (content.flatMap letter).toArray) ?_
  funext byte
  have small : byte.toNat < 256 := byte.toNat_lt
  have high := utf8_letter ⟨byte.toNat / 16, by omega⟩
  have low := utf8_letter ⟨byte.toNat % 16, by omega⟩
  simp only [List.flatMap_cons, List.flatMap_nil, List.append_nil] at high low ⊢
  rw [high, low]
  rfl

def letters (bytes : ByteArray) : String :=
  ⟨⟨(bytes.data.toList.flatMap halves).toArray⟩, halves_valid _⟩

def pairs : List UInt8 -> List UInt8
  | high :: low :: rest => UInt8.ofNat ((high.toNat - 97) * 16 + (low.toNat - 97)) :: pairs rest
  | _ => []

def bytes (text : String) : ByteArray := ⟨(pairs text.toUTF8.data.toList).toArray⟩

theorem pairs_halves (content : List UInt8) : pairs (content.flatMap halves) = content := by
  induction content with
  | nil => rfl
  | cons byte rest inductionHypothesis =>
      have small : byte.toNat < 256 := byte.toNat_lt
      have high : (UInt8.ofNat (97 + byte.toNat / 16)).toNat = 97 + byte.toNat / 16 := by
        rw [UInt8.toNat_ofNat']
        omega
      have low : (UInt8.ofNat (97 + byte.toNat % 16)).toNat = 97 + byte.toNat % 16 := by
        rw [UInt8.toNat_ofNat']
        omega
      have whole : (97 + byte.toNat / 16 - 97) * 16 + (97 + byte.toNat % 16 - 97) =
          byte.toNat := by omega
      simp only [List.flatMap_cons, halves, List.cons_append, List.nil_append, pairs]
      rw [high, low, whole, UInt8.ofNat_toNat]
      exact congrArg (byte :: ·) inductionHypothesis

theorem bytes_letters (content : ByteArray) : bytes (letters content) = content := by
  ext1
  simp only [bytes, letters, String.toUTF8_eq_toByteArray, pairs_halves, Array.toArray_toList]

def tag : ByteArray := ⟨Array.replicate 16 0⟩

/-- A hash names its parameters in the first letter. -/
def hashOf (parameters : String) (password : ByteArray) : String := parameters ++ letters password

/-- A cipher that only authenticates, and hashes that show their password. -/
def crypto : PasswordCryptoService where
  keyId := ⟨Array.replicate 16 1⟩
  keyIdSize := rfl
  encrypt := fun _ message aad => some (tag ++ aad ++ message)
  decrypt := fun _ ciphertext aad =>
    let front := (tag ++ aad).data.toList
    if ciphertext.data.toList.take front.length = front then
      some ⟨(ciphertext.data.toList.drop front.length).toArray⟩
    else none
  base64Encode := letters
  base64Decode := fun text => some (bytes text)
  pwhashStr := fun _ password => some (hashOf "n" password)
  pwhashStrVerify := fun hash password =>
    hash.toUTF8.data.toList.tail = (letters password).toUTF8.data.toList
  pwhashStrNeedsRehash := fun hash => some (hash.toUTF8.data.toList.head? = some 111)

theorem crypto_lawful : crypto.Lawful where
  decode_encode := fun content => congrArg some (bytes_letters content)
  sealed_size := by
    intro nonce message aad ciphertext encrypted
    cases encrypted
    have size : tag.size = 16 := rfl
    rw [ByteArray.size_append, ByteArray.size_append, size]
    exact Nat.le_trans (Nat.le_add_right 16 _) (Nat.le_add_right _ _)
  decrypt_encrypt := by
    intro nonce message aad ciphertext encrypted
    cases encrypted
    have whole : (tag ++ aad ++ message).data.toList =
        (tag ++ aad).data.toList ++ message.data.toList := by
      rw [ByteArray.data_append, Array.toList_append]
    simp only [crypto, whole, List.take_left, List.drop_left, if_pos, Array.toArray_toList]
  verifies := by
    intro salt password hash made
    cases made
    have whole : ("n" ++ letters password).toUTF8.data.toList =
        110 :: (letters password).toUTF8.data.toList := by
      rw [String.toUTF8_eq_toByteArray, String.toByteArray_append, ByteArray.data_append,
        Array.toList_append]
      rfl
    simp only [crypto, hashOf, whole, List.tail_cons, decide_true]
  verifies_one := by
    intro hash password other first second
    simp only [crypto, decide_eq_true_eq] at first second
    have same : letters password = letters other := by
      apply PasswordCryptoService.toUTF8_injective
      ext1
      exact Array.toList_inj.mp (first.symm.trans second)
    have back := congrArg bytes same
    rw [bytes_letters, bytes_letters] at back
    exact back

def random : PasswordCryptoService.Random := ⟨tag, ⟨Array.replicate 24 0⟩, rfl⟩

/-- The administrator's record for a password, with old or new parameters. -/
def recordOf (parameters password : String) : String :=
  (crypto.encryptHash random 1 (hashOf parameters password.toUTF8)).toOption.getD ""

/-- The answer is the one that the service gives with these random bytes. -/
def answersBySample (item : Console.Item app) : Bool :=
  match item.seen with
  | ⟨.spawnEncrypt idUser password, hash⟩ =>
      decide (crypto.encryptPassword random idUser password = .ok hash)
  | ⟨.spawnVerify idUser hash password, answer⟩ =>
      decide (crypto.verifyPassword random idUser hash password = answer)
  | _ => true

theorem answers_of_answersBySample {item : Console.Item app}
    (passed : answersBySample item = true) : Console.Answers crypto item := by
  unfold answersBySample at passed
  unfold Console.Answers
  split at passed
  · exact ⟨random, of_decide_eq_true passed⟩
  · exact ⟨random, of_decide_eq_true passed⟩
  · exact True.intro

def freshPassword : String := "Aa1!aaaaaaaaaaaa"

/-- The administrator's record was made with old parameters. -/
def dated : State where
  database := (Database.empty.insertOperator 0 "root" "root@example" "admin"
    (recordOf "o" "secret")).getD Database.empty
  sessions := SessionStore.empty
  now := 1000
  known := []

def changePassword (cookie : SessionId) : Request :=
  ⟨visit (some cookie), .updatePasswordAction ⟨"1", "secret", freshPassword, "token"⟩⟩

/-- A login up to the answer of the password service, which hands out a replacement. -/
def verifying (ticket : Nat) : Schedule :=
  [.accept login] ++ steps ticket 5 ++
    [.step ticket { verification := .ok ⟨true, some (recordOf "n" "secret")⟩ }]

/-- A change of the password, up to the commit. -/
def changing (ticket : Nat) : Schedule :=
  [.accept (changePassword 7)] ++ steps ticket 10 ++
    [.step ticket { text := recordOf "n" freshPassword }] ++ steps ticket 1

/-- A login rehashes and then the password is changed. -/
def rehashingFirst : Schedule :=
  verifying 0 ++ steps 0 15 ++ [.close 0 { sessionId := 7 }] ++ changing 1

/-- Another login has verified the old password before and rehashes last. -/
def rehashingLast : Schedule :=
  verifying 0 ++ verifying 1 ++ steps 1 15 ++ [.close 1 { sessionId := 7 }] ++ changing 2 ++
    steps 0 2

/-- The test of a run in which no password has been changed when a login rehashes. -/
def rehashesUnchanged (world : World (Console.machine app)) (_ : Console.Flight app)
    (command : Command) : Bool :=
  match command with
  | .storeEncryptedPassword _ _ =>
      world.log.all fun item => item.seen.command.changesPassword.isNone
  | _ => true

theorem seesLastChange_of_rehashesUnchanged (world : World (Console.machine app))
    (flight : Console.Flight app) (command : Command)
    (passed : rehashesUnchanged world flight command = true) :
    Console.seesLastChange world flight command := by
  cases command with
  | storeEncryptedPassword idUser replacement =>
      intro change last
      rcases last.changes with ⟨hash, changes⟩
      have none := List.all_eq_true.mp passed change last.member
      rw [changes] at none
      cases none
  | _ => exact True.intro

/-- Every new password of the log is the fresh one. -/
def onlyFresh (item : Console.Item app) : Bool :=
  match item.seen.command with
  | .spawnEncrypt _ password => decide (password = freshPassword)
  | _ => true

/-- The service has answered every entry, and a password of the administrator
was changed, to the fresh one if at all. -/
def changedToFresh (config : Config (Console.machine app)) : Bool :=
  (config.world.log.all answersBySample && config.world.log.all onlyFresh) &&
    config.world.log.any fun item => item.seen.command.changesPassword.map Prod.fst = some 1

/-- Whether the stored record of the administrator accepts the fresh password. -/
def freshVerdict (config : Config (Console.machine app)) : Option Bool := do
  let operator ← config.world.state.database.findOperator 1
  let hash ← (crypto.decryptHash 1 operator.encryptedPasswordHash).toOption
  some (crypto.pwhashStrVerify hash freshPassword.toUTF8)

theorem freshVerdict_some {config : Config (Console.machine app)} {verdict : Bool}
    (found : freshVerdict config = some verdict) :
    Exists fun operator => config.world.state.database.findOperator 1 = some operator ∧
      (crypto.Accepts 1 operator.encryptedPasswordHash freshPassword ↔ verdict = true) := by
  rcases Option.bind_eq_some_iff.mp found with ⟨operator, stored, opening⟩
  rcases Option.bind_eq_some_iff.mp opening with ⟨hash, opened, same⟩
  refine ⟨operator, stored, ?_⟩
  cases decrypted : crypto.decryptHash 1 operator.encryptedPasswordHash with
  | error message =>
      rw [decrypted] at opened
      cases opened
  | ok again =>
      rw [decrypted] at opened
      cases opened
      rw [← Option.some.inj same]
      constructor
      · rintro ⟨other, openedAgain, accepted⟩
        rw [decrypted] at openedAgain
        cases openedAgain
        exact accepted
      · intro accepted
        exact ⟨_, decrypted, accepted⟩

/-- What the run and the test together say. -/
theorem freshly_changed {allowed : Condition (Console.machine app)}
    {config : Config (Console.machine app)}
    (reached : Reaches (Console.service app) allowed (Config.idle dated) config)
    (passed : changedToFresh config = true) :
    (forall item, item ∈ config.world.log -> Console.Answers crypto item) ∧
      (Exists fun change =>
        Console.LastChange config.world.log config.world.log.length change 1) ∧
      forall change password, Console.SetsPassword config.world.log change 1 password ->
        password = freshPassword := by
  simp only [changedToFresh, Bool.and_eq_true, List.all_eq_true, List.any_eq_true] at passed
  rcases passed with ⟨⟨answered, fresh⟩, item, member, changes⟩
  have recorded := ((Console.growth app).journal_lasting (Console.service app) allowed dated
    config reached).1
  refine ⟨fun item member => answers_of_answersBySample (answered item member), ?_, ?_⟩
  · rcases Option.map_eq_some_iff.mp (of_decide_eq_true changes) with
        ⟨⟨idUser, hash⟩, changed, same⟩
    cases same
    exact Console.exists_lastChange recorded.ordered recorded.counted member ⟨hash, changed⟩
  · rintro change password ⟨hash, -, encrypting, encryptingMember, -, -, seen⟩
    have only := fresh encrypting encryptingMember
    unfold onlyFresh at only
    rw [seen] at only
    exact of_decide_eq_true only

set_option maxRecDepth 100000 in
theorem rehash_preserves_change_rehashed :
    Exists fun config => Exists fun change => Exists fun operator =>
      (Config.idle dated).playWhile (Console.service app) rehashesUnchanged rehashingFirst =
        some config ∧
      Console.LastChange config.world.log config.world.log.length change 1 ∧
      Console.SetsPassword config.world.log change 1 freshPassword ∧
      config.world.state.database.findOperator 1 = some operator ∧
      crypto.Accepts 1 operator.encryptedPasswordHash freshPassword := by
  have replayed : ((Config.idle dated).playWhile (Console.service app) rehashesUnchanged
      rehashingFirst).map (fun config => (changedToFresh config, freshVerdict config)) =
        some (true, some true) := by decide +kernel
  rcases Option.map_eq_some_iff.mp replayed with ⟨config, played, same⟩
  rcases Prod.mk.inj same with ⟨passed, verdict⟩
  have reached := Config.playWhile_reaches seesLastChange_of_rehashesUnchanged rehashingFirst played
  rcases freshly_changed reached passed with ⟨answers, ⟨change, last⟩, fresh⟩
  rcases freshVerdict_some verdict with ⟨operator, stored, -⟩
  rcases Console.rehash_preserves_change crypto_lawful reached answers last stored with
      ⟨⟨password, sets⟩, accepts⟩
  rw [fresh change password sets] at sets
  exact ⟨config, change, operator, played, last, sets, stored, accepts freshPassword sets⟩

set_option maxRecDepth 100000 in
/-- A login that has verified the old password takes the change back. -/
theorem change_undone :
    ¬ forall config, Reaches (Console.service app) anyCommand (Config.idle dated) config ->
      (forall item, item ∈ config.world.log -> Console.Answers crypto item) ->
      forall change, Console.LastChange config.world.log config.world.log.length change 1 ->
      forall operator, config.world.state.database.findOperator 1 = some operator ->
      forall password, Console.SetsPassword config.world.log change 1 password ->
        crypto.Accepts 1 operator.encryptedPasswordHash password := by
  intro kept
  have replayed : (run dated rehashingLast).map
      (fun config => (changedToFresh config, freshVerdict config)) = some (true, some false) := by
    decide +kernel
  rcases Option.map_eq_some_iff.mp replayed with ⟨config, played, same⟩
  rcases Prod.mk.inj same with ⟨passed, verdict⟩
  have reached := Config.play_reaches _ played
  rcases freshly_changed reached passed with ⟨answers, ⟨change, last⟩, fresh⟩
  rcases freshVerdict_some verdict with ⟨operator, stored, refused⟩
  have audited := (Contract.audited_lasting (Console.growth app) (Console.obeys app) anyCommand
    dated config reached).1
  rcases Console.setsPassword_of_changes audited last.member last.changes with ⟨password, sets⟩
  have accepted := kept config reached answers change last operator stored password sets
  rw [fresh change password sets] at accepted
  cases refused.mp accepted

end Sample
end KrakenUi
