import KrakenUi.Guarantees.RecoveryCodes
import KrakenUi.Guarantees.Restarts
import KrakenUi.Guarantees.SecondFactor
import KrakenUi.Interaction.Progress
import KrakenUi.Net.IpAddr
import KrakenUi.Services.PasswordCrypto
import KrakenUi.Storage.Tickets
import Mathlib.Data.List.Forall2

namespace KrakenUi

open Interaction Storage Text

/-!
# From the file of recovery codes to the login

The page that shows new recovery codes offers them as a file.  Whoever keeps the
file has a book of single-use tickets: the lines of the file are the codes, and
the login accepts each of them once, in any order and in whatever way it is
typed.  The stored rows of an operator are at all times one complete set or
none, also when processes are killed.
-/

namespace Mfa

/-! ## What a code looks like -/

/-- The symbol that a random byte stands for. -/
def symbol (byte : Nat) : Char :=
  recoveryAlphabet.getD (byte % recoveryAlphabet.length) 'A'

/-- The symbols are letters and digits that normalising leaves alone. -/
theorem symbol_plain (byte : Nat) :
    isAsciiAlphanumeric (symbol byte) = true ∧ asciiUpper (symbol byte) = symbol byte ∧
      symbol byte ≠ '\n' ∧ symbol byte ≠ '\r' := by
  have size : recoveryAlphabet.length = 32 := by decide
  have listed : forall place, place < 32 ->
      isAsciiAlphanumeric (recoveryAlphabet.getD place 'A') = true ∧
        asciiUpper (recoveryAlphabet.getD place 'A') = recoveryAlphabet.getD place 'A' ∧
        recoveryAlphabet.getD place 'A' ≠ '\n' ∧ recoveryAlphabet.getD place 'A' ≠ '\r' := by
    decide
  unfold symbol
  rw [size]
  exact listed _ (Nat.mod_lt _ (by decide))

theorem toList_generateRecoveryCode (bytes : List Nat) :
    (generateRecoveryCode bytes).toList = bytes.zipIdx.flatMap fun entry =>
      if entry.2 = 5 then ['-', symbol entry.1] else [symbol entry.1] :=
  String.toList_ofList

/-- Normalising a code takes the separator out again. -/
theorem normalizeRecovery_generated (bytes : List Nat) :
    normalizeRecovery (generateRecoveryCode bytes) = String.ofList (bytes.map symbol) := by
  unfold normalizeRecovery
  rw [toList_generateRecoveryCode, List.filter_flatMap, List.map_flatMap]
  congr 1
  have each : forall entry : Nat × Nat,
      ((if entry.2 = 5 then ['-', symbol entry.1] else [symbol entry.1]).filter
        isAsciiAlphanumeric).map asciiUpper = [symbol entry.1] := by
    intro entry
    rcases symbol_plain entry.1 with ⟨alphanumeric, upper, -, -⟩
    have alone : ([symbol entry.1].filter isAsciiAlphanumeric).map asciiUpper =
        [symbol entry.1] := by
      rw [List.filter_cons, if_pos alphanumeric, List.filter_nil, List.map_singleton, upper]
    split
    · exact alone
    · exact alone
  calc
    _ = bytes.zipIdx.flatMap fun entry => [symbol entry.1] :=
      congrArg bytes.zipIdx.flatMap (funext each)
    _ = (bytes.zipIdx.map Prod.fst).map symbol := by
      rw [List.map_map, List.map_eq_flatMap]
      rfl
    _ = bytes.map symbol := by rw [List.zipIdx_map_fst]

/-- A code is one line. -/
theorem plain_generateRecoveryCode (bytes : List Nat) :
    '\n' ∉ (generateRecoveryCode bytes).toList ∧ '\r' ∉ (generateRecoveryCode bytes).toList := by
  rw [toList_generateRecoveryCode]
  have each : forall character, character ∈ (bytes.zipIdx.flatMap fun entry =>
      if entry.2 = 5 then ['-', symbol entry.1] else [symbol entry.1]) ->
      character ≠ '\n' ∧ character ≠ '\r' := by
    intro character member
    rcases List.mem_flatMap.mp member with ⟨entry, -, inside⟩
    rcases symbol_plain entry.1 with ⟨-, -, noFeed, noReturn⟩
    split at inside
    · rcases List.mem_cons.mp inside with rfl | last
      · decide
      · rw [List.mem_singleton.mp last]
        exact ⟨noFeed, noReturn⟩
    · rw [List.mem_singleton.mp inside]
      exact ⟨noFeed, noReturn⟩
  exact ⟨fun member => (each _ member).1 rfl, fun member => (each _ member).2 rfl⟩

/-! ## A code is no time step -/

theorem whitespace_not_alphanumeric {character : Char} (blank : isWhitespace character = true) :
    isAsciiAlphanumeric character = false := by
  apply Bool.eq_false_iff.mpr
  intro alphanumeric
  have bounds : 48 ≤ character.toNat ∧ character.toNat ≤ 122 := by
    simp only [isAsciiAlphanumeric, isAsciiDigit, isAsciiLowercase, isAsciiUppercase,
      Bool.or_eq_true, Bool.and_eq_true, decide_eq_true_eq] at alphanumeric
    rcases alphanumeric with (⟨low, high⟩ | ⟨low, high⟩) | ⟨low, high⟩
    · exact ⟨low, Nat.le_trans high (by decide)⟩
    · exact ⟨Nat.le_trans (by decide) low, high⟩
    · exact ⟨Nat.le_trans (by decide) low, Nat.le_trans high (by decide)⟩
  simp only [isWhitespace, Bool.or_eq_true, Bool.and_eq_true, decide_eq_true_eq, beq_iff_eq] at blank
  omega

theorem length_le_byteLength (text : List Char) :
    text.length ≤ (text.map Char.utf8Size).sum := by
  induction text with
  | nil => exact Nat.le_refl 0
  | cons character text inductionHypothesis =>
      have positive := character.utf8Size_pos
      rw [List.length_cons, List.map_cons, List.sum_cons]
      omega

/-- What is tried as a time step has at most six letters and digits. -/
theorem parseCode_short {code : String} {number : Nat} (parsed : parseCode code = some number) :
    (normalizeRecovery code).toList.length ≤ 6 := by
  have six : (trimChars code.toList).length ≤ 6 := by
    unfold parseCode at parsed
    dsimp only at parsed
    split at parsed
    · cases parsed
    · rename_i measured
      simp only [Bool.or_eq_true, decide_eq_true_eq, Bool.not_eq_true', not_or, ne_eq,
        Classical.not_not] at measured
      have bytes := measured.1
      unfold len trim at bytes
      rw [String.toList_ofList] at bytes
      have letters := length_le_byteLength (trimChars code.toList)
      omega
  rcases trimChars_parts code.toList with ⟨front, back, parts, frontBlank, backBlank⟩
  have blank : forall text : List Char, (forall character, character ∈ text ->
      isWhitespace character = true) -> text.filter isAsciiAlphanumeric = [] := by
    intro text spaces
    apply List.filter_eq_nil_iff.mpr
    intro character member
    rw [whitespace_not_alphanumeric (spaces character member)]
    exact Bool.false_ne_true
  unfold normalizeRecovery
  rw [String.toList_ofList, List.length_map, parts, List.filter_append, List.filter_append,
    blank front frontBlank, blank back backBlank, List.nil_append, List.append_nil]
  exact Nat.le_trans (List.length_filter_le _ _) six

end Mfa

/-! ## The file -/

namespace MfaPages

/-- What a browser saves for the link: the text behind the announcement, decoded. -/
def savedFile (url : String) : Option String :=
  if "data:text/plain;charset=utf-8;base64,".toList <+: url.toList then
    (Base64.standard.decode (String.ofList
      (url.toList.drop "data:text/plain;charset=utf-8;base64,".toList.length))).bind
        String.fromUTF8?
  else none

/-- The link gives back the text that was put into it. -/
theorem savedFile_download (codes : List String) :
    savedFile (recoveryCodesDownloadDataUrl codes) =
      some ("KrakenWAF recovery codes\n\n" ++ "\n".intercalate codes ++ "\n") := by
  unfold savedFile recoveryCodesDownloadDataUrl
  dsimp only
  generalize announced : "data:text/plain;charset=utf-8;base64," = announcement
  generalize written : "KrakenWAF recovery codes\n\n" ++ "\n".intercalate codes ++ "\n" = text
  have url : (announcement ++ String.ofList
      (Base64.standard.spell text.toUTF8.data.toList)).toList =
      announcement.toList ++ Base64.standard.spell text.toUTF8.data.toList := by
    rw [String.toList_append, String.toList_ofList]
  have read : Base64.standard.decode
      (String.ofList (Base64.standard.spell text.toUTF8.data.toList)) = some text.toUTF8 :=
    (Base64.Engine.strict_decode Base64.standard _ _).mpr String.toList_ofList
  rw [url, if_pos (List.prefix_append _ _), List.drop_left, read, Option.bind_some]
  exact PasswordCryptoService.fromUTF8_toUTF8 text

theorem linesOf_terminated {pieces : List (List Char)}
    (plain : forall piece, piece ∈ pieces -> '\r' ∉ piece) :
    linesOf (pieces ++ [[]]) = pieces := by
  induction pieces with
  | nil => rfl
  | cons piece rest inductionHypothesis =>
      have stripped : stripCarriageReturn piece = piece := by
        unfold stripCarriageReturn
        rw [if_neg]
        intro last
        exact plain piece List.mem_cons_self (List.mem_of_getLast? last)
      have others := inductionHypothesis fun other member =>
        plain other (List.mem_cons_of_mem _ member)
      cases rest with
      | nil =>
          show [stripCarriageReturn piece] = [piece]
          rw [stripped]
      | cons second rest =>
          show stripCarriageReturn piece :: linesOf (second :: rest ++ [[]]) = _
          rw [stripped, others]

/-- Lines that are ended by line feeds are read back. -/
theorem lines_terminated {pieces : List (List Char)} (some : pieces ≠ [])
    (plain : forall piece, piece ∈ pieces -> '\n' ∉ piece ∧ '\r' ∉ piece) :
    lines (['\n'].intercalate pieces ++ ['\n']) = pieces := by
  have whole : ['\n'].intercalate pieces ++ ['\n'] = ['\n'].intercalate (pieces ++ [[]]) := by
    rw [Net.IpAddr.intercalate_append some (List.cons_ne_nil _ _), List.intercalate_singleton,
      List.append_nil]
  unfold lines
  rw [whole, List.splitOn_intercalate _ _ (by simp)]
  · exact linesOf_terminated fun piece member => (plain piece member).2
  · intro piece member
    rcases List.mem_append.mp member with listed | last
    · exact (plain piece listed).1
    · rw [List.mem_singleton.mp last]
      exact List.not_mem_nil

/-- The lines of the file are a title, a blank line and the codes. -/
theorem lines_saved {codes : List String} (some : codes ≠ [])
    (plain : forall code, code ∈ codes -> '\n' ∉ code.toList ∧ '\r' ∉ code.toList) :
    lines ("KrakenWAF recovery codes\n\n" ++ "\n".intercalate codes ++ "\n").toList =
      "KrakenWAF recovery codes".toList :: [] :: codes.map String.toList := by
  have listed : codes.map String.toList ≠ [] := fun none => some (List.map_eq_nil_iff.mp none)
  have text : ("KrakenWAF recovery codes\n\n" ++ "\n".intercalate codes ++ "\n").toList =
      ['\n'].intercalate
        ("KrakenWAF recovery codes".toList :: [] :: codes.map String.toList) ++ ['\n'] := by
    rw [String.toList_append, String.toList_append, String.toList_intercalate,
      List.intercalate_cons_cons, List.intercalate_cons_of_ne_nil listed]
    rfl
  rw [text, lines_terminated (List.cons_ne_nil _ _)]
  intro piece member
  rcases List.mem_cons.mp member with rfl | later
  · decide
  · rcases List.mem_cons.mp later with rfl | code
    · exact ⟨List.not_mem_nil, List.not_mem_nil⟩
    · rcases List.mem_map.mp code with ⟨printed, among, rfl⟩
      exact plain printed among

end MfaPages

/-! ## Codes that are typed one after another -/

namespace OperatorMfaRepository

/-- One operator types codes in turn, and nobody else is at work. -/
def attempts (app : AppState) (idUser : Int) : List String -> Handler (List Bool)
  | [] => pure []
  | code :: rest => do
      let accepted ← verifyLoginCode app idUser code
      let later ← attempts app idUser rest
      pure (accepted :: later)

/-- The row holds this code, up to how it is written. -/
def Holds (app : AppState) (idUser : Int) (row : RecoveryCode) (ticket : String) : Prop :=
  (app.decryptSecret idUser Mfa.recoveryDomain row.encryptedCode).map Mfa.normalizeRecovery =
    some ticket

/-- The usable codes of the operator are this book, and its secrets can be opened. -/
structure Booked (app : AppState) (database : Database) (idUser : Int) (book : List String) :
    Prop where
  codes : List.Forall₂ (Holds app idUser) (database.unusedRecoveryCodes idUser) book
  secrets : forall row, row ∈ database.totp.rows -> row.idUser = idUser ->
    (app.decryptSecret idUser Mfa.totpDomain row.encryptedSecret).isSome = true
  words : forall ticket, ticket ∈ book -> isEmpty ticket = false

section Alone

variable {app : AppState} {state : State} {held : Session} {idUser : Int} {book : List String}

/-- The code is not there, or the first row that holds it is burned. -/
theorem burnMatching_eq {rows : List RecoveryCode} (candidate : String)
    (holding : List.Forall₂ (Holds app idUser) rows book) :
    (candidate ∉ book ∧ burnMatching app idUser candidate rows = pure false) ∨
      Exists fun front => Exists fun row => Exists fun back =>
        rows = front ++ row :: back ∧ candidate ∈ book ∧
          List.Forall₂ (Holds app idUser) (front ++ back) (book.erase candidate) ∧
          burnMatching app idUser candidate rows =
            call (.consumeRecoveryCodeRow idUser row.idCode) := by
  induction holding with
  | nil => exact Or.inl ⟨List.not_mem_nil, rfl⟩
  | @cons row ticket rows book holds rest inductionHypothesis =>
      rcases Option.map_eq_some_iff.mp holds with ⟨stored, opened, normal⟩
      by_cases same : ticket = candidate
      · right
        refine ⟨[], row, rows, rfl, ?_, ?_, ?_⟩
        · rw [same]
          exact List.mem_cons_self
        · rw [same, List.erase_cons_head]
          exact rest
        · simp only [burnMatching, opened]
          rw [if_pos (normal.trans same)]
      · have passed : burnMatching app idUser candidate (row :: rows) =
            burnMatching app idUser candidate rows := by
          simp only [burnMatching, opened]
          rw [if_neg fun equal => same (normal.symm.trans equal)]
        rw [passed]
        rcases inductionHypothesis with
            ⟨absent, missed⟩ | ⟨front, found, back, parts, member, others, burned⟩
        · refine Or.inl ⟨?_, missed⟩
          intro member
          rcases List.mem_cons.mp member with equal | later
          · exact same equal.symm
          · exact absent later
        · right
          refine ⟨row :: front, found, back, ?_, List.mem_cons_of_mem _ member, ?_, burned⟩
          · rw [parts, List.cons_append]
          · rw [List.erase_cons_tail (by simpa using same), List.cons_append]
            exact List.Forall₂.cons holds others

theorem admits_codes (rows : List RecoveryCode) : RecoveryCode.schema.Admits rows :=
  ⟨List.pairwise_of_forall fun _ _ => rfl, fun _ _ => rfl⟩

/-- The table has no rule that an update of its codes could break. -/
theorem updateCodes_possible (database : Database) (selected : RecoveryCode -> Bool)
    (change : RecoveryCode -> RecoveryCode)
    (numbered : forall row, (change row).idCode = row.idCode)
    (owner : forall row, (change row).idUser = row.idUser) :
    Exists fun after => database.updateCodes selected change numbered owner = some after := by
  cases result : database.updateCodes selected change numbered owner with
  | some after => exact ⟨after, rfl⟩
  | none =>
      exfalso
      unfold Database.updateCodes at result
      split at result
      · rename_i refused
        unfold AutoTable.updateWhere at refused
        rw [dif_pos (admits_codes _)] at refused
        cases refused
      · cases result

/-- The row that a call has found is still there when nobody else is at work. -/
theorem consumeRecoveryCodeRow_alone {database : Database} {now : Int}
    {front back : List RecoveryCode} {row : RecoveryCode}
    (parts : database.unusedRecoveryCodes idUser = front ++ row :: back) :
    Exists fun after => database.consumeRecoveryCodeRow now idUser row.idCode = some (true, after) ∧
      after.unusedRecoveryCodes idUser = front ++ back ∧ after.totp = database.totp := by
  have listed : row ∈ database.unusedRecoveryCodes idUser := by
    rw [parts]
    exact List.mem_append_right _ List.mem_cons_self
  rcases List.mem_filter.mp listed with ⟨member, unused⟩
  simp only [Bool.and_eq_true, decide_eq_true_eq] at unused
  have chosen : Database.unusedCode idUser row.idCode row = true :=
    Database.unusedCode_iff.mpr ⟨rfl, unused.1, unused.2⟩
  rcases updateCodes_possible database (Database.unusedCode idUser row.idCode)
      (fun row => { row with used := 1, usedAt := some now }) (fun _ => rfl) (fun _ => rfl) with
    ⟨after, updated⟩
  have single : database.recoveryCodes.count (Database.unusedCode idUser row.idCode) = 1 :=
    (AutoTable.count_eq_one fun other selected =>
      (Database.unusedCode_iff.mp selected).1).mpr ⟨row, member, chosen⟩
  have consumed : database.consumeRecoveryCodeRow now idUser row.idCode = some (true, after) := by
    unfold Database.consumeRecoveryCodeRow
    rw [updated, Option.map_some, single]
    rfl
  rcases Database.updateCodes_some updated with ⟨changed, -, totp⟩
  refine ⟨after, consumed, ?_, totp⟩
  unfold Database.unusedRecoveryCodes
  rw [AutoTable.all_updateWhere_gone changed]
  · exact AutoTable.filter_all_number parts chosen fun other selected =>
      (Database.unusedCode_iff.mp selected).1
  · intro other _
    simp

theorem delivers_call {α : Type} {command : Command} {next : command.Reply -> Handler α}
    {after : State} {rest : Session} {post : α -> State -> Session -> Prop} (reply : command.Reply)
    (answers : forall draw, Console.perform state held command draw = some (reply, after, rest))
    (later : Delivers (M := Console.machine app) post (next reply) after rest) :
    Delivers (M := Console.machine app) post (call command >>= next) state held :=
  Delivers.step answers later

/-- What an attempt leaves behind. -/
def Answered (app : AppState) (idUser : Int) (book : List String) (code : String) (held : Session)
    (answer : Bool) (after : State) (rest : Session) : Prop :=
  answer = decide (Mfa.normalizeRecovery code ∈ book) ∧
    Booked app after.database idUser (book.erase (Mfa.normalizeRecovery code)) ∧ rest = held

theorem delivers_consumeRecoveryCode (booked : Booked app state.database idUser book)
    (code : String) :
    Delivers (M := Console.machine app) (Answered app idUser book code held)
      (consumeRecoveryCode app idUser code) state held := by
  unfold consumeRecoveryCode
  dsimp only
  split
  · rename_i empty
    have absent : Mfa.normalizeRecovery code ∉ book := by
      intro member
      have worded := booked.words _ member
      rw [empty] at worded
      cases worded
    refine ⟨(decide_eq_false absent).symm, ?_, rfl⟩
    rw [List.erase_of_not_mem absent]
    exact booked
  · apply delivers_call (state.database.unusedRecoveryCodes idUser) fun _ => rfl
    rcases burnMatching_eq (Mfa.normalizeRecovery code) booked.codes with
        ⟨absent, missed⟩ | ⟨front, row, back, parts, member, others, burned⟩
    · rw [missed]
      refine ⟨(decide_eq_false absent).symm, ?_, rfl⟩
      rw [List.erase_of_not_mem absent]
      exact booked
    · rw [burned]
      rcases @consumeRecoveryCodeRow_alone idUser state.database state.now front back row parts with
          ⟨after, consumed, left, totp⟩
      refine @Delivers.step _ (Console.machine app) _ _ state { state with database := after } held
        held _ _ true ?_ ?_
      · intro draw
        show @Console.commit (.consumeRecoveryCodeRow idUser row.idCode) state held
          (state.database.consumeRecoveryCodeRow state.now idUser row.idCode) = _
        rw [consumed]
        rfl
      · refine ⟨(decide_eq_true member).symm, ⟨?_, ?_, ?_⟩, rfl⟩
        · rw [left]
          exact others
        · intro secret stored owner
          exact booked.secrets secret (totp ▸ stored) owner
        · intro ticket kept
          exact booked.words ticket (List.mem_of_mem_erase kept)

/-- A text that is no six-digit code is accepted exactly if it is in the book. -/
theorem delivers_verifyLoginCode (booked : Booked app state.database idUser book) {code : String}
    (worded : Mfa.parseCode code = none) :
    Delivers (M := Console.machine app) (Answered app idUser book code held)
      (verifyLoginCode app idUser code) state held := by
  unfold verifyLoginCode
  apply delivers_call (state.database.totpRow idUser) fun _ => rfl
  split
  · exact delivers_consumeRecoveryCode booked code
  · rename_i row found
    have stored := (Option.filter_eq_some_iff.mp found).1
    rcases Database.totpRow_eq_some.mp stored with ⟨member, owner⟩
    rcases Option.isSome_iff_exists.mp (booked.secrets row member owner) with ⟨secret, opened⟩
    rw [opened]
    have refused : verifyTotpCode app secret code = pure none := by
      unfold verifyTotpCode
      rw [worded]
    dsimp only
    rw [refused]
    exact delivers_consumeRecoveryCode booked code

/-- The answers are those of the book, and what is left is what the book has left. -/
theorem delivers_attempts (booked : Booked app state.database idUser book) {typed : List String}
    (worded : forall code, code ∈ typed -> Mfa.parseCode code = none) :
    Delivers (M := Console.machine app)
      (fun answers after rest =>
        answers = (Tickets.present book (typed.map Mfa.normalizeRecovery)).1 ∧
          Booked app after.database idUser
            (Tickets.present book (typed.map Mfa.normalizeRecovery)).2 ∧ rest = held)
      (attempts app idUser typed) state held := by
  induction typed generalizing state book with
  | nil => exact ⟨rfl, booked, rfl⟩
  | cons code rest inductionHypothesis =>
      unfold attempts
      apply Delivers.bind (delivers_verifyLoginCode booked (worded code List.mem_cons_self))
      rintro accepted after session ⟨answered, left, rfl⟩
      apply Delivers.bind (inductionHypothesis left fun other member =>
        worded other (List.mem_cons_of_mem _ member))
      rintro later last session ⟨answers, remaining, rfl⟩
      rw [answered, answers]
      exact ⟨rfl, remaining, rfl⟩

end Alone
end OperatorMfaRepository

/-! ## The codes that were shown -/

namespace Database

/-- The transaction that answered with these codes was committed. -/
inductive Issues (database : Database) (idUser : Int) (minted : List MintedCode)
    (codes : List String) (after : Database) : Prop where
  | confirmed {now idTotp step : Int} (committed : database.confirmEnrollment now idTotp idUser
      step minted = some (some codes, after)) : Issues database idUser minted codes after
  | regenerated {now : Int} (committed : database.regenerateRecoveryCodes now idUser minted =
      some (some codes, after)) : Issues database idUser minted codes after

variable {database after : Database} {idUser : Int} {minted : List MintedCode}
  {codes : List String}

/-- The rows that can be used are the ones of the codes that were shown. -/
theorem Issues.unused (issued : database.Issues idUser minted codes after) :
    minted.length = Mfa.recoveryCodeCount ∧
      codes = minted.map (fun code => Mfa.generateRecoveryCode code.bytes) ∧
      (after.unusedRecoveryCodes idUser).map RecoveryCode.encryptedCode =
        minted.map MintedCode.sealed := by
  cases issued with
  | confirmed committed =>
      rcases confirmEnrollment_some committed with ⟨-, activated, flagged, -, -, replaced⟩
      rcases replaceRecoveryCodes_some replaced with ⟨complete, shown, -⟩
      exact ⟨complete, shown, unused_replaced replaced⟩
  | regenerated committed =>
      rcases regenerateRecoveryCodes_some committed with ⟨-, stored, replaced, bumped⟩
      rcases replaceRecoveryCodes_some replaced with ⟨complete, shown, -⟩
      refine ⟨complete, shown, ?_⟩
      unfold unusedRecoveryCodes
      rw [(changeOperator_spec bumped).2.2.2]
      exact unused_replaced replaced

end Database

namespace OperatorMfaRepository

variable {app : AppState} {database after : Database} {idUser : Int}
  {minted : List Database.MintedCode} {codes : List String}

theorem holds_minted {rows : List RecoveryCode}
    (sealed : rows.map RecoveryCode.encryptedCode = minted.map Database.MintedCode.sealed)
    (opened : forall code, code ∈ minted ->
      app.decryptSecret idUser Mfa.recoveryDomain code.sealed =
        some (Mfa.generateRecoveryCode code.bytes)) :
    List.Forall₂ (Holds app idUser) rows
      (minted.map fun code => Mfa.normalizeRecovery (Mfa.generateRecoveryCode code.bytes)) := by
  induction minted generalizing rows with
  | nil =>
      rw [List.map_eq_nil_iff.mp sealed]
      exact List.Forall₂.nil
  | cons code rest inductionHypothesis =>
      rcases List.map_eq_cons_iff.mp sealed with ⟨row, others, rfl, first, later⟩
      apply List.Forall₂.cons
      · unfold Holds
        rw [first, opened code List.mem_cons_self]
        rfl
      · exact inductionHypothesis later fun other member =>
          opened other (List.mem_cons_of_mem _ member)

/-- The codes that were shown are the book of the operator. -/
theorem booked_issued (issued : database.Issues idUser minted codes after)
    (random : forall code, code ∈ minted -> code.bytes.length = 10)
    (opened : forall code, code ∈ minted ->
      app.decryptSecret idUser Mfa.recoveryDomain code.sealed =
        some (Mfa.generateRecoveryCode code.bytes))
    (secrets : forall row, row ∈ after.totp.rows -> row.idUser = idUser ->
      (app.decryptSecret idUser Mfa.totpDomain row.encryptedSecret).isSome = true) :
    Booked app after idUser (codes.map Mfa.normalizeRecovery) ∧
      forall ticket, ticket ∈ codes.map Mfa.normalizeRecovery -> ticket.toList.length = 10 := by
  rcases issued.unused with ⟨-, shown, sealed⟩
  have length : forall ticket, ticket ∈ codes.map Mfa.normalizeRecovery ->
      ticket.toList.length = 10 := by
    intro ticket member
    rcases List.mem_map.mp member with ⟨printed, among, rfl⟩
    rw [shown] at among
    rcases List.mem_map.mp among with ⟨code, listed, rfl⟩
    rw [Mfa.normalizeRecovery_generated, String.toList_ofList, List.length_map]
    exact random code listed
  refine ⟨⟨?_, secrets, ?_⟩, length⟩
  · rw [shown, List.map_map]
    exact holds_minted sealed opened
  · intro ticket member
    have letters := length ticket member
    unfold isEmpty
    cases listed : ticket.toList with
    | nil =>
        rw [listed] at letters
        cases letters
    | cons character rest => rfl

/-- The file has the codes as its lines.  Typed in any order and in any way that
normalises to them, each of them is accepted and none is left; whatever else is
typed, a code is accepted as often as it is in the file and as it is typed. -/
theorem printed_codes_are_tickets (issued : database.Issues idUser minted codes after)
    (random : forall code, code ∈ minted -> code.bytes.length = 10)
    (opened : forall code, code ∈ minted ->
      app.decryptSecret idUser Mfa.recoveryDomain code.sealed =
        some (Mfa.generateRecoveryCode code.bytes))
    (secrets : forall row, row ∈ after.totp.rows -> row.idUser = idUser ->
      (app.decryptSecret idUser Mfa.totpDomain row.encryptedSecret).isSome = true)
    {state : State} (stored : state.database = after) (held : Session) :
    (Exists fun text => MfaPages.savedFile (MfaPages.recoveryCodesDownloadDataUrl codes) =
        some text ∧
      lines text.toList =
        "KrakenWAF recovery codes".toList :: [] :: codes.map String.toList) ∧
      (forall typed : List String,
        (typed.map Mfa.normalizeRecovery).Perm (codes.map Mfa.normalizeRecovery) ->
        Delivers (M := Console.machine app)
          (fun answers last _ => answers = List.replicate Mfa.recoveryCodeCount true ∧
            last.database.remainingRecoveryCount idUser = 0)
          (attempts app idUser typed) state held) ∧
      forall typed : List String, (forall code, code ∈ typed -> Mfa.parseCode code = none) ->
        Delivers (M := Console.machine app)
          (fun answers _ _ => answers.length = typed.length ∧ forall ticket,
            Tickets.accepted ticket (typed.map Mfa.normalizeRecovery) answers =
              min ((codes.map Mfa.normalizeRecovery).count ticket)
                ((typed.map Mfa.normalizeRecovery).count ticket))
          (attempts app idUser typed) state held := by
  subst stored
  rcases booked_issued issued random opened secrets with ⟨booked, length⟩
  rcases issued.unused with ⟨complete, shown, -⟩
  have ten : codes.length = Mfa.recoveryCodeCount := by
    rw [shown, List.length_map]
    exact complete
  refine ⟨⟨_, MfaPages.savedFile_download codes, MfaPages.lines_saved ?_ ?_⟩, ?_, ?_⟩
  · rintro rfl
    cases ten
  · intro code member
    rw [shown] at member
    rcases List.mem_map.mp member with ⟨printed, -, rfl⟩
    exact Mfa.plain_generateRecoveryCode printed.bytes
  · intro typed same
    have worded : forall code, code ∈ typed -> Mfa.parseCode code = none := by
      intro code member
      have letters := length _ (same.subset (List.mem_map_of_mem member))
      cases parsed : Mfa.parseCode code with
      | none => rfl
      | some number =>
          have short := Mfa.parseCode_short parsed
          omega
    rcases Tickets.present_perm same with ⟨accepted, left⟩
    apply (delivers_attempts booked worded).mono
    rintro answers last rest ⟨rfl, remaining, -⟩
    constructor
    · apply List.eq_replicate_iff.mpr
      refine ⟨?_, accepted⟩
      rw [Tickets.length_present, same.length_eq, List.length_map, ten]
    · have none := remaining.codes.length_eq
      rw [left] at none
      unfold Database.remainingRecoveryCount AutoTable.count
      rw [List.countP_eq_length_filter]
      exact none
  · intro typed worded
    apply (delivers_attempts booked worded).mono
    rintro answers last rest ⟨rfl, -, -⟩
    refine ⟨?_, fun ticket => Tickets.accepted_present _ _ ticket⟩
    rw [Tickets.length_present, List.length_map]

end OperatorMfaRepository

namespace Sample

def printed : List Database.MintedCode :=
  (List.range Mfa.recoveryCodeCount).map fun number =>
    ⟨List.replicate 10 number, Mfa.generateRecoveryCode (List.replicate 10 number)⟩

/-- The administrator enrols and confirms the enrolment. -/
def issuing : Option (Database × Option (List String) × Database) :=
  (state.database.beginEnrollment 1000 1 "seed").bind fun enrolled =>
    (enrolled.confirmEnrollment 1000 1 1 33 printed).map fun result => (enrolled, result)

set_option maxRecDepth 100000 in
theorem printed_codes_are_tickets_printed :
    Exists fun enrolled => Exists fun codes => Exists fun after =>
      issuing = some (enrolled, some codes, after) ∧ codes.head? = some "AAAAA-AAAAA" ∧
        Delivers (M := Console.machine app)
          (fun answers last _ => answers = List.replicate Mfa.recoveryCodeCount true ∧
            last.database.remainingRecoveryCount 1 = 0)
          (OperatorMfaRepository.attempts app 1 codes.reverse)
          { state with database := after } Session.flushed := by
  have shown : issuing.bind (fun result => result.2.1.map fun codes => codes.head?) =
      some (some "AAAAA-AAAAA") := by decide
  rcases Option.bind_eq_some_iff.mp shown with ⟨⟨enrolled, codes?, after⟩, issued, first⟩
  rcases Option.map_eq_some_iff.mp first with ⟨codes, rfl, head⟩
  refine ⟨enrolled, codes, after, issued, head, ?_⟩
  rcases Option.bind_eq_some_iff.mp issued with ⟨begun, -, confirmed⟩
  rcases Option.map_eq_some_iff.mp confirmed with ⟨result, committed, same⟩
  cases same
  exact (@OperatorMfaRepository.printed_codes_are_tickets app _ _ _ _ _ (.confirmed committed)
    (by decide) (by decide) (fun _ _ _ => rfl) { state with database := after } rfl
    Session.flushed).2.1 codes.reverse ((List.reverse_perm codes).map Mfa.normalizeRecovery)

end Sample

/-! ## The rows in storage -/

theorem Console.wholeSets_perform {state next : State} {session held : Session}
    {command : Command} {reply : command.Reply} {draw : Draw}
    (whole : state.database.WholeSets)
    (performed : Console.perform state session command draw = some (reply, next, held)) :
    next.database.WholeSets := by
  cases writes : writesCodes command with
  | false => exact Database.wholeSets_of_codes whole (perform_codes writes performed)
  | true =>
      cases command with
      | deleteById idUser =>
          rw [perform_deleteById performed]
          exact Database.wholeSets_of_codes (Database.wholeSets_deleteCodes whole idUser) rfl
      | confirmEnrollment idTotp idUser step =>
          have committed := (commit_some performed).1
          change Option (List String) at reply
          cases reply with
          | none =>
              rw [Database.confirmEnrollment_none committed]
              exact whole
          | some codes => exact Database.wholeSets_confirmed whole committed
      | disable idUser =>
          have disabled := (Database.disable_spec (commitUnit_some performed).1).1
          exact Database.wholeSets_of_codes (Database.wholeSets_deleteCodes whole idUser)
            (Database.changeOperator_spec disabled).2.2.2
      | regenerateRecoveryCodes idUser =>
          have committed := (commit_some performed).1
          change Option (List String) at reply
          cases reply with
          | none =>
              rw [Database.regenerateRecoveryCodes_none committed]
              exact whole
          | some codes => exact Database.wholeSets_regenerated whole committed
      | consumeRecoveryCodeRow idUser idCode =>
          exact Database.wholeSets_consumed whole (commit_some performed).1
      | _ => cases writes

namespace Console

variable {app : AppState}

theorem wholeSets_reached {state : State} (whole : state.database.WholeSets)
    {config : Config (machine app)}
    (reached : Reaches (service app) anyCommand (Config.idle state) config) :
    config.world.state.database.WholeSets := by
  have kept : Invariant.trivial.Kept (storing app Database.WholeSets) freely anyCommand := by
    apply storing_kept
    intro world flight command draw reply after held sound _ _ performed
    exact wholeSets_perform sound performed
  have initial : (storing app Database.WholeSets).Sound (Config.idle state).world := whole
  exact (kept.lasting (obeys_freely (service app)) (fun _ => rfl) Invariant.lasting_trivial initial
    config reached).1

end Console

theorem App.wholeSets_starts {before after : State} (starts : App.Starts before after)
    (whole : before.database.WholeSets) : after.database.WholeSets := by
  rcases starts with ⟨clean, environment, record, now, passed, database, started, rfl⟩
  cases boots_of_ok started with
  | unchanged present => exact whole
  | created absent given plain valid committed =>
      exact Database.wholeSets_of_codes whole (Database.create_spec committed).2.2.2.2

/-- Over any number of starts and crashes, and at every moment of the life after
them, the codes of each operator are one complete set or none. -/
theorem Console.recovery_sets_are_whole {app : AppState} {before state : State}
    (whole : before.database.WholeSets) (past : Past App.Starts App.Serves before state)
    {config : Config (machine app)}
    (reached : Reaches (service app) anyCommand (Config.idle state) config) :
    config.world.state.database.WholeSets ∧ forall idUser,
      config.world.state.database.remainingRecoveryCount idUser ≤ Mfa.recoveryCodeCount := by
  have always : config.world.state.database.WholeSets := by
    apply wholeSets_reached _ reached
    refine @Past.keeps _ _ _ _ _ (fun state => state.database.WholeSets) App.wholeSets_starts ?_
      past whole
    rintro before after ⟨app, config, served, rfl⟩ earlier
    exact wholeSets_reached earlier served
  exact ⟨always, fun idUser => always.remaining_le idUser⟩

namespace Sample

/-- The administrator has confirmed an enrolment, and the process is killed. -/
def killed : Option (Config (Console.machine app)) :=
  run state (opening ++ [.accept enroll] ++ steps 1 20 ++ [.close 1 {}] ++ confirming 2)

theorem state_whole : state.database.WholeSets := by
  intro idUser
  have none : state.database.recoveryCodes.rows = [] := by decide
  left
  unfold Database.codeNumbers AutoTable.all
  rw [none]
  rfl

set_option maxRecDepth 100000 in
theorem recovery_sets_are_whole_killed :
    Exists fun config => killed = some config ∧
      config.world.state.database.codeNumbers 1 = [1, 2, 3, 4, 5, 6, 7, 8, 9, 10] ∧
      Past App.Starts App.Serves state config.world.state ∧
      config.world.state.database.WholeSets := by
  have replayed : killed.map (fun config => config.world.state.database.codeNumbers 1) =
      some [1, 2, 3, 4, 5, 6, 7, 8, 9, 10] := by decide
  rcases Option.map_eq_some_iff.mp replayed with ⟨config, played, numbers⟩
  have past : Past App.Starts App.Serves state config.world.state :=
    .single (Or.inr (.serve app ⟨config, Config.play_reaches _ played, rfl⟩))
  exact ⟨config, played, numbers, past,
    (@Console.recovery_sets_are_whole app _ _ state_whole past _ Reaches.here).1⟩

end Sample
end KrakenUi
