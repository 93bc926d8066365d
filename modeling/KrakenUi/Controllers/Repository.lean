import KrakenUi.Console
import KrakenUi.Security.Sanitize

namespace KrakenUi

open Interaction Text

/-!
# Repository methods as programs

A method of a repository is a few calls: reads, work on what was read, and one
committed transaction.  The transactions are single commands; what happens
between them is here.
-/

/-- Issue one command. -/
def call (command : Command) : Handler (command.Reply) :=
  Program.perform (S := console) command

/-- Leave the handler with an internal error. -/
def raise {α : Type} (message : String) : Handler α :=
  Program.call (S := console) (.fail message) Empty.elim

section Only

variable {α : Type}

theorem only_raise (allowed : Command -> Prop) (message : String)
    (fails : allowed (.fail message)) : (raise message : Handler α).Only allowed :=
  (Program.only_call (S := console) allowed (.fail message) _).mpr
    ⟨fails, fun reply => Empty.elim reply⟩

theorem only_command (allowed : Command -> Prop) {command : Command}
    (meets : allowed command) : (call command).Only allowed :=
  (Program.only_perform (S := console) allowed command).mpr meets

theorem only_step {allowed : Command -> Prop} {command : Command}
    {rest : command.Reply -> Handler α} (meets : allowed command)
    (later : forall reply, (rest reply).Only allowed) : (call command >>= rest).Only allowed :=
  (only_command allowed meets).bind later

theorem only_value (allowed : Command -> Prop) (value : α) :
    (pure value : Handler α).Only allowed :=
  Program.only_pure (S := console) allowed value

end Only

namespace OperatorRepository

/-- `update`: the new password is hashed before the transaction starts. -/
def update (existing : Operator) (input : UpdateOperator) : Handler Operator :=
  match input.password with
  | some password => do
      let encryptedPasswordHash ← call (.spawnEncrypt existing.idUser password)
      call (.update existing.idUser input (some encryptedPasswordHash))
  | none => call (.update existing.idUser input none)

def updatePassword (existing : Operator) (password : String) : Handler Operator := do
  let encryptedPasswordHash ← call (.spawnEncrypt existing.idUser password)
  call (.updatePassword existing.idUser encryptedPasswordHash)

/-- An account that is gone by now is left alone. -/
def updateEncryptedPassword (idUser : Int) (encryptedPasswordHash : String) : Handler Unit := do
  match ← call (.findById idUser) with
  | none => pure ()
  | some _ => call (.storeEncryptedPassword idUser encryptedPasswordHash)

def recordAuthenticated (idUser : Int) : Handler Unit :=
  call (.recordAuthenticationTimestamp idUser .authenticatedAt)

def recordReauthenticated (idUser : Int) : Handler Unit :=
  call (.recordAuthenticationTimestamp idUser .reauthenticatedAt)

end OperatorRepository

/-- What an operator needs to add the account to an authenticator. -/
structure MfaEnrollment where
  secretBase32 : String
  otpauthUri : String
  deriving DecidableEq

inductive ConfirmOutcome where
  | noPendingEnrollment
  | invalidCode
  | confirmed (recoveryCodes : List String)
  deriving DecidableEq

namespace OperatorMfaRepository

def issuer : String := "KrakenWAF"

def isEnabled (idUser : Int) : Handler Bool := do
  let row ← call (.totpRow idUser)
  pure (row.any TotpRow.isConfirmed)

/-- Whether two-factor is on, and how many recovery codes are left. -/
def status (idUser : Int) : Handler (Bool × Nat) := do
  let enabled ← isEnabled idUser
  if enabled then do
    let remaining ← call (.remainingRecoveryCount idUser)
    pure (true, remaining)
  else pure (false, 0)

def beginEnrollment (app : AppState) (idUser : Int) (accountLabel : String) :
    Handler MfaEnrollment := do
  let secretBase32 ← call .randomSecret
  let encryptedSecret ← call (.encryptSecret idUser Mfa.totpDomain secretBase32)
  call (.beginEnrollment idUser encryptedSecret)
  pure ⟨secretBase32, app.otpauthUri secretBase32 (issuer ++ ":" ++ accountLabel) issuer⟩

def pendingEnrollment (app : AppState) (idUser : Int) (accountLabel : String) :
    Handler (Option MfaEnrollment) := do
  match ← call (.totpRow idUser) with
  | none => pure none
  | some row =>
      if row.confirmed ≠ 0 then pure none
      else
        match app.decryptSecret idUser Mfa.totpDomain row.encryptedSecret with
        | none => raise "decrypt_secret failed"
        | some secretBase32 =>
            match app.totpValue secretBase32 with
            | none => pure none
            | some _ => pure (some ⟨secretBase32,
                app.otpauthUri secretBase32 (issuer ++ ":" ++ accountLabel) issuer⟩)

/-- `verify_totp_code`: the clock is only read for a well-formed code and a
valid secret. -/
def verifyTotpCode (app : AppState) (secretBase32 code : String) : Handler (Option Int) :=
  match Mfa.parseCode code with
  | none => pure none
  | some number =>
      match app.totpValue secretBase32 with
      | none => pure none
      | some value => do
          let now ← call .now
          pure (Mfa.matchingStep value number now)

def confirm (app : AppState) (idUser : Int) (code : String) : Handler ConfirmOutcome := do
  match ← call (.totpRow idUser) with
  | none => pure .noPendingEnrollment
  | some row =>
      if row.confirmed ≠ 0 then pure .noPendingEnrollment
      else
        match app.decryptSecret idUser Mfa.totpDomain row.encryptedSecret with
        | none => raise "decrypt_secret failed"
        | some secretBase32 => do
            match ← verifyTotpCode app secretBase32 code with
            | none => pure .invalidCode
            | some step => do
                match ← call (.confirmEnrollment row.idTotp idUser step) with
                | none => pure .noPendingEnrollment
                | some recoveryCodes => pure (.confirmed recoveryCodes)

/-- Try the stored codes in order and burn the first that matches. -/
def burnMatching (app : AppState) (idUser : Int) (candidate : String) :
    List RecoveryCode -> Handler Bool
  | [] => pure false
  | row :: rest =>
      match app.decryptSecret idUser Mfa.recoveryDomain row.encryptedCode with
      | none => raise "decrypt_secret failed"
      | some stored =>
          if Mfa.normalizeRecovery stored = candidate then
            call (.consumeRecoveryCodeRow idUser row.idCode)
          else burnMatching app idUser candidate rest

def consumeRecoveryCode (app : AppState) (idUser : Int) (code : String) : Handler Bool :=
  let candidate := Mfa.normalizeRecovery code
  if isEmpty candidate then pure false
  else do
    let rows ← call (.unusedRecoveryCodes idUser)
    burnMatching app idUser candidate rows

/-- First as a live TOTP code of the confirmed row, then as a recovery code.  A
step that was used already is refused without trying the recovery codes. -/
def verifyLoginCode (app : AppState) (idUser : Int) (code : String) : Handler Bool := do
  match (← call (.totpRow idUser)).filter TotpRow.isConfirmed with
  | none => consumeRecoveryCode app idUser code
  | some row =>
      match app.decryptSecret idUser Mfa.totpDomain row.encryptedSecret with
      | none => raise "decrypt_secret failed"
      | some secretBase32 => do
          match ← verifyTotpCode app secretBase32 code with
          | some step =>
              if step ≤ row.lastUsedStep then pure false
              else call (.consumeTotpStep row.idTotp idUser step)
          | none => consumeRecoveryCode app idUser code

end OperatorMfaRepository
end KrakenUi
