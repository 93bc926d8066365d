import KrakenUi.Controllers.Mfa

namespace KrakenUi

open Interaction Text

/-!
# Operator administration

Creating, deleting and editing accounts, changing one's own password, starting
a source update and the bootstrap of the first administrator.  An
administrator cannot delete the account of the session or take its role away;
nothing in the final write looks at who is asking.
-/

structure OperatorForm where
  username : String
  email : String
  userType : String
  password : String
  currentPassword : String
  mfaCode : String
  csrfToken : String

structure DeleteUserForm where
  userIdentity : String
  currentPassword : String
  mfaCode : String
  csrfToken : String

structure UpdateUserForm where
  idUser : String
  username : String
  email : String
  userType : String
  password : String
  currentPassword : String
  mfaCode : String
  csrfToken : String

structure UpdatePasswordForm where
  idUser : String
  currentPassword : String
  password : String
  csrfToken : String

structure UpdateForm where
  csrfToken : String
  currentPassword : String
  mfaCode : String

/-- The fields of `first_time` and what it looks at in the connection. -/
structure FirstTimeForm where
  username : String
  email : String
  password : String
  userType : String
  token : String
  loopback : Bool
  forwardingHeaders : Bool

namespace Acl

def validUsername (username : String) : Bool :=
  decide (3 ≤ len username ∧ len username ≤ 32) &&
    username.toList.all fun character =>
      isAsciiAlphanumeric character || character = '_' || character = '.' || character = '-'

def validEmail (email : String) : Bool :=
  if isEmpty email ∨ 128 < len email ∨ (memchr ' ' email.toList).isSome = true then false
  else
    match memchr '@' email.toList, memrchr '@' email.toList with
    | some first, some last => decide (first = last ∧ 0 < first ∧ first + 1 < len email)
    | _, _ => false

def passwordExample : String :=
  "Weak password. Use at least 14 characters with upper- and lower-case letters, a number and a symbol. For example: More-Than-14!Characters9."

def passwordIsAcceptable (password username email : String) : Bool :=
  Password.accepts password username && Password.accepts password (firstPart '@' email)

/-- The checked input of the two account forms. -/
structure ValidatedOperator where
  username : String
  email : String
  operatorType : OperatorRole
  password : Option String

def validateOperator (app : AppState) (rawUsername rawEmail rawOperatorType rawPassword : String)
    (passwordOptional : Bool) : Except String ValidatedOperator :=
  let username := toAsciiLowercase (Sanitize.plainText app.clean rawUsername)
  let email := toAsciiLowercase (Sanitize.plainText app.clean rawEmail)
  let operatorType := toAsciiLowercase (Sanitize.plainText app.clean rawOperatorType)
  if !validUsername username then .error "The username must be 3 to 32 safe characters."
  else if !validEmail email then
    .error "The email address is invalid or longer than 128 characters."
  else
    match OperatorRole.parse operatorType with
    | none => .error "Invalid user type."
    | some role =>
        if isEmpty rawPassword && passwordOptional then .ok ⟨username, email, role, none⟩
        else if Sanitize.secretHasRejectedMarkup app.clean rawPassword ||
            !passwordIsAcceptable rawPassword username email then .error passwordExample
        else .ok ⟨username, email, role, some rawPassword⟩

/-- A positive `i32` in a form field. -/
def parsePositiveId (app : AppState) (raw : String) : Option Int :=
  (parseI32 (Sanitize.plainText app.clean raw)).filter fun idUser => 0 < idUser

def insertUserAction (app : AppState) (visit : Visit) (form : OperatorForm) : Handler Response :=
  if !Csrf.verify visit.token form.csrfToken then pure Response.csrfError
  else
    match validateOperator app form.username form.email form.userType form.password false with
    | .error message => pure (.addUser message "error")
    | .ok input => do
      if (← call (.findByEmail input.email)).isSome then
        pure (.addUser "That email address is already registered." "error")
      else if (← call (.findByUsername input.username)).isSome then
        pure (.addUser "That username is already taken." "error")
      else do
        match ← StepUp.verify app form.currentPassword form.mfaCode with
        | .unauthorized => pure Response.unauthorized
        | .rejected message => pure (.addUser message "error")
        | .verified _ =>
          match input.password with
          | none => raise "validated password is missing"
          | some password => do
              let _created ← call (.create
                ⟨input.username, input.email, input.operatorType.asStr, password⟩)
              pure (.addUser "User created successfully." "success")

/-- A deletion names its target by id or by email address. -/
inductive Identity where
  | id (idUser : Int)
  | email (email : String)

def parseIdentity (identity : String) : Option Identity :=
  match parseI32 identity with
  | some idUser => some (.id idUser)
  | none => if validEmail identity then some (.email identity) else none

def findTarget : Identity -> Handler (Option Operator)
  | .id idUser => call (.findById idUser)
  | .email email => call (.findByEmail email)

def deleteUserAction (app : AppState) (visit : Visit) (form : DeleteUserForm) :
    Handler Response :=
  if !Csrf.verify visit.token form.csrfToken then pure Response.csrfError
  else
    let identity := toAsciiLowercase (Sanitize.plainText app.clean form.userIdentity)
    if isEmpty identity ∨ 128 < len identity then
      pure (.deleteUser identity "Enter a valid ID or email address." "error")
    else
      match parseIdentity identity with
      | none =>
          pure (.deleteUser identity "Enter a numeric ID or a valid email address." "error")
      | some named => do
        match ← findTarget named with
        | none => pure (.deleteUser identity "User not found." "error")
        | some target => do
          if (← Auth.authenticatedUserId) = some target.idUser then
            pure (.deleteUser identity
              "The signed-in administrator cannot remove their own account." "error")
          else do
            match ← StepUp.verify app form.currentPassword form.mfaCode with
            | .unauthorized => pure Response.unauthorized
            | .rejected message => pure (.deleteUser identity message "error")
            | .verified _ => do
                let _deleted ← call (.deleteById target.idUser)
                call (.deleteByUserId target.idUser)
                pure (.deleteUser "" "User removed." "error")

def isTakenBy (operator : Option Operator) (idUser : Int) : Bool :=
  operator.any fun found => decide (found.idUser ≠ idUser)

/-- The last part of an edit: step-up, write, refresh, revocation. -/
def finishUpdate (app : AppState) (form : UpdateUserForm) (existing : Operator)
    (input : ValidatedOperator) (authenticatedId : Option Int) : Handler Response := do
  match ← StepUp.verify app form.currentPassword form.mfaCode with
  | .unauthorized => pure Response.unauthorized
  | .rejected message => pure (.editOperator existing message "error")
  | .verified _ => do
      let roleChanged := existing.operatorType ≠ input.operatorType.asStr
      let updated ← OperatorRepository.update existing
        ⟨input.username, input.email, input.operatorType.asStr, input.password⟩
      if authenticatedId = some updated.idUser then
        Auth.refreshAuthenticatedSession app updated
      if roleChanged then call (.deleteByUserId updated.idUser)
      pure (.editOperator updated "User details updated successfully." "success")

def updateUserAction (app : AppState) (visit : Visit) (form : UpdateUserForm) :
    Handler Response :=
  if !Csrf.verify visit.token form.csrfToken then pure Response.csrfError
  else
    match parsePositiveId app form.idUser with
    | none => pure (.editSearch "Invalid user ID." "error")
    | some idUser => do
      match ← call (.findById idUser) with
      | none => pure (.editSearch "User not found." "error")
      | some existing =>
        match validateOperator app form.username form.email form.userType form.password true with
        | .error message => pure (.editOperator existing message "error")
        | .ok input => do
          let authenticatedId ← Auth.authenticatedUserId
          if authenticatedId = some idUser ∧ input.operatorType.asStr ≠ OperatorRole.admin.asStr then
            pure (.editOperator existing
              "The signed-in administrator cannot change their own role." "error")
          else if isTakenBy (← call (.findByEmail input.email)) idUser then
            pure (.editOperator existing "That email address is already registered." "error")
          else if isTakenBy (← call (.findByUsername input.username)) idUser then
            pure (.editOperator existing "That username is already taken." "error")
          else finishUpdate app form existing input authenticatedId

/-- The form of one's own password. -/
def updatePassword : Handler Response := do
  match ← Auth.authenticatedUserId with
  | none => pure Response.unauthorized
  | some idUser => do
    match ← call (.findById idUser) with
    | none => pure Response.unauthorized
    | some operator => pure (.password operator true "" "")

/-- The part of a password change after the current password was accepted. -/
def storePassword (app : AppState) (authenticatedId : Int) (existing : Operator)
    (password : String) : Handler Response :=
  if Sanitize.secretHasRejectedMarkup app.clean password = true then
    pure (.password existing true passwordExample "error")
  else if !passwordIsAcceptable password existing.username existing.email then
    pure (.password existing true passwordExample "error")
  else do
    let updated ← OperatorRepository.updatePassword existing password
    Auth.refreshAuthenticatedSession app updated
    match ← call .sessionId with
    | some current => call (.deleteByUserIdExcept authenticatedId current)
    | none => pure ()
    pure (.password updated false "Password changed successfully." "success")

def updatePasswordAction (app : AppState) (visit : Visit) (form : UpdatePasswordForm) :
    Handler Response :=
  if !Csrf.verify visit.token form.csrfToken then pure Response.csrfError
  else do
    match ← Auth.authenticatedUserId with
    | none => pure Response.unauthorized
    | some authenticatedId => do
      let submittedId := (parseI32 (Sanitize.plainText app.clean form.idUser)).getD 0
      match ← call (.findById authenticatedId) with
      | none => pure Response.unauthorized
      | some existing =>
        if submittedId ≠ authenticatedId then
          pure (.password existing true
            "The submitted ID does not match the signed-in session." "error")
        else do
          match ← call (.spawnVerify existing.idUser existing.encryptedPasswordHash
              form.currentPassword) with
          | .error message => raise message
          | .ok verification =>
            if !verification.valid then
              pure (.password existing true "The current password is incorrect." "error")
            else storePassword app authenticatedId existing form.password

/-- `update::start`. -/
def startUpdate (app : AppState) (visit : Visit) (form : UpdateForm) : Handler Response :=
  if !Csrf.verify visit.token form.csrfToken then pure Response.csrfError
  else do
    match ← StepUp.verify app form.currentPassword form.mfaCode with
    | .unauthorized => pure (.status 401 "Unauthorized")
    | .rejected message => pure (.status 403 message)
    | .verified _ => do
      let started : Bool ← call .startSourceUpdate
      if started then do
        let _username ← Auth.authenticatedUsername
        pure .page
      else pure .page

end Acl

namespace Setup

/-- The bootstrap token, where an empty value counts as unset. -/
def tokenRefusal (app : AppState) (token : String) : Option String :=
  match app.firstTimeToken.filter fun expected => !isEmpty expected with
  | some expected => if token = expected then none else some "invalid bootstrap token"
  | none =>
      if app.debugAssertions then none
      else some "first_time requires KRAKEN_UI_FIRST_TIME_TOKEN to be set"

def acceptsRegistration (app : AppState) (form : FirstTimeForm) : Bool :=
  let username := toAsciiLowercase (Sanitize.plainText app.clean form.username)
  let email := toAsciiLowercase (Sanitize.plainText app.clean form.email)
  let operatorType := toAsciiLowercase (Sanitize.plainText app.clean form.userType)
  Acl.validUsername username && Acl.validEmail email && decide (operatorType = "admin") &&
    !Sanitize.secretHasRejectedMarkup app.clean form.password &&
    Password.accepts form.password username &&
    Password.accepts form.password (firstPart '@' email)

def firstTime (app : AppState) (form : FirstTimeForm) : Handler Response :=
  if !form.loopback then pure (.status 403 "first_time accepts loopback clients only")
  else if form.forwardingHeaders then
    pure (.status 403 "first_time refuses proxied requests; run it directly against loopback")
  else
    match tokenRefusal app form.token with
    | some message => pure (.status 403 message)
    | none => do
      let operators : Nat ← call .count
      if 0 < operators then pure (.status 410 "first_time was already consumed")
      else if !acceptsRegistration app form then
        pure (.status 400 "invalid admin registration data or weak password")
      else do
        let _created ← call (.create
          ⟨toAsciiLowercase (Sanitize.plainText app.clean form.username),
            toAsciiLowercase (Sanitize.plainText app.clean form.email), "admin", form.password⟩)
        pure (.status 201 "initial administrator created; endpoint is now closed")

end Setup
end KrakenUi
