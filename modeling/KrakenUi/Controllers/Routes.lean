import KrakenUi.Controllers.Acl

namespace KrakenUi

open Interaction

/-!
# Routes and their guards

A request is a visit and a route with its form.  Each route that the source
puts behind a guard is answered through `guard` with the roles of that guard.
The routes behind a guard that only render, or that read the WAF database and
the rule service, touch neither accounts nor sessions once the guard has run;
they are the one route `page`, which keeps the roles of its guard.
-/

inductive Route where
  | loginPage
  | loginSubmit (form : LoginForm)
  | mfaChallengePage
  | mfaVerify (form : MfaCodeForm)
  | firstTime (form : FirstTimeForm)
  | page (allowedRoles : List OperatorRole)
  | insertUserAction (form : OperatorForm)
  | deleteUserAction (form : DeleteUserForm)
  | updateUserAction (form : UpdateUserForm)
  | startUpdate (form : UpdateForm)
  | updatePassword
  | updatePasswordAction (form : UpdatePasswordForm)
  | mfaOverview
  | mfaEnroll (form : StepUpForm)
  | mfaConfirm (form : ConfirmForm)
  | mfaDisable (form : StepUpForm)
  | mfaRegenerate (form : StepUpForm)
  | logout (csrfToken : String)

structure Request where
  visit : Visit
  route : Route

namespace Routes

def guard (app : AppState) (allowedRoles : List OperatorRole) (next : Handler Response) :
    Handler Response := do
  match ← Auth.authorizedRole app with
  | some role => if role ∈ allowedRoles then next else pure Response.toLogin
  | none => pure Response.toLogin

def requireAdmin (app : AppState) : Handler Response -> Handler Response :=
  guard app [.admin]

def requireConsoleViewer (app : AppState) : Handler Response -> Handler Response :=
  guard app OperatorRole.all

/-- The handler of a route behind its guard. -/
def respond (app : AppState) (request : Request) : Handler Response :=
  let visit := request.visit
  match request.route with
  | .loginPage => Auth.loginPage app
  | .loginSubmit form => Auth.loginSubmit app visit form
  | .mfaChallengePage => Auth.mfaChallengePage
  | .mfaVerify form => Auth.mfaVerify app visit form
  | .firstTime form => Setup.firstTime app form
  | .page allowedRoles => guard app allowedRoles (pure .page)
  | .insertUserAction form => requireAdmin app (Acl.insertUserAction app visit form)
  | .deleteUserAction form => requireAdmin app (Acl.deleteUserAction app visit form)
  | .updateUserAction form => requireAdmin app (Acl.updateUserAction app visit form)
  | .startUpdate form => requireAdmin app (Acl.startUpdate app visit form)
  | .updatePassword => requireConsoleViewer app Acl.updatePassword
  | .updatePasswordAction form =>
      requireConsoleViewer app (Acl.updatePasswordAction app visit form)
  | .mfaOverview => requireConsoleViewer app (MfaPages.mfaOverview app)
  | .mfaEnroll form => requireConsoleViewer app (MfaPages.mfaEnroll app visit form)
  | .mfaConfirm form => requireConsoleViewer app (MfaPages.mfaConfirm app visit form)
  | .mfaDisable form => requireConsoleViewer app (MfaPages.mfaDisable app visit form)
  | .mfaRegenerate form => requireConsoleViewer app (MfaPages.mfaRegenerate app visit form)
  | .logout csrfToken => requireConsoleViewer app (Auth.logout visit csrfToken)

end Routes

namespace Console

/-- The machine of the whole console. -/
abbrev machine (app : AppState) : Semantics console :=
  semantics app Request fun request => request.visit.cookie

/-- Every request is answered by the handler of its route. -/
def service (app : AppState) : Service (machine app) := fun request => do
  let _response ← Routes.respond app request
  pure ()

end Console
end KrakenUi
