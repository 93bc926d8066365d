import KrakenUi.Config
import KrakenUi.Encoding.Base64
import KrakenUi.Services.RuleManagement

namespace KrakenUi
namespace Secrets

open FileSystem Text

/-!
# Where secrets come from

A secret of the rule channel is looked for in a file that a variable names, in
the mount shared with the firewall, and in a variable.  A named file that others
may read is refused and nothing else is asked; the platform decides about the
permissions of the mount.  Keys are read from a variable or from a protected
file.

The generator writes a pair of secrets into a directory, the mount unless it is
told otherwise.
-/

/-- What `metadata` and `read_to_string` say about a file.  Without a text it is
a directory, is not readable or is no UTF-8. -/
structure StoredFile where
  metadata : Metadata
  text : Option String

/-- Which file is under a path, if any, and what the files are. -/
structure Files where
  place : String -> Option Nat
  file : Nat -> StoredFile

structure Host where
  environment : String -> Option String
  files : Files

namespace Files

def lookup (files : Files) (path : String) : Option StoredFile :=
  (files.place path).map files.file

end Files

/-! ## The loader -/

def secretsDir : String := "/run/secrets/krakenwaf"

/-- `Path::join` for a name without slashes. -/
def join (directory name : String) : String :=
  if isEmpty directory then name
  else if directory.toList.getLast? = some '/' then directory ++ name
  else directory ++ "/" ++ name

inductive Enforcement where
  | strict
  | warnOnly
  deriving DecidableEq

inductive SecretFile where
  | loaded (secret : String)
  | rejected
  | absent
  deriving DecidableEq

def nonEmptySecret (value : Option String) : Option String :=
  (value.map trim).filter fun secret => !isEmpty secret

/-- The content of a file that may be used. -/
def readSecret (file : StoredFile) : SecretFile :=
  match nonEmptySecret file.text with
  | some secret => .loaded secret
  | none => .absent

def classifySecretFile (files : Files) (path : String) (enforcement : Enforcement) : SecretFile :=
  match files.lookup path with
  | none => .absent
  | some file =>
      if Config.fileHasLoosePermissions file.metadata then
        match enforcement with
        | .strict => .rejected
        | .warnOnly => readSecret file
      else readSecret file

/-- What is asked when no file was named, or nothing is there. -/
def loadFallback (files : Files) (conventionalPath : String) (environmentValue : Option String) :
    Option String :=
  match classifySecretFile files conventionalPath .warnOnly with
  | .loaded secret => some secret
  | _ => nonEmptySecret environmentValue

def loadSecretFromSources (files : Files) (explicitPath : Option String)
    (conventionalPath : String) (environmentValue : Option String) : Option String :=
  match explicitPath with
  | none => loadFallback files conventionalPath environmentValue
  | some path =>
      match classifySecretFile files path .strict with
      | .loaded secret => some secret
      | .rejected => none
      | .absent => loadFallback files conventionalPath environmentValue

/-- The file that a variable names for a secret. -/
def explicitPath (host : Host) (name : String) : Option String :=
  ((host.environment (name ++ "_FILE")).map trim).filter fun path => !isEmpty path

def loadSecret (host : Host) (name : String) : Option String :=
  loadSecretFromSources host.files (explicitPath host name) (join secretsDir name)
    (host.environment name)

/-! ## Protected files -/

inductive ReadError where
  | metadata
  | loose
  | content
  deriving DecidableEq

def readProtectedFile (files : Files) (path : String) : Except ReadError String :=
  match files.lookup path with
  | none => .error .metadata
  | some file =>
      if Config.fileHasLoosePermissions file.metadata then .error .loose
      else
        match file.text with
        | none => .error .content
        | some text => .ok text

/-- The key that signs the session cookies. -/
inductive SigningKey where
  | given (bytes : ByteArray)
  | generated

inductive KeyError where
  | read (error : ReadError)
  | base64
  | short
  | missing
  deriving DecidableEq

/-- What configures the key, if anything does. -/
def signingKeySource (host : Host) : Except ReadError (Option String) :=
  match host.environment "KRAKEN_UI_SESSION_KEY" with
  | some value => .ok (some value)
  | none =>
      match host.environment "KRAKEN_UI_SESSION_KEY_FILE" with
      | none => .ok none
      | some path => (readProtectedFile host.files path).map some

/-- A release build does without a configured key only if it is told to. -/
def loadSessionSigningKey (decode : String -> Option ByteArray) (debugAssertions : Bool)
    (host : Host) : Except KeyError SigningKey :=
  match signingKeySource host with
  | .error error => .error (.read error)
  | .ok (some value) =>
      match decode (trim value) with
      | none => .error .base64
      | some bytes => if bytes.size < 64 then .error .short else .ok (.given bytes)
  | .ok none =>
      if debugAssertions || (host.environment "KRAKEN_UI_ALLOW_EPHEMERAL_SESSION_KEY").isSome then
        .ok .generated
      else .error .missing

/-- The text of the key that seals passwords. -/
def passwordKeySource (host : Host) : Option (Except ReadError String) :=
  match host.environment "KRAKEN_UI_PASSWORD_KEY" with
  | some value => some (.ok value)
  | none =>
      (host.environment "KRAKEN_UI_PASSWORD_KEY_FILE").map (readProtectedFile host.files)

/-! ## The generator -/

def secretNames : List String := ["RORSCHACH_SECRET_EVEN", "RORSCHACH_SECRET_ODD"]

def secretBytes : Nat := 64

/-- What the arguments ask for. -/
inductive Invocation where
  | help
  | refuse (message : String)
  | generate (destination : Option String)
  deriving DecidableEq

def parseArguments : Option String -> List String -> Invocation
  | destination, [] => .generate destination
  | _, argument :: rest =>
      if argument = "--write" then parseArguments (some secretsDir) rest
      else if argument = "--dir" then
        match rest with
        | [] => .refuse "--dir requires a path argument"
        | path :: rest => parseArguments (some path) rest
      else if argument = "-h" ∨ argument = "--help" then .help
      else .refuse ("unknown argument: " ++ argument)

/-- The text of a secret. -/
def generateSecret (bytes : ByteArray) : String :=
  String.ofList (Base64.urlSafeNoPad.spell bytes.data.toList)

/-- A directory was created and restricted.  Nothing that can be read as a text
appears or changes. -/
structure MakesDirectory (before after : Files) : Prop where
  kept : forall path place, before.place path = some place ->
    after.place path = some place ∧ (after.file place).text = (before.file place).text
  created : forall path place, before.place path = none -> after.place path = some place ->
    (after.file place).text = none

/-- A file was written under a path and restricted to its owner and its group. -/
structure StoresSecret (path value : String) (before after : Files) : Prop where
  stored : Exists fun place => after.place path = some place ∧
    (after.file place).text = some value ∧ (after.file place).metadata.mode = 0o440 ∧
      forall other, other ≠ place -> after.file other = before.file other
  kept : forall other place, before.place other = some place -> after.place other = some place

/-- A run of `write_secret_files` that reports success. -/
inductive WritesSecrets (directory : String) : List (String × String) -> Files -> Files -> Prop where
  | nil (files : Files) : WritesSecrets directory [] files files
  | cons {name value : String} {secrets : List (String × String)} {before middle after : Files}
      (stores : StoresSecret (join directory name) value before middle)
      (others : WritesSecrets directory secrets middle after) :
      WritesSecrets directory ((name, value) :: secrets) before after

def WriteSecretFiles (directory : String) (secrets : List (String × String))
    (before after : Files) : Prop :=
  Exists fun made => MakesDirectory before made ∧ WritesSecrets directory secrets made after

/-! ## The client of the rule channel -/

open RuleManagement in
/-- `connect` says how building the HTTPS client ends. -/
def buildRuleManagement (engines : List (String -> Option ByteArray))
    (connect : Except String Unit) (host : Host) (wafRuleEndpoint : Option String) :
    Except String (Option RuleManagementService) :=
  match wafRuleEndpoint with
  | none => .ok none
  | some endpoint =>
      match loadSecret host "RORSCHACH_SECRET_EVEN", loadSecret host "RORSCHACH_SECRET_ODD" with
      | some secretEven, some secretOdd =>
          let clientId := (loadSecret host "RORSCHACH_CLIENT_ID").getD "kraken-ui"
          connect.bind fun _ =>
            (RuleManagementService.withClient engines endpoint clientId secretEven
              secretOdd).map some
      | _, _ => .ok none

end Secrets
end KrakenUi
