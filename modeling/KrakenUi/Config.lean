import KrakenUi.FileSystem.Lookup
import KrakenUi.Net.IpParse
import KrakenUi.Text

namespace KrakenUi
namespace Config

open FileSystem Net Text

/-!
# The configuration

What is read from the configuration file is checked before the console starts:
addresses, limits, and what the file system has at the configured paths.  The
console may search every directory, so a path is missed only when nothing is
there.

Errors are given without the values that they quote.
-/

/-! ## Durations -/

/-- `char::is_ascii_whitespace`. -/
def isAsciiWhitespace (character : Char) : Bool :=
  ['\t', '\n', '\x0c', '\r', ' '].contains character

/-- `u64::checked_add`. -/
def checkedAdd (left right : Nat) : Option Nat :=
  if left + right < 2 ^ 64 then some (left + right) else none

/-- `u64::checked_mul`. -/
def checkedMul (left right : Nat) : Option Nat :=
  if left * right < 2 ^ 64 then some (left * right) else none

/-- What the loop over the characters keeps. -/
structure DurationScan where
  seconds : Nat
  digits : List Char
  sawUnit : Bool

def multiplier (character : Char) : Option Nat :=
  if character = 's' ∨ character = 'S' then some 1
  else if character = 'm' ∨ character = 'M' then some 60
  else if character = 'h' ∨ character = 'H' then some (60 * 60)
  else none

def scanDuration (scan : DurationScan) (character : Char) : Except String DurationScan :=
  if isAsciiDigit character then .ok { scan with digits := scan.digits ++ [character] }
  else if isAsciiWhitespace character then .ok scan
  else if scan.digits.isEmpty then .error "duration must place a number before each unit"
  else
    match parseUnsigned (2 ^ 64) scan.digits with
    | none => .error "duration component is too large"
    | some amount =>
        match multiplier character with
        | none => .error "duration units must be s, m or h, for example 30m or 1h"
        | some unit =>
            match (checkedMul amount unit).bind (checkedAdd scan.seconds) with
            | none => .error "duration is too large"
            | some seconds => .ok { seconds := seconds, digits := [], sawUnit := true }

def parseHumanDurationSeconds (raw : String) : Except String Nat :=
  match (trim raw).toList.foldlM scanDuration ⟨0, [], false⟩ with
  | .error message => .error message
  | .ok scan =>
      if scan.digits.isEmpty = false ∨ scan.sawUnit = false then
        .error "duration must include a unit, for example 30m or 1h"
      else .ok scan.seconds

/-! ## Paths -/

abbrev PathBuf := List UInt8

/-- The parent without links, and the file name. -/
def normalizedWithExistingParent (files : FileTree) (path : PathBuf) : Option (Path × Name) :=
  ((parent path).filter fun above => !above.isEmpty).bind fun above =>
    (fileName path).bind fun name =>
      (files.canonicalize above).map fun canonical => (canonical, name)

def sameFileMetadata (left right : Metadata) : Bool :=
  left.identity = right.identity

/-- Both files exist and are one. -/
def sameExistingFile (files : FileTree) (left right : PathBuf) : Bool :=
  match files.metadata (steps left), files.metadata (steps right) with
  | some leftMeta, some rightMeta => sameFileMetadata leftMeta rightMeta
  | _, _ => false

/-- Both paths have the same parent and file name. -/
def sameNormalized (files : FileTree) (left right : PathBuf) : Bool :=
  match normalizedWithExistingParent files left, normalizedWithExistingParent files right with
  | some left, some right => left = right
  | _, _ => false

def pathsMayReferenceSameFile (files : FileTree) (left right : PathBuf) : Bool :=
  if components left = components right then true
  else if sameExistingFile files left right then true
  else sameNormalized files left right

/-! ## Permissions -/

/-- `file_has_loose_permissions`: a bit of the group or of others. -/
def fileHasLoosePermissions (metadata : Metadata) : Bool :=
  metadata.mode &&& 0o077 ≠ 0

def directoryHasLooseWritePermissions (metadata : Metadata) : Bool :=
  metadata.mode &&& 0o022 ≠ 0

/-- The rest of the checks is made unless something is wrong. -/
def bailIf (wrong : Bool) (message : String) : Except String Unit :=
  if wrong then .error message else .ok ()

def validatePrivateKeyPermissions (files : FileTree) (path : PathBuf) : Except String Unit :=
  match files.metadata (steps path) with
  | none => .ok ()
  | some metadata =>
      bailIf (fileHasLoosePermissions metadata)
        "TLS private key must not be accessible by group or others"

/-- A path with an extension is taken for a file in the directory to check. -/
def persistentDirectory (path : PathBuf) : List Component :=
  if ((fileName path).bind Name.extension).isSome then (parent path).getD [.curDir]
  else steps path

def validatePersistentDirectory (files : FileTree) (path : PathBuf) (field : String) :
    Except String Unit :=
  match files.metadata (persistentDirectory path) with
  | none => .ok ()
  | some metadata =>
      bailIf (directoryHasLooseWritePermissions metadata)
        (field ++ " directory must not be writable by group or others")

/-! ## The checks -/

structure AppConfig where
  certificatePath : PathBuf
  privateKeyPath : PathBuf
  listen : String
  databasePath : PathBuf
  wafDatabasePath : Option PathBuf
  wafEndpoint : String
  wafCertificatePath : Option PathBuf
  wafRuleEndpoint : Option String
  wafRuleCertificatePath : Option PathBuf
  logDirectory : PathBuf
  sessionTimeoutMinutes : Nat
  adminSessionTimeLimitSeconds : Nat
  trustedProxyIps : List IpAddr

def minimumSessionMinutes : Nat := 5

def maximumSessionMinutes : Nat := 1440

def defaultAdminSessionTimeLimitSeconds : Nat := 60 * 60

def maximumAdminSessionTimeLimitSeconds : Nat := 12 * 60 * 60

def startsWithHttps (endpoint : String) : Bool :=
  "https://".toList.isPrefixOf endpoint.toList

/-- `IpAddr::is_unspecified`. -/
def isUnspecified : IpAddr -> Bool
  | .v4 octets => octets.toList.all (· == 0)
  | .v6 segments => segments.toList.all (· == 0)

namespace AppConfig

def validate (files : FileTree) (config : AppConfig) : Except String Unit := do
  bailIf (isEmpty (trim config.listen)) "listen cannot be empty"
  bailIf (IpParse.parseSocketAddr config.listen.toList).isNone
    "listen must be a valid socket address such as 127.0.0.1:3443"
  bailIf config.certificatePath.isEmpty "cert-ca cannot be empty"
  bailIf config.privateKeyPath.isEmpty "key cannot be empty"
  bailIf config.databasePath.isEmpty "db-ui cannot be empty"
  bailIf (config.wafDatabasePath.any List.isEmpty)
    "db-waf-alerts cannot be empty when configured"
  bailIf (config.wafDatabasePath.any (pathsMayReferenceSameFile files config.databasePath))
    "db-ui and db-waf-alerts must reference different files"
  validatePrivateKeyPermissions files config.privateKeyPath
  validatePersistentDirectory files config.databasePath "db-ui"
  validatePersistentDirectory files config.logDirectory "log-dir"
  bailIf (config.wafCertificatePath.any List.isEmpty) "waf-cert-ca cannot be empty when configured"
  bailIf (decide (config.sessionTimeoutMinutes < minimumSessionMinutes ∨
      maximumSessionMinutes < config.sessionTimeoutMinutes))
    "session-timeout-minutes must be between 5 and 1440"
  bailIf (decide (config.adminSessionTimeLimitSeconds = 0 ∨
      maximumAdminSessionTimeLimitSeconds < config.adminSessionTimeLimitSeconds))
    "admin-session-time-limmit must be greater than 0s and no more than 12h"
  bailIf (!startsWithHttps config.wafEndpoint) "waf-endpoint must use https://"
  bailIf (config.wafRuleEndpoint.any fun endpoint => !startsWithHttps endpoint)
    "waf-rule-endpoint must use https:// when configured"
  bailIf (config.wafRuleCertificatePath.any List.isEmpty)
    "waf-rule-cert-ca cannot be empty when configured"
  bailIf (config.trustedProxyIps.any isUnspecified)
    "trusted-proxy-ips cannot contain unspecified addresses"

end AppConfig
end Config
end KrakenUi
