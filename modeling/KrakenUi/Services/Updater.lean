import KrakenUi.Interaction.Exclusive
import KrakenUi.Services.SourceUpdate
import KrakenUi.Text

namespace KrakenUi
namespace Updater

open FileSystem Interaction SourceUpdate

/-!
# The update service

`SourceUpdateService` runs one update at a time.  An update is an attempt: any
request it makes may fail, which ends it with an error.  The status is only
written by orders, which cannot fail.

The archive and the directory of the release are given as data, as for the
programs that unpack and copy them.  Semantic versions, the manifest and the
rendering of paths belong to libraries and are parameters.
-/

/-! ## The status -/

inductive UpdatePhase where
  | idle
  | checking
  | downloading
  | extracting
  | compiling
  | installing
  | restarting
  | complete
  | failed
  deriving DecidableEq

structure UpdateStatus where
  phase : UpdatePhase
  currentVersion : String
  targetVersion : Option String
  log : String
  inProgress : Bool
  redirectAfterSeconds : Option Nat

def maxLogBytes : Nat := 64 * 1024

def endLine (log : List Char) : List Char :=
  if log.getLast? = some '\n' then log else log ++ ['\n']

/-- The characters that begin after so many bytes. -/
def keepFrom : Nat -> List Char -> List Char
  | _, [] => []
  | 0, log => log
  | bytes + 1, character :: log => keepFrom (bytes + 1 - character.utf8Size) log

/-- `append_log` without the panic of `drain`, which is modelled and ruled out in
`UpdateLog`. -/
def appendLog (log message : String) : String :=
  let before := if log.isEmpty then [] else endLine log.toList
  let lines := String.ofList (endLine (before ++ message.toList))
  if maxLogBytes < lines.utf8ByteSize then
    "[earlier update output truncated]\n" ++
      String.ofList (keepFrom (lines.utf8ByteSize - maxLogBytes) lines.toList)
  else lines

namespace UpdateStatus

def resetForUpdate (status : UpdateStatus) : UpdateStatus :=
  { status with
    phase := .checking
    targetVersion := none
    log := ""
    inProgress := true
    redirectAfterSeconds := none }

def setPhase (status : UpdateStatus) (phase : UpdatePhase) (message : String) : UpdateStatus :=
  { status with phase := phase, log := appendLog status.log message }

def appendOutput (status : UpdateStatus) (output : String) : UpdateStatus :=
  if (Text.trim output).isEmpty then status
  else { status with log := appendLog status.log (Text.trim output) }

def appendCommandOutput (status : UpdateStatus) (stdout stderr : String) : UpdateStatus :=
  (status.appendOutput stdout).appendOutput stderr

def finishComplete (status : UpdateStatus) (message : String) : UpdateStatus :=
  { status with
    phase := .complete
    inProgress := false
    log := appendLog status.log message }

def finishFailed (status : UpdateStatus) (message : String) : UpdateStatus :=
  { status with
    phase := .failed
    inProgress := false
    log := appendLog status.log message }

def setRestarting (status : UpdateStatus) (target : String) : UpdateStatus :=
  { status with
    phase := .restarting
    inProgress := true
    redirectAfterSeconds := some 120
    log := appendLog status.log ("Kraken UI " ++ target ++ " installed successfully. " ++
      "Restarting the web UI now. Keep this page open; it will redirect to login in two minutes.") }

end UpdateStatus

/-- A change of the status under its lock. -/
inductive Change where
  | resetForUpdate
  | setPhase (phase : UpdatePhase) (message : String)
  | setTargetVersion (target : String)
  | appendCommandOutput (stdout stderr : String)
  | finishComplete (message : String)
  | finishFailed (message : String)
  | setRestarting (target : String)

def Change.apply (status : UpdateStatus) : Change -> UpdateStatus
  | resetForUpdate => status.resetForUpdate
  | setPhase phase message => status.setPhase phase message
  | setTargetVersion target => { status with targetVersion := some target }
  | appendCommandOutput stdout stderr => status.appendCommandOutput stdout stderr
  | finishComplete message => status.finishComplete message
  | finishFailed message => status.finishFailed message
  | setRestarting target => status.setRestarting target

/-! ## The commands -/

structure GitHubRelease where
  tagName : String
  draft : Bool
  prerelease : Bool

/-- What a finished process leaves, its output as text. -/
structure Output where
  stdout : String
  stderr : String
  success : Bool

/-- What may fail. -/
inductive Request where
  | fetchLatestRelease
  | downloadArchive (tag : String)
  | readToString (path : Path)
  /-- A new directory with a name of its own. -/
  | newTempDir (parent : Path)
  /-- A thread for calls that block. -/
  | spawnBlocking
  | file (command : SourceUpdate.Command)
  | cargoBuild (directory : Path)
  /-- What the directory of the release holds. -/
  | readRelease (directory : Path)
  | copyFile (source target : Path)
  /-- The permissions of a file are read, and another file gets them. -/
  | metadata (path : Path)
  | setPermissions (path : Path)
  | removeFile (path : Path)
  | rename (source target : Path)
  | spawnReplacement (executable directory : Path)

abbrev Request.Answer : Request -> Type
  | fetchLatestRelease => GitHubRelease
  | downloadArchive _ => List TarEntry
  | readToString _ => String
  | newTempDir _ => Path
  | file command => command.Reply
  | cargoBuild _ => Output
  | readRelease _ => Listing
  | _ => Unit

/-- What cannot fail, or fails without notice. -/
inductive Order where
  | write (change : Change)
  /-- The flag of the service is taken back. -/
  | release
  | isFile (path : Path)
  | pathExists (path : Path)
  /-- The renaming that undoes another one. -/
  | renameBack (source target : Path)
  | removeTempDir (path : Path)
  | sleep (milliseconds : Nat)
  | shutdown

abbrev Order.Reply : Order -> Type
  | isFile _ | pathExists _ | removeTempDir _ => Bool
  | _ => Unit

inductive Command where
  | ask (request : Request)
  | tell (order : Order)

abbrev Command.Reply : Command -> Type
  | ask request => Except String request.Answer
  | tell order => order.Reply

abbrev calls : Signature := ⟨Command, Command.Reply⟩

abbrev Try (α : Type) := Fallible calls String α

/-- An error with its context. -/
def inContext {α : Type} (context : String) : Except String α -> Except String α
  | .ok value => .ok value
  | .error cause => .error (context ++ ": " ++ cause)

def ask (request : Request) : Try request.Answer := Fallible.ask (S := calls) (.ask request) id

def askFor (context : String) (request : Request) : Try request.Answer :=
  Fallible.ask (S := calls) (.ask request) (inContext context)

def tell (order : Order) : Try order.Reply := Fallible.tell (S := calls) (.tell order)

def write (change : Change) : Try Unit := tell (.write change)

def bail {α : Type} (message : String) : Try α := throw message

/-- The calls of a program for files, as requests. -/
def onFiles {α : Type} (task : SourceUpdate.Task α) : Try α :=
  Fallible.within (T := SourceUpdate.calls) (fun command => ask (.file command)) task

/-! ## The service -/

def updateNew : Suffix := ⟨ascii "update-new", by decide, by decide, by decide⟩

def updatePrevious : Suffix := ⟨ascii "update-previous", by decide, by decide, by decide⟩

def preparedExecutablePath (executable : Path) : Path := withExtension executable updateNew

def previousExecutablePath (executable : Path) : Path := withExtension executable updatePrevious

/-- What a library knows of versions. -/
structure Semver (Version : Type) where
  parse : String -> Except String Version
  /-- There is no text for a prerelease or a build. -/
  stable : Version -> Bool
  le : Version -> Version -> Bool
  equal : Version -> Version -> Bool
  text : Version -> String

structure SourceUpdateService (Version : Type) where
  sourceRoot : Path
  workingDirectory : Path
  /-- The directory and the name of the executable. -/
  executableParent : Path
  executableName : Name
  serverHandle : Bool
  allowUnsignedSourceUpdate : Bool
  packageVersion : String
  semver : Semver Version
  /-- The package name and version of a manifest. -/
  manifest : String -> Except String (String × String)
  display : Path -> String

namespace SourceUpdateService

variable {Version : Type} (service : SourceUpdateService Version)

def executable : Path := service.executableParent ++ [service.executableName]

def prepared : Path := preparedExecutablePath service.executable

def previous : Path := previousExecutablePath service.executable

/-- The parent of the source root, or the current directory if it has none. -/
def stagingParent : Path :=
  if service.sourceRoot = [] then service.workingDirectory else service.sourceRoot.dropLast

end SourceUpdateService

/-! ## An update

`run_update` is cut into its parts: up to the download, staging, installing and
restarting. -/

def unsignedSourceUpdateDisabledMessage : String :=
  "Unsigned in-application source updates are disabled. Deploy signed releases externally, or set " ++
    "KRAKEN_UI_ALLOW_UNSIGNED_SOURCE_UPDATE=1 only after an external process verifies the release " ++
    "provenance."

/-- The status that `new` begins with. -/
def SourceUpdateService.initialStatus {Version : Type} (service : SourceUpdateService Version) :
    UpdateStatus where
  phase := .idle
  currentVersion := service.packageVersion
  targetVersion := none
  log :=
    if service.allowUnsignedSourceUpdate then
      "Ready to check the latest stable Kraken UI release.\n"
    else unsignedSourceUpdateDisabledMessage ++ "\n"
  inProgress := false
  redirectAfterSeconds := none

def cargoToml : Name := (Name.ofBytes (ascii "Cargo.toml")).get (by decide)

def cargoLock : Name := (Name.ofBytes (ascii "Cargo.lock")).get (by decide)

def sourceName : Name := (Name.ofBytes (ascii "source")).get (by decide)

def srcName : Name := (Name.ofBytes (ascii "src")).get (by decide)

def mainRsName : Name := (Name.ofBytes (ascii "main.rs")).get (by decide)

def targetName : Name := (Name.ofBytes (ascii "target")).get (by decide)

def releaseName : Name := (Name.ofBytes (ascii "release")).get (by decide)

def krakenUiName : Name := (Name.ofBytes (ascii "kraken-ui")).get (by decide)

section Update

variable {Version : Type} (service : SourceUpdateService Version)

def validateReleaseTag (tag : String) : Except String Version :=
  match tag.toList with
  | 'v' :: rest => do
      let version ← inContext "release tag is not a semantic version"
        (service.semver.parse (String.ofList rest))
      if service.semver.stable version then .ok version
      else .error "release tag is not a stable semantic version"
  | _ => .error "release tag must use the vMAJOR.MINOR.PATCH format"

def stableVersionFromRelease (release : GitHubRelease) : Except String Version :=
  if release.draft || release.prerelease then
    .error "GitHub returned a draft or prerelease as the latest stable release"
  else validateReleaseTag service release.tagName

def downloadArchive (tag : String) : Try (List TarEntry) := do
  let _ ← Fallible.given (validateReleaseTag service tag)
  ask (.downloadArchive tag)

def validateSourceRoot : Try Unit := do
  if ← tell (.isFile (service.sourceRoot ++ [cargoToml])) then pure ()
  else bail ("KRAKEN_UI_SOURCE_DIR does not contain Cargo.toml: " ++
    service.display service.sourceRoot)

/-- The manifest is the one of the version that is expected. -/
def checkManifest (expected : Version) (text : String) : Except String Unit := do
  let package ← inContext "release Cargo.toml is invalid" (service.manifest text)
  if package.1 ≠ "kraken-ui" then .error "release archive contains the wrong Cargo package"
  else do
    let version ← inContext "release package version is invalid" (service.semver.parse package.2)
    if service.semver.equal version expected then .ok ()
    else .error ("release tag version " ++ service.semver.text expected ++
      " does not match Cargo.toml version " ++ service.semver.text version)

def validateStagedRelease (root : Path) (expected : Version) : Try Unit := do
  let manifestPath := root ++ [cargoToml]
  let manifestText ← askFor ("failed to read " ++ service.display manifestPath)
    (.readToString manifestPath)
  Fallible.given (checkManifest service expected manifestText)
  if ← tell (.isFile (root ++ [cargoLock])) then do
    if ← tell (.isFile (root ++ [srcName, mainRsName])) then pure ()
    else bail "release archive is missing required Kraken UI source files"
  else bail "release archive is missing required Kraken UI source files"

def stagedBinary (stagedSource : Path) : Path :=
  stagedSource ++ [targetName, releaseName, krakenUiName]

def compile (stagedSource : Path) : Try Unit := do
  let output ← askFor "failed to start cargo build for the staged release"
    (.cargoBuild stagedSource)
  write (.appendCommandOutput output.stdout output.stderr)
  if output.success then do
    if ← tell (.isFile (stagedBinary stagedSource)) then pure ()
    else bail ("compiled binary was not found at " ++ service.display (stagedBinary stagedSource))
  else bail "the staged release did not compile successfully"

def stageRelease (target : Version) (archive : List TarEntry) (stagedSource : Path) :
    Try Unit := do
  askFor "release extraction task failed" .spawnBlocking
  onFiles (unpackReleaseArchive archive stagedSource)
  validateStagedRelease service stagedSource target
  write (.setPhase .compiling ("Release validated. Downloading Rust packages and compiling " ++
    "the new web UI. This can take several minutes..."))
  compile service stagedSource

def prepareExecutable (staged executable : Path) : Try Unit := do
  let prepared := preparedExecutablePath executable
  askFor ("failed to stage executable at " ++ service.display prepared) (.copyFile staged prepared)
  ask (.metadata staged)
  askFor "failed to preserve executable permissions" (.setPermissions prepared)

/-- The renaming at the end of `activate_executable`. -/
def replaceExecutable (executable : Path) : Try Unit := do
  let prepared := preparedExecutablePath executable
  let previous := previousExecutablePath executable
  askFor ("failed to preserve the running executable as " ++ service.display previous)
    (.rename executable previous)
  match ← Fallible.tell (S := calls) (.ask (.rename prepared executable)) with
  | .ok () => pure ()
  | .error cause => do
      tell (.renameBack previous executable)
      bail ("failed to activate the updated executable: " ++ cause)

def activateExecutable (executable : Path) : Try Unit := do
  let previous := previousExecutablePath executable
  if ← tell (.pathExists previous) then do
    askFor "failed to remove the previous update backup" (.removeFile previous)
    replaceExecutable service executable
  else replaceExecutable service executable

def installRelease (stagedSource : Path) : Try Unit := do
  write (.setPhase .installing ("Compilation succeeded. Installing source and executable " ++
    "while preserving databases and configuration files..."))
  askFor "release installation task failed" .spawnBlocking
  prepareExecutable service (stagedBinary stagedSource) service.executable
  let listing ← ask (.readRelease stagedSource)
  onFiles (copyReleaseSource listing service.sourceRoot)
  activateExecutable service service.executable

def restart (target : Version) : Try Unit := do
  if service.serverHandle then do
    write (.setRestarting (service.semver.text target))
    askFor "failed to start the updated Kraken UI process"
      (.spawnReplacement service.executable service.sourceRoot)
    tell (.sleep 750)
    tell .shutdown
  else bail "automatic restart is unavailable in this runtime"

/-- The directory is removed however the attempt ends. -/
def withTempDir (path : Path) (attempt : Try Unit) : Try Unit :=
  ExceptT.mk do
    let outcome ← attempt.run
    let _ ← Program.perform (S := calls) (.tell (.removeTempDir path))
    pure outcome

def updateTo (target : Version) (archive : List TarEntry) : Try Unit := do
  write (.setPhase .extracting
    "Validating and extracting the release into an isolated staging directory...")
  let staging ← askFor "failed to create the update staging directory"
    (.newTempDir service.stagingParent)
  withTempDir staging do
    stageRelease service target archive (staging ++ [sourceName])
    installRelease service (staging ++ [sourceName])
    restart service target

def runUpdate : Try Unit := do
  if service.allowUnsignedSourceUpdate then do
    write (.setPhase .checking "Checking the latest published GitHub release...")
    validateSourceRoot service
    let release ← ask .fetchLatestRelease
    let target ← Fallible.given (stableVersionFromRelease service release)
    write (.setTargetVersion (service.semver.text target))
    let current ← Fallible.given (inContext
      "the running package version is not semantic versioning"
      (service.semver.parse service.packageVersion))
    if service.semver.le target current then
      write (.finishComplete ("No update installed. Running version " ++
        service.semver.text current ++ " is already at or newer than the latest stable release " ++
        service.semver.text target ++ "."))
    else do
      write (.setPhase .downloading
        ("Downloading Kraken UI v" ++ service.semver.text target ++ " source package..."))
      let archive ← downloadArchive service release.tagName
      updateTo service target archive
  else bail unsignedSourceUpdateDisabledMessage

/-- What `start` does once it has the flag, and the task that it spawns. -/
def updateTask : Program calls Unit := do
  Program.perform (S := calls) (.tell (.write .resetForUpdate))
  let outcome ← (runUpdate service).run
  match outcome with
  | .ok () => pure ()
  | .error error =>
      Program.perform (S := calls) (.tell (.write (.finishFailed ("Update failed: " ++ error))))
  Program.perform (S := calls) (.tell .release)

end Update

end Updater
end KrakenUi
