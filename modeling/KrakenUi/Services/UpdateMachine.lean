import KrakenUi.Guarantees.LinkedUpdates
import KrakenUi.Services.Updater

namespace KrakenUi
namespace Updater

open FileSystem Interaction SourceUpdate

/-!
# What the commands of an update do

The state of the service is its flag, its status and the disk.  A request that
fails has no effect.  One that is answered does to the disk what the call does;
what is known of a path is known for directories without links, and where a call
follows links it is said where it leads.

Beside the state a run is remembered since its beginning: the disk that it found,
whether it came to the installation, what it staged and whether it was activated.
-/

/-- What is remembered of the latest update. -/
structure Run where
  opened : Disk
  installing : Bool
  staged : Option (List UInt8)
  activated : Bool

structure State where
  running : Bool
  status : UpdateStatus
  disk : Disk
  run : Run

/-- The content of the file to which a path leads. -/
def read (disk : Disk) (path : Path) : Option (List UInt8) :=
  match disk.resolve path with
  | .node found =>
      match disk found with
      | some (.file content) => some content
      | _ => none
  | _ => none

/-- What was at one path is now at another. -/
def move (disk : Disk) (source target : Path) : Disk := fun other =>
  if other = target then disk source
  else if other = source then none
  else disk other

def erase (disk : Disk) (path : Path) : Disk := fun other =>
  if other = path then none else disk other

/-- The content is written where the path leads, unless that is no regular file. -/
def Overwrites (content : List UInt8) (path : Path) (before after : Disk) : Prop :=
  (Exists fun opened => Opens before path opened ∧ after = before.put opened (.file content)) ∨
    Exists fun found => before.resolve path = .node found ∧ before found = some .special ∧
      after = before

/-- A directory entry that is no directory has got another name. -/
def Renames (source target : Path) (before after : Disk) : Prop :=
  Exists fun node => before source = some node ∧
    (node ≠ .directory -> before target ≠ some .directory ∧ after = move before source target)

/-- What a call of the unpacking or the copying does on any path, with links or
without. -/
def everywhere (before : Disk) : SourceUpdate.Command -> Disk -> Prop
  | .createDirAll _, after =>
      (forall path node, before path = some node -> after path = some node) ∧
        forall path, before path = none -> after path = none ∨ after path = some .directory
  | .copy content path, after => Overwrites content path before after
  | .unpack _ _, _ => True
  | _, after => after = before

/-- What a request does that is answered. -/
def answers (before : Disk) : (request : Request) -> request.Answer -> Disk -> Prop
  | .readToString path, _, after => after = before ∧ (read before path).isSome = true
  | .newTempDir parent, path, after => before.Rooted parent ->
      (Exists fun name : Name => path = parent ++ [name] ∧ name.extension = none) ∧
        (forall other, path <+: other -> before other = none) ∧ after = before.put path .directory
  | .file command, reply, after =>
      effect before command (some reply) after ∧ everywhere before command after
  | .cargoBuild directory, _, after => forall path, ¬ directory <+: path -> after path = before path
  | .copyFile source target, _, after =>
      Exists fun content => read before source = some content ∧
        Overwrites content target before after
  | .removeFile path, _, after => before.Rooted path.dropLast ->
      before path ≠ some .directory ∧ after = erase before path
  | .rename source target, _, after => before.Rooted source.dropLast ->
      before.Rooted target.dropLast -> Renames source target before after
  | _, _, after => after = before

/-- An error has no effect.  The message of a program is its own. -/
def fails (before : Disk) : Request -> String -> Disk -> Prop
  | .file (.bail message), error, after => after = before ∧ error = message
  | _, _, after => after = before

/-- What an order does.  Renaming back succeeds wherever it can. -/
def obeys (before : Disk) : (order : Order) -> order.Reply -> Disk -> Prop
  | .isFile path, reply, after => after = before ∧
    (reply = true -> (read before path).isSome = true)
  | .pathExists path, reply, after => after = before ∧ (reply = true -> before.leads path = true)
  | .renameBack source target, _, after => before.Rooted source.dropLast ->
      before.Rooted target.dropLast -> before source ≠ none -> before source ≠ some .directory ->
        before target ≠ some .directory -> after = move before source target
  | .removeTempDir path, removed, after =>
      (forall other, ¬ path <+: other -> after other = before other) ∧
        (forall other, path <+: other -> after other = before other ∨ after other = none) ∧
          (removed = true -> forall other, path <+: other -> after other = none)
  | _, _, after => after = before

def touches (before : Disk) : (command : Command) -> command.Reply -> Disk -> Prop
  | .ask request, .ok answer, after => answers before request answer after
  | .ask request, .error error, after => fails before request error after
  | .tell order, reply, after => obeys before order reply after

/-- The flag after a command. -/
def flag (running : Bool) : Command -> Bool
  | .tell .release => false
  | _ => running

def written (status : UpdateStatus) : Command -> UpdateStatus
  | .tell (.write change) => change.apply status
  | _ => status

section Service

variable {Version : Type} (service : SourceUpdateService Version)

/-- What is remembered after a command. -/
def remembered (before : State) : (command : Command) -> command.Reply -> Run
  | .tell (.write .resetForUpdate), _ => ⟨before.disk, false, none, false⟩
  | .tell (.write (.setPhase .installing _)), _ => { before.run with installing := true }
  | .ask (.copyFile source _), .ok _ => { before.run with staged := read before.disk source }
  | .ask (.rename _ target), .ok _ =>
      { before.run with activated := before.run.activated || target == service.executable }
  | _, _ => before.run

structure Performs (before : State) (command : Command) (reply : command.Reply) (after : State) :
    Prop where
  running : after.running = flag before.running command
  status : after.status = written before.status command
  disk : touches before.disk command reply after.disk
  run : after.run = remembered service before command reply

def acts : Acts calls State := Performs service

/-- `start` and the task that it spawns. -/
def machine : Exclusive calls State where
  busy := State.running
  claim := fun state => { state with running := true }
  task := updateTask service

/-- What the constructor of the service has resolved: both directories are reached
without links, and in one of them is the file that runs. -/
structure Deployed (disk : Disk) : Prop where
  staging : disk.Rooted service.stagingParent
  beside : disk.Rooted service.executableParent
  binary : Exists fun content => disk service.executable = some (.file content)

/-- A service that has been created and not been asked yet. -/
structure Created (state : State) : Prop where
  free : state.running = false
  idle : state.status.phase = .idle
  unused : state.run.activated = false
  deployed : Deployed service state.disk

end Service

end Updater
end KrakenUi
