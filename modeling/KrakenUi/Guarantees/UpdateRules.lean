import KrakenUi.Guarantees.Extraction
import KrakenUi.Services.UpdateMachine

namespace KrakenUi
namespace Updater

open FileSystem Interaction SourceUpdate

/-!
# What an update leaves behind

An update that fails leaves the executable as it was, and before the installation
everything else too.  One that has activated its executable cannot be undone any
more: the server handle may be missing and the new process may not start, and the
update then fails with the new executable in place.

The files that are copied are the other danger.  The names beside the executable
are made from its own name, and a release chooses its paths.  So a copy may open
the executable, or the file that was prepared for it.
-/

/-! ## The property and its condition -/

section Properties

variable {Version : Type} (service : SourceUpdateService Version)

/-- What an update may only touch while it is installing. -/
def Installed (path : Path) : Prop :=
  service.sourceRoot <+: path ∨ path = service.executable ∨ path = service.prepared ∨
    path = service.previous

structure Sound (state : State) : Prop where
  undone : state.status.phase = .failed -> state.status.inProgress = false ∧
    state.status.redirectAfterSeconds = none ∧
      state.disk service.executable = state.run.opened service.executable
  untouched : state.status.phase = .failed -> state.run.installing = false ->
    forall path, Installed service path -> state.disk path = state.run.opened path
  activated : state.run.activated = true ->
    (Exists fun content => state.run.staged = some content ∧
      state.disk service.executable = some (.file content)) ∧
    state.disk service.previous = state.run.opened service.executable

/-- No file is copied to the executable and the executable is not removed.  What
is activated is the file that was staged, for a server that can be shut down, and
the new process starts.  A temporary directory inside of the source root can be
removed. -/
def Spares (before : State) : (command : Command) -> command.Reply -> Prop
  | .ask (.copyFile _ path), .ok _ => ¬ Opens before.disk path service.executable
  | .ask (.file (.copy _ path)), .ok _ => ¬ Opens before.disk path service.executable
  | .ask (.removeFile path), .ok _ => path ≠ service.executable
  | .ask (.rename source target), .ok _ => target = service.executable ->
      target ≠ service.previous ∧ service.serverHandle = true ∧
        Exists fun content => before.run.staged = some content ∧
          before.disk source = some (.file content)
  | .ask (.spawnReplacement _ _), reply => reply = .ok ()
  | .tell (.removeTempDir path), removed =>
      removed = true ∨ before.run.installing = true ∨ ¬ service.sourceRoot <+: path
  | _, _ => True

def sparing : Acts calls State :=
  (acts service).meeting fun before command reply _ => Spares service before command reply

/-- The property holds at every command of an attempt. -/
abbrev Tries {α : Type} (attempt : Try α) (state : State) (good : α -> State -> Prop)
    (bad : State -> Prop) : Prop :=
  Endures (sparing service) (fun state => Sound service state ∧ state.running = true)
    attempt state good bad

end Properties

/-! ## Commands that change nothing -/

/-- Only the log, the target or the phase has changed, and nothing is wrong. -/
structure Idle (before after : State) : Prop where
  running : after.running = before.running
  disk : after.disk = before.disk
  run : after.run = before.run
  phase : before.status.phase ≠ .failed -> after.status.phase ≠ .failed
  redirect : after.status.redirectAfterSeconds = before.status.redirectAfterSeconds

def Request.idle : Request -> Bool
  | fetchLatestRelease | downloadArchive _ | readToString _ | spawnBlocking | readRelease _
  | metadata _ | setPermissions _ | spawnReplacement _ _ => true
  | _ => false

def Order.idle : Order -> Bool
  | write (.setPhase phase _) => phase ≠ .failed && phase ≠ .installing
  | write (.setTargetVersion _) | write (.appendCommandOutput _ _) | write (.finishComplete _) =>
      true
  | isFile _ | pathExists _ | sleep _ | shutdown => true
  | _ => false

section Idle

variable {Version : Type} {service : SourceUpdateService Version} {before after : State}

theorem appendOutput_phase (status : UpdateStatus) (output : String) :
    (status.appendOutput output).phase = status.phase ∧
      (status.appendOutput output).redirectAfterSeconds = status.redirectAfterSeconds := by
  unfold UpdateStatus.appendOutput
  split
  · exact ⟨rfl, rfl⟩
  · exact ⟨rfl, rfl⟩

/-- A command that leaves the disk, the flag, the phase and what is remembered. -/
theorem Performs.idle_of_kept {command : Command} {reply : command.Reply}
    (performs : Performs service before command reply after)
    (disk : after.disk = before.disk) (running : flag before.running command = before.running)
    (run : remembered service before command reply = before.run)
    (phase : (written before.status command).phase = before.status.phase)
    (redirect : (written before.status command).redirectAfterSeconds =
      before.status.redirectAfterSeconds) : Idle before after where
  running := performs.running.trans running
  disk := disk
  run := performs.run.trans run
  phase := by
    rw [performs.status, phase]
    exact id
  redirect := by
    rw [performs.status]
    exact redirect

/-- A request that fails has done nothing. -/
theorem Performs.failed {request : Request} {error : String}
    (performs : Performs service before (.ask request) (.error error) after) :
    Idle before after := by
  refine performs.idle_of_kept ?_ rfl ?_ rfl rfl
  · have disk := performs.disk
    cases request with
    | file command =>
        cases command with
        | bail message => exact disk.1
        | _ => exact disk
    | _ => exact disk
  · cases request with
    | _ => rfl

theorem Performs.idle_of_request {request : Request} {answer : request.Answer}
    (performs : Performs service before (.ask request) (.ok answer) after)
    (idle : request.idle = true) : Idle before after := by
  have disk := performs.disk
  cases request with
  | fetchLatestRelease => exact performs.idle_of_kept disk rfl rfl rfl rfl
  | downloadArchive tag => exact performs.idle_of_kept disk rfl rfl rfl rfl
  | readToString path => exact performs.idle_of_kept disk.1 rfl rfl rfl rfl
  | spawnBlocking => exact performs.idle_of_kept disk rfl rfl rfl rfl
  | readRelease directory => exact performs.idle_of_kept disk rfl rfl rfl rfl
  | metadata path => exact performs.idle_of_kept disk rfl rfl rfl rfl
  | setPermissions path => exact performs.idle_of_kept disk rfl rfl rfl rfl
  | spawnReplacement executable directory => exact performs.idle_of_kept disk rfl rfl rfl rfl
  | newTempDir parent => cases idle
  | file command => cases idle
  | cargoBuild directory => cases idle
  | copyFile source target => cases idle
  | removeFile path => cases idle
  | rename source target => cases idle

theorem Performs.idle_of_order {order : Order} {reply : order.Reply}
    (performs : Performs service before (.tell order) reply after) (idle : order.idle = true) :
    Idle before after := by
  have disk := performs.disk
  cases order with
  | write change =>
      cases change with
      | setPhase phase message =>
          have plain : phase ≠ .failed ∧ phase ≠ .installing := by
            simpa [Order.idle] using idle
          refine ⟨performs.running, disk, ?_, ?_, ?_⟩
          · rw [performs.run]
            cases phase with
            | installing => exact absurd rfl plain.2
            | _ => rfl
          · rw [performs.status]
            exact fun _ => plain.1
          · rw [performs.status]
            rfl
      | setTargetVersion target => exact performs.idle_of_kept disk rfl rfl rfl rfl
      | appendCommandOutput stdout stderr =>
          have first := appendOutput_phase before.status stdout
          have second := appendOutput_phase (before.status.appendOutput stdout) stderr
          exact performs.idle_of_kept disk rfl rfl (second.1.trans first.1)
            (second.2.trans first.2)
      | finishComplete message =>
          refine ⟨performs.running, disk, performs.run, ?_, ?_⟩
          · rw [performs.status]
            exact fun _ => nofun
          · rw [performs.status]
            rfl
      | resetForUpdate => cases idle
      | finishFailed message => cases idle
      | setRestarting target => cases idle
  | isFile path => exact performs.idle_of_kept disk.1 rfl rfl rfl rfl
  | pathExists path => exact performs.idle_of_kept disk.1 rfl rfl rfl rfl
  | sleep milliseconds => exact performs.idle_of_kept disk rfl rfl rfl rfl
  | shutdown => exact performs.idle_of_kept disk rfl rfl rfl rfl
  | release => cases idle
  | renameBack source target => cases idle
  | removeTempDir path => cases idle

end Idle

/-! ## Regions -/

/-- A condition of the state in which an update can idle. -/
structure Region {Version : Type} (service : SourceUpdateService Version)
    (holds : State -> Prop) : Prop where
  sound : forall state, holds state -> Sound service state ∧ state.running = true
  idle : forall before after, holds before -> Idle before after -> holds after

namespace Region

variable {Version : Type} {service : SourceUpdateService Version} {holds : State -> Prop}
  {state : State}

theorem ended (region : Region service holds) {request : Request}
    {reads : Except String request.Answer -> Except String request.Answer}
    (well : forall answer, reads (.ok answer) = .ok answer)
    (badly : forall error, Exists fun message => reads (.error error) = .error message)
    {good : request.Answer -> State -> Prop} (start : holds state)
    (answered : forall answer after, Performs service state (.ask request) (.ok answer) after ->
      Spares service state (.ask request) (.ok answer) -> good answer after) :
    Tries service (Fallible.ask (S := calls) (.ask request) reads) state good holds := by
  refine Endures.ask (region.sound state start) ?_
  intro reply after acted
  cases reply with
  | ok answer =>
      rw [well]
      exact answered answer after acted.1 acted.2
  | error error =>
      rcases badly error with ⟨message, same⟩
      rw [same]
      exact region.idle state after start acted.1.failed

theorem ask (region : Region service holds) {request : Request}
    {good : request.Answer -> State -> Prop} (start : holds state)
    (answered : forall answer after, Performs service state (.ask request) (.ok answer) after ->
      Spares service state (.ask request) (.ok answer) -> good answer after) :
    Tries service (Updater.ask request) state good holds :=
  region.ended (fun _ => rfl) (fun error => ⟨error, rfl⟩) start answered

theorem askFor (region : Region service holds) {request : Request} (context : String)
    {good : request.Answer -> State -> Prop} (start : holds state)
    (answered : forall answer after, Performs service state (.ask request) (.ok answer) after ->
      Spares service state (.ask request) (.ok answer) -> good answer after) :
    Tries service (Updater.askFor context request) state good holds :=
  region.ended (fun _ => rfl) (fun _ => ⟨_, rfl⟩) start answered

theorem reads (region : Region service holds) {request : Request} (start : holds state)
    (idle : request.idle = true) :
    Tries service (Updater.ask request) state (fun _ => holds) holds :=
  region.ask start fun _ after performs _ =>
    region.idle state after start (performs.idle_of_request idle)

theorem readsFor (region : Region service holds) {request : Request} (context : String)
    (start : holds state) (idle : request.idle = true) :
    Tries service (Updater.askFor context request) state (fun _ => holds) holds :=
  region.askFor context start fun _ after performs _ =>
    region.idle state after start (performs.idle_of_request idle)

theorem tell (region : Region service holds) {order : Order}
    {good : order.Reply -> State -> Prop} {bad : State -> Prop} (start : holds state)
    (ends : forall reply after, Performs service state (.tell order) reply after ->
      Spares service state (.tell order) reply -> good reply after) :
    Tries service (Updater.tell order) state good bad :=
  Endures.tell (region.sound state start) fun reply after acted => ends reply after acted.1 acted.2

theorem idles (region : Region service holds) {order : Order} {bad : State -> Prop}
    (start : holds state) (idle : order.idle = true) :
    Tries service (Updater.tell order) state (fun _ => holds) bad :=
  region.tell start fun _ after performs _ =>
    region.idle state after start (performs.idle_of_order idle)

theorem given {α : Type} {outcome : Except String α} (start : holds state) :
    Tries service (Fallible.given outcome) state (fun _ => holds) holds := by
  apply Endures.given
  cases outcome with
  | ok value => exact start
  | error error => exact start

/-! The parts of an update that only look. -/

theorem validateSourceRoot (region : Region service holds) (start : holds state) :
    Tries service (Updater.validateSourceRoot service) state (fun _ => holds) holds := by
  apply Endures.bind (region.idles start rfl)
  intro found after here
  split
  · exact Endures.pure here
  · exact Endures.throw here

theorem downloadArchive (region : Region service holds) (tag : String) (start : holds state) :
    Tries service (Updater.downloadArchive service tag) state (fun _ => holds) holds := by
  apply Endures.bind (Region.given start)
  intro _ after here
  exact region.reads here rfl

theorem validateStagedRelease (region : Region service holds) (root : Path) (expected : Version)
    (start : holds state) :
    Tries service (Updater.validateStagedRelease service root expected) state (fun _ => holds)
      holds := by
  apply Endures.bind (region.readsFor _ start rfl)
  intro text read here
  apply Endures.bind (Region.given here)
  intro _ checked here
  apply Endures.bind (region.idles here rfl)
  intro locked _ here
  split
  · apply Endures.bind (region.idles here rfl)
    intro main _ here
    split
    · exact Endures.pure here
    · exact Endures.throw here
  · exact Endures.throw here

end Region

end Updater
end KrakenUi
