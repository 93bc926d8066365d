import KrakenUi.Guarantees.UpdateRuns

namespace KrakenUi
namespace Updater

open FileSystem Interaction SourceUpdate

/-!
# Updates that fail

The service works on one update at a time, so an update that keeps to its regions
keeps to them in every run.  Between two updates the status says how the last one
ended, and an update that failed has left the executable as it found it.

That is so in the runs that meet the condition.  There is one that does not: the
new executable is in place, and then it cannot be started.
-/

/-! ## The service -/

section Service

variable {Version : Type} {service : SourceUpdateService Version} {state after : State}

theorem Sound.same (sound : Sound service state) (status : after.status = state.status)
    (disk : after.disk = state.disk) (run : after.run = state.run) : Sound service after := by
  constructor
  · rw [status, disk, run]
    exact sound.undone
  · rw [status, disk, run]
    exact sound.untouched
  · rw [disk, run]
    exact sound.activated

/-- What a failed update has left is what its status says. -/
theorem Early.finishFailed {error : String} (early : Early service (Undone service) state)
    (performs : Performs service state (.tell (.write (.finishFailed error))) () after) :
    Settled service after := by
  have disk : after.disk = state.disk := performs.disk
  have run : after.run = state.run := performs.run
  constructor
  · exact performs.running.trans early.running
  · constructor
    · intro _
      rw [performs.status, disk, run]
      exact ⟨rfl, early.redirect, early.known.binary⟩
    · intro _
      rw [disk, run]
      exact early.known.untouched
    · intro activated
      rw [run, early.fresh] at activated
      cases activated
  · rw [disk]
    apply early.deployed.kept early.known.kept
    rw [early.known.binary]
    exact early.deployed.binary

theorem Settled.release (settled : Settled service state)
    (performs : Performs service state (.tell .release) () after) : Resting service after := by
  have disk : after.disk = state.disk := performs.disk
  refine ⟨performs.running, settled.sound.same performs.status disk performs.run, ?_⟩
  rw [disk]
  exact settled.deployed

theorem early_reset (running : state.running = true) (deployed : Deployed service state.disk)
    (performs : Performs service state (.tell (.write .resetForUpdate)) () after) :
    Early service Begun after := by
  have disk : after.disk = state.disk := performs.disk
  have run : after.run = ⟨state.disk, false, none, false⟩ := performs.run
  constructor
  · exact performs.running.trans running
  · rw [performs.status]
    exact nofun
  · rw [performs.status]
    rfl
  · rw [run]
  · rw [run]
    exact deployed
  · rw [run, disk]
    exact ⟨rfl, rfl⟩

/-- The task of `start`, from the moment at which it has the flag. -/
theorem throughout_updateTask (resting : Resting service state) :
    Throughout (sparing service) (fun state => Sound service state ∧ state.running = true)
      (updateTask service) ((machine service).claim state) (fun _ => Resting service) := by
  have sound : Sound service ((machine service).claim state) := resting.sound.same rfl rfl rfl
  have deployed : Deployed service ((machine service).claim state).disk := resting.deployed
  have last : forall between, Settled service between ->
      Throughout (sparing service) (fun state => Sound service state ∧ state.running = true)
        (Program.perform (S := calls) (.tell .release)) between (fun _ => Resting service) := by
    intro between settled
    refine Throughout.call ⟨settled.sound, settled.running⟩ ?_
    intro _ after acted
    exact Throughout.done (settled.release acted.1)
  refine Throughout.call ⟨sound, rfl⟩ ?_
  intro _ reset acted
  have early : Early service Begun reset := early_reset rfl deployed acted.1
  apply Throughout.bind (tries_runUpdate early)
  intro outcome ended ends
  cases outcome with
  | ok _ => exact last ended ends
  | error error =>
      refine Throughout.call ((region_early _).sound ended ends) ?_
      intro _ failed acted
      exact last failed (ends.finishFailed acted.1)

theorem Created.resting (created : Created service state) : Resting service state where
  running := created.free
  sound := by
    constructor
    · intro failed
      rw [created.idle] at failed
      cases failed
    · intro failed
      rw [created.idle] at failed
      cases failed
    · intro activated
      rw [created.unused] at activated
      cases activated
  deployed := created.deployed

end Service

/-- In every run in which no copy opens the executable, the executable is not
removed, what is activated is what was staged, the server can be shut down and the
new process starts, and a temporary directory inside of the source root can be
removed: at most one update is under way, and whatever has failed is undone. -/
theorem failed_update_undone {Version : Type} (service : SourceUpdateService Version)
    (start : State) (created : Created service start) (config : Exclusive.Config calls State)
    (reached : (machine service).Reaches (sparing service) ⟨start, []⟩ config) :
    config.tasks.length ≤ 1 ∧ Sound service config.state :=
  reached.always created.resting (fun _ resting => resting.sound)
    fun _ resting => throughout_updateTask resting

end Updater

namespace Sample

open FileSystem Interaction SourceUpdate Updater

def bin : Name := ⟨SourceUpdate.ascii "bin", by decide, by decide, by decide, by decide⟩

def stagingName : Name :=
  ⟨SourceUpdate.ascii ".tmpK3w9Zq", by decide, by decide, by decide, by decide⟩

/-- A deployment in `/srv` with the executable `/bin/kraken-ui`. -/
def updater : SourceUpdateService (List Char) where
  sourceRoot := [srv]
  workingDirectory := [srv]
  executableParent := [bin]
  executableName := krakenUiName
  serverHandle := true
  allowUnsignedSourceUpdate := true
  packageVersion := "1.0.0"
  semver :=
    { parse := fun text => .ok text.toList
      stable := fun _ => true
      le := fun left right => !right.lex left fun one other => one.toNat.blt other.toNat
      equal := fun left right => left == right
      text := String.ofList }
  manifest := fun _ => .ok ("kraken-ui", "2.0.0")
  display := fun _ => ""

def unitDisk : Disk := fun path =>
  if path = [] ∨ path = [srv] ∨ path = [bin] then some .directory
  else if path = [srv, cargoToml] ∨ path = [bin, krakenUiName] then
    some (.file (SourceUpdate.ascii "old"))
  else none

def unitState : Updater.State where
  running := false
  status := ⟨.idle, "1.0.0", none, "", false, none⟩
  disk := unitDisk
  run := ⟨unitDisk, false, none, false⟩

def packed : List TarEntry :=
  [archivePath "kraken-ui/Cargo.toml" .regular, archivePath "kraken-ui/Cargo.lock" .regular,
    archivePath "kraken-ui/src/main.rs" .regular]

def unpackedRelease : Listing :=
  .leaf cargoToml (.file (SourceUpdate.ascii "new"))
    (.leaf cargoLock (.file (SourceUpdate.ascii "new"))
      (.directory srcName (.leaf mainRsName (.file (SourceUpdate.ascii "new")) .nil)
        (.directory targetName .nil .nil)))

/-- Where a file is opened for writing. -/
def opens (disk : Disk) (path : Path) : Option Path :=
  match disk.resolve path with
  | .node found =>
      match disk found with
      | some (.file _) => some found
      | _ => none
  | .absent directory name => some (directory ++ [name])
  | .nowhere => none

/-- What `cargo build` makes. -/
def built (disk : Disk) (directory : Path) : Disk :=
  writeFile (createDirs disk (directory ++ [targetName, releaseName])) (stagedBinary directory)
    (SourceUpdate.ascii "built")

/-- The call may be made: there is a place for what it writes. -/
def permitted (disk : Disk) : SourceUpdate.Command -> Bool
  | .copy _ path => opens disk path == some path && path != updater.executable
  | .bail _ => false
  | _ => true

/-- A world in which everything goes well, except perhaps the last step. -/
def react (spawns : Bool) (state : Updater.State) :
    (command : Updater.Command) -> Option (command.Reply × Disk)
  | .ask .fetchLatestRelease => some (.ok ⟨"v2.0.0", false, false⟩, state.disk)
  | .ask (.downloadArchive _) => some (.ok packed, state.disk)
  | .ask (.readToString path) =>
      if (Updater.read state.disk path).isSome then some (.ok "", state.disk) else none
  | .ask (.newTempDir parent) =>
      if state.run.activated = false ∧ state.disk [stagingName] = none ∧ parent = [] then
        some (.ok [stagingName], state.disk.put [stagingName] .directory)
      else none
  | .ask .spawnBlocking => some (.ok (), state.disk)
  | .ask (.file command) =>
      if state.disk [stagingName] = some .directory ∧ permitted state.disk command then
        match SourceUpdate.perform state.disk command with
        | (some reply, after) => some (.ok reply, after)
        | (none, _) => none
      else none
  | .ask (.cargoBuild directory) =>
      if state.disk [stagingName] = some .directory ∧ stagedBinary directory ≠ [stagingName] ∧
          directory.inits.all fun part => (state.disk part).isSome then
        some (.ok ⟨"", "", true⟩, built state.disk directory)
      else none
  | .ask (.readRelease _) => some (.ok unpackedRelease, state.disk)
  | .ask (.copyFile source target) =>
      match Updater.read state.disk source, opens state.disk target with
      | some content, some opened =>
          if state.disk [stagingName] = some .directory ∧ opened ≠ [stagingName] ∧
              opened ≠ updater.executable then
            some (.ok (), state.disk.put opened (.file content))
          else none
      | _, _ => none
  | .ask (.metadata _) => some (.ok (), state.disk)
  | .ask (.setPermissions _) => some (.ok (), state.disk)
  | .ask (.removeFile _) => none
  | .ask (.rename source target) =>
      match state.disk source with
      | some (.file content) =>
          if state.disk [stagingName] = some .directory ∧ target ≠ [stagingName] ∧
              state.disk target ≠ some .directory ∧
              (target = updater.executable -> state.run.staged = some content) then
            some (.ok (), move state.disk source target)
          else none
      | _ => none
  | .ask (.spawnReplacement _ _) =>
      some (if spawns then .ok () else .error "No such file or directory", state.disk)
  | .tell (.write change) =>
      match change with
      | .resetForUpdate => if state.run.activated then none else some ((), state.disk)
      | _ => some ((), state.disk)
  | .tell .release => some ((), state.disk)
  | .tell (.isFile path) => some ((Updater.read state.disk path).isSome, state.disk)
  | .tell (.pathExists path) => some (state.disk.leads path, state.disk)
  | .tell (.renameBack _ _) => none
  | .tell (.removeTempDir path) =>
      if state.run.activated then
        some (true, fun other => if path.isPrefixOf other then none else state.disk other)
      else none
  | .tell (.sleep _) => some ((), state.disk)
  | .tell .shutdown => some ((), state.disk)

def enactUpdate (spawns : Bool) (state : Updater.State) (command : Updater.Command) :
    Option (command.Reply × Updater.State) :=
  (react spawns state command).map fun result =>
    (result.1, ⟨flag state.running command, written state.status command, result.2,
      remembered updater state command result.1⟩)

def updated (spawns : Bool) : Option Updater.State :=
  Exclusive.finish (enactUpdate spawns) (updateTask updater) { unitState with running := true }

theorem opens_iff {disk : Disk} {path found : Path} :
    opens disk path = some found ↔ Opens disk path found := by
  unfold opens Opens
  constructor
  · intro opened
    split at opened
    · rename_i place resolved
      split at opened
      · rename_i content there
        cases opened
        exact Or.inl ⟨resolved, content, there⟩
      · cases opened
    · rename_i directory name resolved
      cases opened
      exact Or.inr ⟨directory, name, resolved, rfl⟩
    · cases opened
  · rintro (⟨resolved, old, there⟩ | ⟨directory, name, resolved, rfl⟩)
    · rw [resolved]
      dsimp only
      rw [there]
    · rw [resolved]

/-- The temporary directory is there, or nothing has been written yet. -/
def Lawful (state : Updater.State) : Prop :=
  state.run.activated = true ∨ state.disk [stagingName] = some .directory ∨ state.disk = unitDisk

theorem fresh_staging {path : Path} (below : [stagingName] <+: path) : unitDisk path = none := by
  rcases below with ⟨rest, rfl⟩
  unfold unitDisk
  rw [if_neg, if_neg]
  · rintro (same | same)
    · exact absurd (List.cons_eq_cons.mp same).1 (by decide)
    · exact absurd (List.cons_eq_cons.mp same).1 (by decide)
  · rintro (same | same | same)
    · cases same
    · exact absurd (List.cons_eq_cons.mp same).1 (by decide)
    · exact absurd (List.cons_eq_cons.mp same).1 (by decide)

section World

variable {spawns : Bool} {state : Updater.State}

theorem perform_everywhere {disk after : Disk} {command : SourceUpdate.Command}
    {reply : command.Reply} (allowed : permitted disk command = true)
    (performed : SourceUpdate.perform disk command = (some reply, after)) :
    everywhere disk command after := by
  cases command with
  | bail message => cases allowed
  | readEntry =>
      cases performed
      rfl
  | readDir =>
      cases performed
      rfl
  | pathExists path =>
      cases performed
      rfl
  | isSymlink path =>
      cases performed
      rfl
  | unpack entry path => exact True.intro
  | createDirAll path =>
      simp only [SourceUpdate.perform] at performed
      split at performed
      · cases performed
        have creates := createDirs_creates disk path
        exact ⟨creates.kept, fun other missing =>
          (creates.created other missing).imp_right And.left⟩
      · cases performed
  | copy content path =>
      simp only [SourceUpdate.perform] at performed
      split at performed
      · cases performed
      · cases performed
        simp only [permitted, Bool.and_eq_true, beq_iff_eq] at allowed
        exact Or.inl ⟨path, opens_iff.mp allowed.1, rfl⟩

/-- A directory stays one. -/
theorem perform_directory {disk after : Disk} {command : SourceUpdate.Command}
    {reply : command.Reply} {path : Path} (directory : disk path = some .directory)
    (performed : SourceUpdate.perform disk command = (some reply, after)) :
    after path = some .directory := by
  cases command with
  | bail message => cases performed
  | readEntry =>
      cases performed
      exact directory
  | readDir =>
      cases performed
      exact directory
  | pathExists path =>
      cases performed
      exact directory
  | isSymlink path =>
      cases performed
      exact directory
  | createDirAll other =>
      simp only [SourceUpdate.perform] at performed
      split at performed
      · cases performed
        exact (createDirs_creates disk other).kept path _ directory
      · cases performed
  | copy content other =>
      simp only [SourceUpdate.perform] at performed
      split at performed
      · cases performed
      · rename_i file
        cases performed
        have different : path ≠ other := by
          rintro rfl
          exact file directory
        exact (writeFile_elsewhere path different).trans directory
  | unpack entry other =>
      simp only [SourceUpdate.perform] at performed
      split at performed
      · cases performed
      · rename_i file
        cases performed
        have different : path ≠ other := by
          rintro rfl
          exact file (Or.inl directory)
        exact (writeFile_elsewhere path different).trans directory

theorem built_elsewhere {disk : Disk} {directory : Path}
    (there : forall part, part <+: directory -> (disk part).isSome = true) {path : Path}
    (outside : ¬ directory <+: path) : built disk directory path = disk path := by
  have other : path ≠ stagedBinary directory := by
    rintro rfl
    exact outside (List.prefix_append _ _)
  unfold built
  rw [writeFile_elsewhere path other]
  have creates := createDirs_creates disk (directory ++ [targetName, releaseName])
  cases found : disk path with
  | some node => exact creates.kept path node found
  | none =>
      rcases creates.created path found with missing | ⟨-, isPart⟩
      · exact missing
      · rcases List.prefix_or_prefix_of_prefix isPart (List.prefix_append _ _) with above | inside
        · have impossible := there path above
          rw [found] at impossible
          cases impossible
        · exact absurd inside outside

/-- What the world does is what the commands do. -/
theorem react_touches {command : Updater.Command} {reply : command.Reply} {after : Disk}
    (lawful : Lawful state) (reacted : react spawns state command = some (reply, after)) :
    touches state.disk command reply after := by
  cases command with
  | tell order =>
      cases order with
      | write change =>
          cases change with
          | resetForUpdate =>
              simp only [react] at reacted
              split at reacted
              · cases reacted
              · cases reacted
                rfl
          | _ =>
              cases reacted
              rfl
      | release =>
          cases reacted
          rfl
      | isFile path =>
          cases reacted
          exact ⟨rfl, id⟩
      | pathExists path =>
          cases reacted
          exact ⟨rfl, id⟩
      | renameBack source target => cases reacted
      | removeTempDir path =>
          rcases Option.ite_none_right_eq_some.mp reacted with ⟨-, same⟩
          cases same
          refine ⟨?_, ?_, ?_⟩
          · intro other outside
            exact if_neg fun below => outside (List.isPrefixOf_iff_prefix.mp below)
          · intro other below
            exact Or.inr (if_pos (List.isPrefixOf_iff_prefix.mpr below))
          · intro _ other below
            exact if_pos (List.isPrefixOf_iff_prefix.mpr below)
      | sleep milliseconds =>
          cases reacted
          rfl
      | shutdown =>
          cases reacted
          rfl
  | ask request =>
      cases request with
      | fetchLatestRelease =>
          cases reacted
          rfl
      | downloadArchive tag =>
          cases reacted
          rfl
      | readToString path =>
          rcases Option.ite_none_right_eq_some.mp reacted with ⟨there, same⟩
          cases same
          exact ⟨rfl, there⟩
      | newTempDir parent =>
          rcases Option.ite_none_right_eq_some.mp reacted with ⟨⟨unused, missing, rfl⟩, same⟩
          cases same
          intro _
          refine ⟨⟨stagingName, rfl, by decide⟩, ?_, rfl⟩
          rcases lawful with activated | directory | start
          · rw [unused] at activated
            cases activated
          · rw [missing] at directory
            cases directory
          · intro other below
            rw [start]
            exact fresh_staging below
      | spawnBlocking =>
          cases reacted
          rfl
      | file command =>
          rcases Option.ite_none_right_eq_some.mp reacted with ⟨allowed, outcome⟩
          have acted := perform_effect state.disk command
          cases performed : SourceUpdate.perform state.disk command with
          | mk result disk =>
              rw [performed] at outcome acted
              cases result with
              | none => cases outcome
              | some answer =>
                  cases outcome
                  exact ⟨acted, perform_everywhere allowed.2 performed⟩
      | cargoBuild directory =>
          rcases Option.ite_none_right_eq_some.mp reacted with ⟨allowed, same⟩
          cases same
          intro path outside
          apply built_elsewhere _ outside
          intro part above
          exact List.all_eq_true.mp allowed.2.2 part ((List.mem_inits part directory).mpr above)
      | readRelease directory =>
          cases reacted
          rfl
      | copyFile source target =>
          simp only [react] at reacted
          split at reacted
          · rename_i content opened there place
            rcases Option.ite_none_right_eq_some.mp reacted with ⟨-, same⟩
            cases same
            exact ⟨content, there, Or.inl ⟨opened, opens_iff.mp place, rfl⟩⟩
          · cases reacted
      | metadata path =>
          cases reacted
          rfl
      | setPermissions path =>
          cases reacted
          rfl
      | removeFile path => cases reacted
      | rename source target =>
          simp only [react] at reacted
          split at reacted
          · rename_i content there
            rcases Option.ite_none_right_eq_some.mp reacted with ⟨allowed, same⟩
            cases same
            intro _ _
            exact ⟨_, there, fun _ => ⟨allowed.2.2.1, rfl⟩⟩
          · cases reacted
      | spawnReplacement executable directory =>
          cases spawns with
          | false =>
              cases reacted
              rfl
          | true =>
              cases reacted
              rfl

/-- Where the last step succeeds the condition is met. -/
theorem react_spares {command : Updater.Command} {reply : command.Reply} {after : Disk}
    (reacted : react true state command = some (reply, after)) :
    Spares updater state command reply := by
  cases command with
  | tell order =>
      cases order with
      | removeTempDir path =>
          rcases Option.ite_none_right_eq_some.mp reacted with ⟨-, same⟩
          cases same
          exact Or.inl rfl
      | _ => exact True.intro
  | ask request =>
      cases request with
      | file command =>
          rcases Option.ite_none_right_eq_some.mp reacted with ⟨allowed, outcome⟩
          cases command with
          | copy content path =>
              have place := allowed.2
              simp only [permitted, Bool.and_eq_true, beq_iff_eq, bne_iff_ne] at place
              cases reply with
              | error error => exact True.intro
              | ok answer =>
                  intro opened
                  have same := opens_iff.mpr opened
                  rw [place.1] at same
                  exact place.2 (Option.some.inj same)
          | _ =>
              cases reply with
              | error error => exact True.intro
              | ok answer => exact True.intro
      | copyFile source target =>
          simp only [react] at reacted
          split at reacted
          · rename_i content opened there place
            rcases Option.ite_none_right_eq_some.mp reacted with ⟨allowed, same⟩
            cases same
            intro other
            rw [opens_iff.mpr other] at place
            exact allowed.2.2 (Option.some.inj place).symm
          · cases reacted
      | removeFile path => cases reacted
      | rename source target =>
          simp only [react] at reacted
          split at reacted
          · rename_i content there
            rcases Option.ite_none_right_eq_some.mp reacted with ⟨allowed, same⟩
            cases same
            rintro rfl
            exact ⟨by decide, rfl, content, allowed.2.2.2 rfl, there⟩
          · cases reacted
      | spawnReplacement executable directory =>
          cases reacted
          rfl
      | _ =>
          cases reply with
          | error error => exact True.intro
          | ok answer => exact True.intro

theorem lawful_of_directory {run : Run} {running : Bool} {status : UpdateStatus} {disk : Disk}
    (directory : disk [stagingName] = some .directory) : Lawful ⟨running, status, disk, run⟩ :=
  Or.inr (Or.inl directory)

theorem Lawful.same {run : Run} {running : Bool} {status : UpdateStatus} (lawful : Lawful state)
    (activated : run.activated = state.run.activated) :
    Lawful ⟨running, status, state.disk, run⟩ := by
  unfold Lawful at lawful ⊢
  rw [activated]
  exact lawful

/-- The temporary directory stays until the executable is activated. -/
theorem react_lawful {command : Updater.Command} {reply : command.Reply} {after : Disk}
    (lawful : Lawful state) (reacted : react spawns state command = some (reply, after)) :
    Lawful ⟨flag state.running command, written state.status command, after,
      remembered updater state command reply⟩ := by
  cases command with
  | tell order =>
      cases order with
      | write change =>
          cases change with
          | resetForUpdate =>
              simp only [react] at reacted
              split at reacted
              · cases reacted
              · rename_i unused
                cases reacted
                exact Or.inr (lawful.resolve_left unused)
          | setPhase phase message =>
              cases reacted
              cases phase with
              | _ => exact lawful.same rfl
          | _ =>
              cases reacted
              exact lawful.same rfl
      | removeTempDir path =>
          rcases Option.ite_none_right_eq_some.mp reacted with ⟨activated, same⟩
          cases same
          exact Or.inl activated
      | renameBack source target => cases reacted
      | _ =>
          cases reacted
          exact lawful.same rfl
  | ask request =>
      cases request with
      | newTempDir parent =>
          rcases Option.ite_none_right_eq_some.mp reacted with ⟨-, same⟩
          cases same
          exact lawful_of_directory (Disk.put_same _)
      | readToString path =>
          rcases Option.ite_none_right_eq_some.mp reacted with ⟨-, same⟩
          cases same
          exact lawful.same rfl
      | file command =>
          rcases Option.ite_none_right_eq_some.mp reacted with ⟨allowed, outcome⟩
          cases performed : SourceUpdate.perform state.disk command with
          | mk result disk =>
              rw [performed] at outcome
              cases result with
              | none => cases outcome
              | some answer =>
                  cases outcome
                  exact lawful_of_directory (perform_directory allowed.1 performed)
      | cargoBuild directory =>
          rcases Option.ite_none_right_eq_some.mp reacted with ⟨allowed, same⟩
          cases same
          apply lawful_of_directory
          unfold built
          rw [writeFile_elsewhere _ allowed.2.1.symm]
          exact (createDirs_creates _ _).kept _ _ allowed.1
      | copyFile source target =>
          simp only [react] at reacted
          split at reacted
          · rcases Option.ite_none_right_eq_some.mp reacted with ⟨allowed, same⟩
            cases same
            apply lawful_of_directory
            rw [Disk.put_other allowed.2.1.symm]
            exact allowed.1
          · cases reacted
      | removeFile path => cases reacted
      | rename source target =>
          simp only [react] at reacted
          split at reacted
          · rename_i content there
            rcases Option.ite_none_right_eq_some.mp reacted with ⟨allowed, same⟩
            cases same
            exact lawful_of_directory (kept_move there nofun allowed.2.2.1 _ allowed.1)
          · cases reacted
      | spawnReplacement executable directory =>
          cases spawns with
          | false =>
              cases reacted
              exact lawful.same rfl
          | true =>
              cases reacted
              exact lawful.same rfl
      | _ =>
          cases reacted
          exact lawful.same rfl

theorem enactUpdate_acts {command : Updater.Command} {reply : command.Reply} {after : Updater.State}
    (lawful : Lawful state) (enacted : enactUpdate spawns state command = some (reply, after)) :
    (acts updater state command reply after ∧
      (spawns = true -> Spares updater state command reply)) ∧ Lawful after := by
  rcases Option.map_eq_some_iff.mp enacted with ⟨⟨answer, disk⟩, reacted, same⟩
  cases same
  refine ⟨⟨⟨rfl, rfl, react_touches lawful reacted, rfl⟩, ?_⟩, react_lawful lawful reacted⟩
  rintro rfl
  exact react_spares reacted

theorem created : Created updater unitState where
  free := rfl
  idle := rfl
  unused := rfl
  deployed := by
    have root : unitDisk.Rooted [] := by
      intro part above
      rw [List.prefix_nil.mp above]
      rfl
    exact ⟨root, Disk.Rooted.append root (by decide), ⟨SourceUpdate.ascii "old", by decide⟩⟩

/-- The update can be run to its end without anything else happening. -/
theorem reaches_updated {relation : Acts Updater.calls Updater.State} {last : Updater.State}
    (acted : forall state command reply after, Lawful state ->
      enactUpdate spawns state command = some (reply, after) ->
        relation state command reply after ∧ Lawful after)
    (finished : updated spawns = some last) :
    (machine updater).Reaches relation ⟨unitState, []⟩ ⟨last, []⟩ := by
  have moved := Exclusive.Reaches.next
    (@Exclusive.Reaches.here _ _ (machine updater) relation ⟨unitState, []⟩)
    (@Exclusive.Moves.started _ _ _ _ ⟨unitState, []⟩ rfl)
  rw [List.append_nil] at moved
  exact Exclusive.reaches_finish acted (Or.inr (Or.inr rfl)) moved finished

/-- What matters of the state at the end. -/
def seen (spawns : Bool) : Option (UpdatePhase × Option Nat × Option Node × Option Node) :=
  (updated spawns).map fun state => (state.status.phase, state.status.redirectAfterSeconds,
    state.disk updater.executable, state.disk updater.previous)

/-- An update that goes well. -/
theorem failed_update_undone_installed :
    Exists fun state : Updater.State => state.status.phase = .restarting ∧
      state.disk updater.executable = some (.file (SourceUpdate.ascii "built")) ∧
      state.disk updater.previous = some (.file (SourceUpdate.ascii "old")) ∧
      Sound updater state := by
  have all : seen true = some (.restarting, some 120, some (.file (SourceUpdate.ascii "built")),
      some (.file (SourceUpdate.ascii "old"))) := by decide +kernel
  rcases Option.map_eq_some_iff.mp all with ⟨last, finished, same⟩
  have reached : (machine updater).Reaches (sparing updater) ⟨unitState, []⟩ ⟨last, []⟩ := by
    apply reaches_updated _ finished
    intro state command reply after lawful enacted
    have one := enactUpdate_acts lawful enacted
    exact ⟨⟨one.1.1, one.1.2 rfl⟩, one.2⟩
  have result := failed_update_undone updater unitState created _ reached
  injection same with phase rest
  injection rest with redirect rest
  injection rest with executable previous
  exact ⟨last, phase, executable, previous, result.2⟩

/-- The new executable is in place and cannot be started: the update fails, the page
is still told to redirect, and nothing is undone. -/
theorem replacement_not_started :
    ¬ forall (service : SourceUpdateService (List Char)) (start : Updater.State),
      Created service start ->
      forall config : Exclusive.Config Updater.calls Updater.State,
        (machine service).Reaches (acts service) ⟨start, []⟩ config ->
          config.tasks.length ≤ 1 ∧ Sound service config.state := by
  intro always
  have all : seen false = some (.failed, some 120, some (.file (SourceUpdate.ascii "built")),
      some (.file (SourceUpdate.ascii "old"))) := by decide +kernel
  rcases Option.map_eq_some_iff.mp all with ⟨last, finished, same⟩
  have reached : (machine updater).Reaches (acts updater) ⟨unitState, []⟩ ⟨last, []⟩ := by
    apply reaches_updated _ finished
    intro state command reply after lawful enacted
    have one := enactUpdate_acts lawful enacted
    exact ⟨one.1.1, one.2⟩
  have sound := (always updater unitState created _ reached).2
  injection same with phase rest
  injection rest with redirect rest
  have undone := sound.undone phase
  rw [redirect] at undone
  cases undone.2.1

end World

end Sample
end KrakenUi
