import KrakenUi.Guarantees.UpdateRules

namespace KrakenUi
namespace Updater

open FileSystem Interaction SourceUpdate

/-!
# The runs of an update

An update passes through a few regions.  Up to the installation everything that
changes lies in the temporary directory, which did not exist before.  From there on
the directories that were there stay, and the executable stays until it is moved
aside.  The renaming that activates the new one either succeeds or is undone.
-/

/-! ## What is known at each point -/

section Regions

variable {Version : Type} (service : SourceUpdateService Version)

/-- An update that has not activated anything, with what is known of the disk. -/
structure Early (known : Run -> Disk -> Prop) (state : State) : Prop where
  running : state.running = true
  phase : state.status.phase ≠ .failed
  redirect : state.status.redirectAfterSeconds = none
  fresh : state.run.activated = false
  deployed : Deployed service state.run.opened
  known : known state.run state.disk

/-- A directory that the update has made for itself. -/
structure Vacant (staging : Path) (opened : Disk) : Prop where
  place : Exists fun name : Name =>
    staging = service.stagingParent ++ [name] ∧ name.extension = none
  fresh : forall path, staging <+: path -> opened path = none

def Begun (run : Run) (disk : Disk) : Prop :=
  run.installing = false ∧ disk = run.opened

structure Unfilled (staging : Path) (run : Run) (disk : Disk) : Prop where
  installing : run.installing = false
  vacant : Vacant service staging run.opened
  made : disk = run.opened.put staging .directory

structure Staging (staging : Path) (run : Run) (disk : Disk) : Prop where
  installing : run.installing = false
  vacant : Vacant service staging run.opened
  outside : forall path, ¬ staging <+: path -> disk path = run.opened path

/-- No directory is missing. -/
def Kept (opened disk : Disk) : Prop :=
  forall path, opened path = some .directory -> disk path = some .directory

structure Installing (staging : Path) (run : Run) (disk : Disk) : Prop where
  installing : run.installing = true
  vacant : Vacant service staging run.opened
  kept : Kept run.opened disk
  binary : disk service.executable = run.opened service.executable

/-- The executable has been moved aside. -/
structure Aside (staging : Path) (run : Run) (disk : Disk) : Prop where
  installing : run.installing = true
  vacant : Vacant service staging run.opened
  kept : Kept run.opened disk
  binary : disk service.previous = run.opened service.executable
  missing : disk service.executable = none

/-- What an update that has failed leaves. -/
structure Undone (run : Run) (disk : Disk) : Prop where
  kept : Kept run.opened disk
  binary : disk service.executable = run.opened service.executable
  untouched : run.installing = false -> forall path, Installed service path ->
    disk path = run.opened path

/-- The new executable is in place. -/
structure Late (known : Run -> Disk -> Prop) (state : State) : Prop where
  running : state.running = true
  phase : state.status.phase ≠ .failed
  deployed : Deployed service state.run.opened
  kept : Kept state.run.opened state.disk
  staged : Exists fun content => state.run.staged = some content ∧
    state.disk service.executable = some (.file content)
  previous : state.disk service.previous = state.run.opened service.executable
  known : known state.run state.disk

/-- The update is over in one way or the other. -/
structure Settled (state : State) : Prop where
  running : state.running = true
  sound : Sound service state
  deployed : Deployed service state.disk

/-- No update is under way. -/
structure Resting (state : State) : Prop where
  running : state.running = false
  sound : Sound service state
  deployed : Deployed service state.disk

end Regions

section Facts

variable {Version : Type} {service : SourceUpdateService Version} {before after state : State}
  {known later : Run -> Disk -> Prop} {staging : Path} {opened disk : Disk}

theorem region_early (known : Run -> Disk -> Prop) : Region service (Early service known) where
  sound := by
    intro state early
    refine ⟨⟨?_, ?_, ?_⟩, early.running⟩
    · intro failed
      exact absurd failed early.phase
    · intro failed
      exact absurd failed early.phase
    · intro activated
      rw [early.fresh] at activated
      cases activated
  idle := by
    intro before after early idle
    constructor
    · exact idle.running.trans early.running
    · exact idle.phase early.phase
    · exact idle.redirect.trans early.redirect
    · rw [idle.run]
      exact early.fresh
    · rw [idle.run]
      exact early.deployed
    · rw [idle.run, idle.disk]
      exact early.known

theorem region_late (known : Run -> Disk -> Prop) : Region service (Late service known) where
  sound := by
    intro state late
    refine ⟨⟨?_, ?_, ?_⟩, late.running⟩
    · intro failed
      exact absurd failed late.phase
    · intro failed
      exact absurd failed late.phase
    · intro _
      exact ⟨late.staged, late.previous⟩
  idle := by
    intro before after late idle
    constructor
    · exact idle.running.trans late.running
    · exact idle.phase late.phase
    · rw [idle.run]
      exact late.deployed
    · rw [idle.run, idle.disk]
      exact late.kept
    · rw [idle.run, idle.disk]
      exact late.staged
    · rw [idle.run, idle.disk]
      exact late.previous
    · rw [idle.run, idle.disk]
      exact late.known

/-- From one region to the next while nothing is written down. -/
theorem Early.onward (early : Early service known before)
    (running : after.running = before.running) (status : after.status = before.status)
    (run : after.run = before.run) (reached : later before.run after.disk) :
    Early service later after where
  running := running.trans early.running
  phase := by
    rw [status]
    exact early.phase
  redirect := by
    rw [status]
    exact early.redirect
  fresh := by
    rw [run]
    exact early.fresh
  deployed := by
    rw [run]
    exact early.deployed
  known := by
    rw [run]
    exact reached

/-- From one region to the next by a request. -/
theorem Early.next {request : Request} {answer : request.Answer}
    (early : Early service known before)
    (performs : Performs service before (.ask request) (.ok answer) after)
    (opened : after.run.opened = before.run.opened) (fresh : after.run.activated = false)
    (reached : later after.run after.disk) : Early service later after where
  running := performs.running.trans early.running
  phase := by
    rw [performs.status]
    exact early.phase
  redirect := by
    rw [performs.status]
    exact early.redirect
  fresh := fresh
  deployed := by
    rw [opened]
    exact early.deployed
  known := reached

theorem Early.mono (early : Early service known state)
    (implies : known state.run state.disk -> later state.run state.disk) :
    Early service later state where
  running := early.running
  phase := early.phase
  redirect := early.redirect
  fresh := early.fresh
  deployed := early.deployed
  known := implies early.known

/-- What lies below the new directory was not there. -/
theorem Vacant.outside_of_some (vacant : Vacant service staging opened) {path : Path} {node : Node}
    (found : opened path = some node) : ¬ staging <+: path := by
  intro below
  rw [vacant.fresh path below] at found
  cases found

/-- The names beside the executable that have an extension are not below it. -/
theorem Vacant.outside_beside (vacant : Vacant service staging opened)
    (deployed : Deployed service opened) {name : Name} (ends : name.extension ≠ none) :
    ¬ staging <+: service.executableParent ++ [name] := by
  intro below
  rcases List.prefix_concat_iff.mp below with same | above
  · rcases vacant.place with ⟨other, rfl, plain⟩
    have names := List.append_inj_right' same rfl
    cases names
    exact ends plain
  · exact vacant.outside_of_some (deployed.beside _ (List.prefix_refl _)) above

theorem prepared_eq : service.prepared =
    service.executableParent ++ [service.executableName.withExtension updateNew] :=
  withExtension_concat _ _ _

theorem previous_eq : service.previous =
    service.executableParent ++ [service.executableName.withExtension updatePrevious] :=
  withExtension_concat _ _ _

theorem prepared_ne_previous : service.prepared ≠ service.previous := by
  rw [prepared_eq, previous_eq]
  intro same
  have names := List.append_inj_right' same rfl
  have extensions := congrArg (List.map Name.extension) names
  rw [List.map_singleton, List.map_singleton, Name.extension_withExtension,
    Name.extension_withExtension] at extensions
  revert extensions
  decide

theorem Vacant.outside_executable (vacant : Vacant service staging opened)
    (deployed : Deployed service opened) : ¬ staging <+: service.executable := by
  rcases deployed.binary with ⟨content, found⟩
  exact vacant.outside_of_some found

theorem Vacant.outside_prepared (vacant : Vacant service staging opened)
    (deployed : Deployed service opened) : ¬ staging <+: service.prepared := by
  rw [prepared_eq]
  apply vacant.outside_beside deployed
  rw [Name.extension_withExtension]
  exact nofun

theorem Vacant.outside_previous (vacant : Vacant service staging opened)
    (deployed : Deployed service opened) : ¬ staging <+: service.previous := by
  rw [previous_eq]
  apply vacant.outside_beside deployed
  rw [Name.extension_withExtension]
  exact nofun

/-- The new directory is beside the source root, unless that is the root itself. -/
theorem Vacant.outside_source (vacant : Vacant service staging opened)
    (apart : ¬ service.sourceRoot <+: staging) {path : Path}
    (inside : service.sourceRoot <+: path) :
    ¬ staging <+: path := by
  intro below
  rcases List.prefix_or_prefix_of_prefix inside below with under | above
  · exact apart under
  · rcases vacant.place with ⟨name, rfl, -⟩
    apply apart
    unfold SourceUpdateService.stagingParent at above ⊢
    split at above
    · rename_i root
      rw [root]
      exact List.nil_prefix
    · rename_i nonempty
      rw [if_neg nonempty]
      have long := List.length_pos_of_ne_nil nonempty
      have same : service.sourceRoot.dropLast ++ [name] = service.sourceRoot := by
        apply above.eq_of_length
        rw [List.length_append, List.length_dropLast, List.length_singleton]
        omega
      rw [same]

theorem Deployed.kept (deployed : Deployed service opened) (kept : Kept opened disk)
    (binary : Exists fun content => disk service.executable = some (.file content)) :
    Deployed service disk where
  staging := fun part above => kept part (deployed.staging part above)
  beside := fun part above => kept part (deployed.beside part above)
  binary := binary

theorem Staging.kept {run : Run} (staged : Staging service staging run disk) :
    Kept run.opened disk := by
  intro path found
  rw [staged.outside path (staged.vacant.outside_of_some found)]
  exact found

theorem Kept.trans {between : Disk} (first : Kept opened between) (second : Kept between disk) :
    Kept opened disk :=
  fun path found => second path (first path found)

end Facts

/-! ## Staging -/

section Stage

variable {Version : Type} {service : SourceUpdateService Version} {before after state : State}
  {staging : Path}

theorem tries_newTempDir (early : Early service Begun state) (context : String) :
    Tries service (askFor context (.newTempDir service.stagingParent)) state
      (fun staging => Early service (Unfilled service staging)) (Early service Begun) := by
  apply (region_early Begun).askFor context early
  intro staging after performs _
  rcases early.known with ⟨installing, same⟩
  have rooted : state.disk.Rooted service.stagingParent := same ▸ early.deployed.staging
  rcases performs.disk rooted with ⟨place, fresh, made⟩
  apply early.onward performs.running performs.status performs.run
  exact ⟨installing, ⟨place, same ▸ fresh⟩, same ▸ made⟩

theorem Unfilled.missing {run : Run} {disk : Disk} (empty : Unfilled service staging run disk) :
    run.opened staging = none :=
  empty.vacant.fresh staging (List.prefix_refl _)

theorem Unfilled.rooted (deployed : Deployed service state.run.opened)
    (empty : Unfilled service staging state.run state.disk) : state.disk.Rooted staging := by
  rcases empty.vacant.place with ⟨name, rfl, -⟩
  rw [empty.made]
  apply Disk.Rooted.append
  · exact (Disk.extends_create empty.missing .directory).rooted deployed.staging
  · exact Disk.put_same _

/-- The place of the unpacked source in the temporary directory. -/
def unpacking (deployed : Deployed service state.run.opened)
    (empty : Unfilled service staging state.run state.disk) : Vacancy where
  parent := staging
  name := sourceName
  initial := state.disk
  rooted := empty.rooted deployed
  fresh := by
    intro path below
    apply Or.inl
    have different : path ≠ staging := by
      rintro rfl
      have short := below.length_le
      rw [List.length_append, List.length_singleton] at short
      omega
    rw [empty.made, Disk.put_other different]
    exact empty.vacant.fresh path ((List.prefix_append _ _).trans below)

theorem tries_unpack (archive : List TarEntry)
    (early : Early service (Unfilled service staging) state) :
    Tries service (onFiles (unpackReleaseArchive archive (staging ++ [sourceName]))) state
      (fun _ => Early service (Staging service staging))
        (Early service (Staging service staging)) := by
  let vacancy := unpacking early.deployed early.known
  have filling : forall after, Early service (fun run disk =>
      run = state.run ∧ vacancy.Filled archive disk) after ->
        Early service (Staging service staging) after := by
    intro after filled
    apply filled.mono
    rintro ⟨same, inside⟩
    rw [same]
    refine ⟨early.known.installing, early.known.vacant, ?_⟩
    intro path foreign
    rw [inside.outside path fun below => foreign ((List.prefix_append _ _).trans below)]
    change state.disk path = _
    rw [early.known.made]
    apply Disk.put_other
    rintro rfl
    exact foreign (List.prefix_refl _)
  apply Endures.mono (Endures.within _ (only_unpackReleaseArchive vacancy.destination archive) _)
  · intro _
    exact filling
  · exact filling
  · intro command between inward filled
    apply (region_early _).ask filled
    intro reply after performs _
    apply filled.onward performs.running performs.status performs.run
    exact ⟨filled.known.1, filled.known.2.step inward performs.disk.1⟩
  · exact early.mono fun _ => ⟨rfl, Vacancy.filled_initial vacancy archive⟩

theorem tries_cargoBuild (context : String)
    (early : Early service (Staging service staging) state) :
    Tries service (askFor context (.cargoBuild (staging ++ [sourceName]))) state
      (fun _ => Early service (Staging service staging))
      (Early service (Staging service staging)) := by
  apply (region_early _).askFor context early
  intro output after performs _
  apply early.onward performs.running performs.status performs.run
  refine ⟨early.known.installing, early.known.vacant, ?_⟩
  intro path foreign
  rw [performs.disk path fun below => foreign ((List.prefix_append _ _).trans below)]
  exact early.known.outside path foreign

theorem tries_compile (early : Early service (Staging service staging) state) :
    Tries service (compile service (staging ++ [sourceName])) state
      (fun _ => Early service (Staging service staging))
      (Early service (Staging service staging)) := by
  have region : Region service (Early service (Staging service staging)) := region_early _
  apply Endures.bind (tries_cargoBuild _ early)
  intro output built here
  apply Endures.bind (region.idles here rfl)
  intro _ written here
  split
  · apply Endures.bind (region.idles here rfl)
    intro found _ here
    split
    · exact Endures.pure here
    · exact Endures.throw here
  · exact Endures.throw here

theorem tries_stageRelease (target : Version) (archive : List TarEntry)
    (early : Early service (Unfilled service staging) state) :
    Tries service (stageRelease service target archive (staging ++ [sourceName])) state
      (fun _ => Early service (Staging service staging))
      (Early service (Staging service staging)) := by
  have region : Region service (Early service (Staging service staging)) := region_early _
  have staged : forall after, Early service (Unfilled service staging) after ->
      Early service (Staging service staging) after := by
    intro after empty
    apply empty.mono
    intro known
    refine ⟨known.installing, known.vacant, ?_⟩
    intro path foreign
    rw [known.made]
    apply Disk.put_other
    rintro rfl
    exact foreign (List.prefix_refl _)
  apply Endures.bind
  · exact ((region_early _).readsFor _ early rfl).mono (fun _ _ here => here) staged
  intro _ begun here
  apply Endures.bind (tries_unpack archive here)
  intro _ unpacked here
  apply Endures.bind (region.validateStagedRelease _ _ here)
  intro _ validated here
  apply Endures.bind (region.idles here rfl)
  intro _ written here
  exact tries_compile here

end Stage

/-! ## Installing -/

section Install

variable {Version : Type} {service : SourceUpdateService Version} {state : State} {staging : Path}
  {before after : Disk}

/-- The calls of a copy. -/
def Copying : SourceUpdate.Command -> Prop
  | .unpack _ _ => False
  | _ => True

theorem only_ensureSafeFrom (names : List Name) (here : Path) :
    (ensureSafeFrom here names).Only Copying := by
  induction names generalizing here with
  | nil => exact Program.only_pure (S := SourceUpdate.calls) _ ()
  | cons name rest inductionHypothesis =>
      apply only_call True.intro
      intro there
      split
      · apply only_call True.intro
        intro symbolic
        split
        · exact only_call True.intro fun reply => Empty.elim reply
        · exact inductionHypothesis _
      · exact inductionHypothesis _

theorem only_visit {destination relative : Path} {install : Path -> SourceUpdate.Task Unit}
    (only : forall target, (install target).Only Copying) :
    (visit destination relative install).Only Copying := by
  apply Program.Only.bind
  · unfold protectedPath
    split
    · exact Program.only_pure (S := SourceUpdate.calls) _ _
    · apply only_call True.intro
      intro there
      split
      · exact Program.only_pure (S := SourceUpdate.calls) _ _
      · exact Program.only_pure (S := SourceUpdate.calls) _ _
  · intro shielded
    split
    · exact Program.only_pure (S := SourceUpdate.calls) _ ()
    · apply Program.Only.bind
      · unfold ensureDestinationSafe
        split
        · exact only_ensureSafeFrom _ _
        · exact only_call True.intro fun reply => Empty.elim reply
      · intro _
        exact only _

theorem only_installLeaf (kind : Leaf) (target : Path) :
    (installLeaf kind target).Only Copying := by
  cases kind with
  | file content =>
      apply only_call True.intro
      intro _
      exact (Program.only_perform (S := SourceUpdate.calls) _ _).mpr True.intro
  | link => exact Program.only_pure (S := SourceUpdate.calls) _ ()
  | special => exact Program.only_pure (S := SourceUpdate.calls) _ ()

theorem only_copyEntries (destination : Path) (listing : Listing) (relative : Path) :
    (copyEntries destination relative listing).Only Copying := by
  induction listing generalizing relative with
  | nil => exact Program.only_pure (S := SourceUpdate.calls) _ ()
  | leaf name kind rest inductionHypothesis =>
      apply only_call True.intro
      intro _
      split
      · exact only_call True.intro fun reply => Empty.elim reply
      · apply (only_visit fun target => only_installLeaf kind target).bind
        intro _
        exact inductionHypothesis relative
  | directory name entries rest insideHypothesis inductionHypothesis =>
      apply only_call True.intro
      intro _
      apply Program.Only.bind
      · apply only_visit
        intro target
        apply only_call True.intro
        intro _
        apply only_call True.intro
        intro _
        exact insideHypothesis _
      · intro _
        exact inductionHypothesis relative

theorem only_copyReleaseSource (listing : Listing) (destination : Path) :
    (copyReleaseSource listing destination).Only Copying :=
  only_call True.intro fun _ => only_copyEntries destination listing []

/-- Where nothing is opened nothing changes, and no directory is opened. -/
theorem Overwrites.kept {content : List UInt8} {path : Path}
    (writes : Overwrites content path before after) :
    (forall other, ¬ Opens before path other -> after other = before other) ∧
      Kept before after := by
  rcases writes with ⟨opened, opens, rfl⟩ | ⟨found, -, -, rfl⟩
  · constructor
    · intro other foreign
      apply Disk.put_other
      rintro rfl
      exact foreign opens
    · intro other directory
      have grows : before.Extends (before.put opened (.file content)) :=
        extends_opened opens content
      rcases grows other _ directory with same | ⟨⟨old, impossible⟩, -⟩
      · exact same
      · cases impossible
  · exact ⟨fun _ _ => rfl, fun _ found => found⟩

theorem Installing.change {run : Run} (installing : Installing service staging run before)
    (kept : Kept before after)
    (binary : after service.executable = before service.executable) :
    Installing service staging run after where
  installing := installing.installing
  vacant := installing.vacant
  kept := installing.kept.trans kept
  binary := binary.trans installing.binary

theorem tries_copyFile (context : String) (source target : Path)
    (early : Early service (Installing service staging) state) :
    Tries service (askFor context (.copyFile source target)) state
      (fun _ => Early service (Installing service staging))
      (Early service (Installing service staging)) := by
  apply (region_early _).askFor context early
  intro _ after performs spares
  have run : after.run = { state.run with staged := read state.disk source } := performs.run
  rcases performs.disk with ⟨content, -, writes⟩
  apply early.next performs
  · rw [run]
  · rw [run]
    exact early.fresh
  · have changed : Installing service staging state.run after.disk :=
      early.known.change writes.kept.2 (writes.kept.1 _ spares)
    rw [run]
    exact ⟨changed.installing, changed.vacant, changed.kept, changed.binary⟩

theorem tries_prepareExecutable (staged executable : Path)
    (early : Early service (Installing service staging) state) :
    Tries service (prepareExecutable service staged executable) state
      (fun _ => Early service (Installing service staging))
      (Early service (Installing service staging)) := by
  have region : Region service (Early service (Installing service staging)) := region_early _
  apply Endures.bind (tries_copyFile _ _ _ early)
  intro _ copied here
  apply Endures.bind (region.reads here rfl)
  intro _ permitted here
  exact region.readsFor _ here rfl

/-- A call of the copy leaves the executable alone. -/
theorem everywhere_kept {command : SourceUpdate.Command} (copying : Copying command)
    (binary : Exists fun node => before service.executable = some node)
    (spares : forall content path, command = .copy content path ->
      ¬ Opens before path service.executable)
    (acted : everywhere before command after) :
    Kept before after ∧ after service.executable = before service.executable := by
  have unchanged : after = before ->
      Kept before after ∧ after service.executable = before service.executable := by
    rintro rfl
    exact ⟨fun _ found => found, rfl⟩
  cases command with
  | bail message => exact unchanged acted
  | readEntry => exact unchanged acted
  | readDir => exact unchanged acted
  | pathExists path => exact unchanged acted
  | isSymlink path => exact unchanged acted
  | unpack entry path => exact copying.elim
  | createDirAll path =>
      rcases binary with ⟨node, found⟩
      rw [found]
      exact ⟨fun other directory => acted.1 other _ directory, acted.1 _ node found⟩
  | copy content path =>
      have kept := Overwrites.kept acted
      exact ⟨kept.2, kept.1 _ (spares content path rfl)⟩

theorem Early.binary (early : Early service (Installing service staging) state) :
    Exists fun content => state.disk service.executable = some (.file content) := by
  rw [early.known.binary]
  exact early.deployed.binary

theorem tries_copyReleaseSource (listing : Listing)
    (early : Early service (Installing service staging) state) :
    Tries service (onFiles (copyReleaseSource listing service.sourceRoot)) state
      (fun _ => Early service (Installing service staging))
      (Early service (Installing service staging)) := by
  refine Endures.within ?_ (only_copyReleaseSource listing service.sourceRoot) early
  intro command between copying here
  apply (region_early _).ask here
  intro reply after performs spares
  apply here.onward performs.running performs.status performs.run
  rcases here.binary with ⟨content, found⟩
  have apart : forall content path, command = .copy content path ->
      ¬ Opens between.disk path service.executable := by
    rintro content path rfl
    exact spares
  have kept := everywhere_kept copying ⟨_, found⟩ apart performs.disk.2
  exact here.known.change kept.1 kept.2

end Install

/-! ## Activating -/

section Activate

variable {Version : Type} {service : SourceUpdateService Version} {state : State} {staging : Path}
  {opened before after : Disk}

theorem rooted_executable (beside : before.Rooted service.executableParent) :
    before.Rooted service.executable.dropLast := by
  unfold SourceUpdateService.executable
  rw [List.dropLast_concat]
  exact beside

theorem rooted_prepared (beside : before.Rooted service.executableParent) :
    before.Rooted service.prepared.dropLast := by
  rw [prepared_eq, List.dropLast_concat]
  exact beside

theorem rooted_previous (beside : before.Rooted service.executableParent) :
    before.Rooted service.previous.dropLast := by
  rw [previous_eq, List.dropLast_concat]
  exact beside

theorem Deployed.beside_kept (deployed : Deployed service opened) (kept : Kept opened before) :
    before.Rooted service.executableParent :=
  fun part above => kept part (deployed.beside part above)

theorem kept_erase {path : Path} (file : before path ≠ some .directory) :
    Kept before (erase before path) := by
  intro other directory
  refine (if_neg ?_).trans directory
  rintro rfl
  exact file directory

theorem kept_move {source target : Path} {node : Node} (found : before source = some node)
    (file : node ≠ .directory) (free : before target ≠ some .directory) :
    Kept before (move before source target) := by
  intro other directory
  unfold move
  split
  · rename_i same
    exact absurd (same ▸ directory) free
  · split
    · rename_i same
      rw [same, found] at directory
      exact absurd (Option.some.inj directory) file
    · exact directory

theorem move_target (source target : Path) : move before source target target = before source :=
  if_pos rfl

theorem move_source {source target : Path} (different : source ≠ target) :
    move before source target source = none := by
  unfold move
  rw [if_neg different, if_pos rfl]

theorem move_other {source target other : Path} (moved : other ≠ target) (left : other ≠ source) :
    move before source target other = before other := by
  unfold move
  rw [if_neg moved, if_neg left]

theorem tries_removeFile (context : String)
    (early : Early service (Installing service staging) state) :
    Tries service (askFor context (.removeFile service.previous)) state
      (fun _ => Early service (Installing service staging))
      (Early service (Installing service staging)) := by
  apply (region_early _).askFor context early
  intro _ after performs spares
  have beside := early.deployed.beside_kept early.known.kept
  rcases performs.disk (rooted_previous beside) with ⟨file, erased⟩
  apply early.onward performs.running performs.status performs.run
  rw [erased]
  exact early.known.change (kept_erase file) (if_neg (Ne.symm spares))

theorem tries_setAside (context : String)
    (early : Early service (Installing service staging) state) :
    Tries service (askFor context (.rename service.executable service.previous)) state
      (fun _ => Early service (Aside service staging))
      (Early service (Installing service staging)) := by
  apply (region_early _).askFor context early
  intro _ after performs spares
  have different : service.previous ≠ service.executable := by
    intro same
    exact (spares same).1 rfl
  have run : after.run = state.run := by
    have remembers := performs.run
    change after.run = { state.run with
      activated := state.run.activated || service.previous == service.executable } at remembers
    rw [remembers, beq_eq_false_iff_ne.mpr different, Bool.or_false]
  have beside := early.deployed.beside_kept early.known.kept
  rcases performs.disk (rooted_executable beside) (rooted_previous beside) with
    ⟨node, found, renamed⟩
  rcases early.binary with ⟨content, binary⟩
  have file : node ≠ .directory := by
    rw [binary] at found
    cases found
    exact nofun
  rcases renamed file with ⟨free, moved⟩
  apply early.onward performs.running performs.status run
  rw [moved]
  constructor
  · exact early.known.installing
  · exact early.known.vacant
  · exact early.known.kept.trans (kept_move found file free)
  · rw [move_target, early.known.binary]
  · exact move_source different.symm

/-- What is known once the new executable is in place. -/
def Activated (service : SourceUpdateService Version) (staging : Path) (run : Run) (_ : Disk) :
    Prop :=
  service.serverHandle = true ∧ Vacant service staging run.opened

/-- The renaming that activates the executable, or fails. -/
theorem tries_rename {bad : State -> Prop} (early : Early service (Aside service staging) state) :
    Tries service (Fallible.tell (S := calls) (.ask (.rename service.prepared service.executable)))
      state (fun reply after => match reply with
        | .ok () => Late service (Activated service staging) after
        | .error _ => Early service (Aside service staging) after) bad := by
  have region : Region service (Early service (Aside service staging)) := region_early _
  refine Endures.tell (region.sound state early) ?_
  intro reply after acted
  rcases acted with ⟨performs, spares⟩
  cases reply with
  | error error => exact region.idle state after early performs.failed
  | ok answer =>
      rcases spares rfl with ⟨-, handle, content, staged, prepared⟩
      have beside := early.deployed.beside_kept early.known.kept
      rcases performs.disk (rooted_prepared beside) (rooted_executable beside) with
        ⟨node, found, renamed⟩
      rw [prepared] at found
      cases found
      rcases renamed nofun with ⟨free, moved⟩
      have run : after.run = { state.run with
        activated := state.run.activated || service.executable == service.executable } :=
          performs.run
      have previous : service.previous ≠ service.executable := by
        intro same
        have here := early.known.binary
        rw [same, early.known.missing] at here
        rcases early.deployed.binary with ⟨old, binary⟩
        rw [binary] at here
        cases here
      constructor
      · exact performs.running.trans early.running
      · rw [performs.status]
        exact early.phase
      · rw [run]
        exact early.deployed
      · rw [run, moved]
        exact early.known.kept.trans (kept_move prepared nofun free)
      · rw [run, moved, move_target]
        exact ⟨content, staged, prepared⟩
      · rw [run, moved, move_other previous prepared_ne_previous.symm]
        exact early.known.binary
      · rw [run]
        exact ⟨handle, early.known.vacant⟩

theorem tries_renameBack {bad : State -> Prop}
    (early : Early service (Aside service staging) state) :
    Tries service (tell (.renameBack service.previous service.executable)) state
      (fun _ => Early service (Installing service staging)) bad := by
  apply (region_early _).tell early
  intro _ after performs _
  have beside := early.deployed.beside_kept early.known.kept
  rcases early.deployed.binary with ⟨content, binary⟩
  have found : state.disk service.previous = some (.file content) :=
    early.known.binary.trans binary
  have free : state.disk service.executable ≠ some .directory := by
    rw [early.known.missing]
    exact nofun
  have moved : after.disk = move state.disk service.previous service.executable := by
    apply performs.disk (rooted_previous beside) (rooted_executable beside) _ _ free
    · rw [found]
      exact nofun
    · rw [found]
      exact nofun
  apply early.onward performs.running performs.status performs.run
  rw [moved]
  constructor
  · exact early.known.installing
  · exact early.known.vacant
  · exact early.known.kept.trans (kept_move found nofun free)
  · rw [move_target, early.known.binary]

theorem tries_replaceExecutable (early : Early service (Installing service staging) state) :
    Tries service (replaceExecutable service service.executable) state
      (fun _ => Late service (Activated service staging))
      (Early service (Installing service staging)) := by
  apply Endures.bind (tries_setAside _ early)
  intro _ moved aside
  apply Endures.bind (tries_rename aside)
  intro reply renamed result
  cases reply with
  | ok _ => exact Endures.pure result
  | error cause =>
      apply Endures.bind (tries_renameBack result)
      intro _ restored back
      exact Endures.throw back

theorem tries_activateExecutable (early : Early service (Installing service staging) state) :
    Tries service (activateExecutable service service.executable) state
      (fun _ => Late service (Activated service staging))
      (Early service (Installing service staging)) := by
  apply Endures.bind ((region_early _).idles early rfl)
  intro there asked here
  split
  · apply Endures.bind (tries_removeFile _ here)
    intro _ removed here
    exact tries_replaceExecutable here
  · exact tries_replaceExecutable here

end Activate

/-! ## The whole update -/

section Whole

variable {Version : Type} {service : SourceUpdateService Version} {state after : State}
  {staging : Path} {bad : State -> Prop}

theorem tries_beginInstalling (message : String)
    (early : Early service (Staging service staging) state) :
    Tries service (write (.setPhase .installing message)) state
      (fun _ => Early service (Installing service staging)) bad := by
  apply (region_early _).tell early
  intro _ after performs _
  have run : after.run = { state.run with installing := true } := performs.run
  have disk : after.disk = state.disk := performs.disk
  constructor
  · exact performs.running.trans early.running
  · rw [performs.status]
    exact nofun
  · rw [performs.status]
    exact early.redirect
  · rw [run]
    exact early.fresh
  · rw [run]
    exact early.deployed
  · rw [run, disk]
    have outside := early.known.vacant.outside_executable early.deployed
    exact ⟨rfl, early.known.vacant, early.known.kept, early.known.outside _ outside⟩

theorem tries_installRelease (early : Early service (Staging service staging) state) :
    Tries service (installRelease service (staging ++ [sourceName])) state
      (fun _ => Late service (Activated service staging))
      (Early service (Installing service staging)) := by
  have region : Region service (Early service (Installing service staging)) := region_early _
  apply Endures.bind (tries_beginInstalling _ early)
  intro _ begun here
  apply Endures.bind (region.readsFor _ here rfl)
  intro _ spawned here
  apply Endures.bind (tries_prepareExecutable _ _ here)
  intro _ prepared here
  apply Endures.bind (region.reads here rfl)
  intro listing read here
  apply Endures.bind (tries_copyReleaseSource listing here)
  intro _ copied here
  exact tries_activateExecutable here

theorem tries_setRestarting (target : String)
    (late : Late service (Activated service staging) state) :
    Tries service (write (.setRestarting target)) state
      (fun _ => Late service (Activated service staging)) bad := by
  apply (region_late _).tell late
  intro _ after performs _
  have run : after.run = state.run := performs.run
  have disk : after.disk = state.disk := performs.disk
  constructor
  · exact performs.running.trans late.running
  · rw [performs.status]
    exact nofun
  · rw [run]
    exact late.deployed
  · rw [run, disk]
    exact late.kept
  · rw [run, disk]
    exact late.staged
  · rw [run, disk]
    exact late.previous
  · rw [run]
    exact late.known

/-- The process starts in every run that meets the condition. -/
theorem tries_spawnReplacement (context : String) (executable directory : Path)
    (late : Late service (Activated service staging) state) :
    Tries service (askFor context (.spawnReplacement executable directory)) state
      (fun _ => Late service (Activated service staging)) bad := by
  have region : Region service (Late service (Activated service staging)) := region_late _
  refine Endures.ask (region.sound state late) ?_
  intro reply after acted
  cases reply with
  | error error => cases acted.2
  | ok answer => exact region.idle state after late (acted.1.idle_of_request rfl)

/-- Nothing can fail any more. -/
theorem tries_restart (target : Version) (late : Late service (Activated service staging) state) :
    Tries service (restart service target) state
      (fun _ => Late service (Activated service staging)) bad := by
  have region : Region service (Late service (Activated service staging)) := region_late _
  unfold restart
  rw [if_pos late.known.1]
  apply Endures.bind (tries_setRestarting _ late)
  intro _ restarting here
  apply Endures.bind (tries_spawnReplacement _ _ _ here)
  intro _ spawned here
  apply Endures.bind (region.idles here rfl)
  intro _ slept here
  exact region.idles here rfl

/-- The end of an update that has the new executable in place. -/
theorem Late.settled {known : Run -> Disk -> Prop} (late : Late service known state) :
    Settled service state where
  running := late.running
  sound := ((region_late known).sound state late).1
  deployed := by
    rcases late.staged with ⟨content, -, binary⟩
    exact late.deployed.kept late.kept ⟨content, binary⟩

/-- The temporary directory is removed, or a part of it. -/
structure Removes (staging : Path) (before after : State) : Prop where
  running : after.running = before.running
  status : after.status = before.status
  run : after.run = before.run
  elsewhere : forall path, ¬ staging <+: path -> after.disk path = before.disk path

theorem Removes.of_performs {removed : Bool}
    (performs : Performs service state (.tell (.removeTempDir staging)) removed after) :
    Removes staging state after :=
  ⟨performs.running, performs.status, performs.run, performs.disk.1⟩

theorem Removes.kept {opened : Disk} (removes : Removes staging state after)
    (vacant : Vacant service staging opened) (kept : Kept opened state.disk) :
    Kept opened after.disk := by
  intro path found
  rw [removes.elsewhere path (vacant.outside_of_some found)]
  exact kept path found

theorem Late.removed (late : Late service (Activated service staging) state)
    (removes : Removes staging state after) : Late service (Activated service staging) after := by
  have vacant := late.known.2
  constructor
  · exact removes.running.trans late.running
  · rw [removes.status]
    exact late.phase
  · rw [removes.run]
    exact late.deployed
  · rw [removes.run]
    exact removes.kept vacant late.kept
  · rw [removes.run, removes.elsewhere _ (vacant.outside_executable late.deployed)]
    exact late.staged
  · rw [removes.run, removes.elsewhere _ (vacant.outside_previous late.deployed)]
    exact late.previous
  · rw [removes.run]
    exact late.known

theorem Early.removed_installing (early : Early service (Installing service staging) state)
    (removes : Removes staging state after) : Early service (Undone service) after := by
  have vacant := early.known.vacant
  apply early.onward removes.running removes.status removes.run
  constructor
  · exact removes.kept vacant early.known.kept
  · rw [removes.elsewhere _ (vacant.outside_executable early.deployed)]
    exact early.known.binary
  · intro installing
    rw [early.known.installing] at installing
    cases installing

/-- Before the installation nothing but the temporary directory has changed, and
it is gone or lies elsewhere. -/
theorem Early.removed_staging (early : Early service (Staging service staging) state)
    {removed : Bool}
    (performs : Performs service state (.tell (.removeTempDir staging)) removed after)
    (spares : Spares service state (.tell (.removeTempDir staging)) removed) :
    Early service (Undone service) after := by
  have removes := Removes.of_performs performs
  have vacant := early.known.vacant
  have outside : forall path, ¬ staging <+: path -> after.disk path = state.run.opened path := by
    intro path foreign
    rw [removes.elsewhere path foreign]
    exact early.known.outside path foreign
  apply early.onward removes.running removes.status removes.run
  constructor
  · exact removes.kept vacant early.known.kept
  · exact outside _ (vacant.outside_executable early.deployed)
  · rintro - path (inside | rfl | rfl | rfl)
    · by_cases below : staging <+: path
      · rcases spares with gone | installing | apart
        · rw [performs.disk.2.2 gone path below]
          exact (vacant.fresh path below).symm
        · rw [early.known.installing] at installing
          cases installing
        · exact absurd below (vacant.outside_source apart inside)
      · exact outside path below
    · exact outside _ (vacant.outside_executable early.deployed)
    · exact outside _ (vacant.outside_prepared early.deployed)
    · exact outside _ (vacant.outside_previous early.deployed)

theorem tries_withTempDir {attempt : Try Unit}
    (tries : Tries service attempt state (fun _ => Late service (Activated service staging))
      (fun after => Early service (Staging service staging) after ∨
        Early service (Installing service staging) after)) :
    Tries service (withTempDir staging attempt) state (fun _ => Settled service)
      (Early service (Undone service)) := by
  apply Throughout.bind tries
  intro outcome ended ends
  cases outcome with
  | ok _ =>
      refine Throughout.call ((region_late _).sound ended ends) ?_
      intro removed after acted
      exact Throughout.done (ends.removed (Removes.of_performs acted.1)).settled
  | error error =>
      rcases ends with early | early
      · refine Throughout.call ((region_early _).sound ended early) ?_
        intro removed after acted
        exact Throughout.done (early.removed_staging acted.1 acted.2)
      · refine Throughout.call ((region_early _).sound ended early) ?_
        intro removed after acted
        exact Throughout.done (early.removed_installing (Removes.of_performs acted.1))

theorem Early.undone (early : Early service Begun state) :
    Early service (Undone service) state := by
  apply early.mono
  rintro ⟨-, same⟩
  rw [same]
  exact ⟨fun _ found => found, rfl, fun _ _ _ => rfl⟩

theorem tries_updateTo (target : Version) (archive : List TarEntry)
    (early : Early service Begun state) :
    Tries service (updateTo service target archive) state (fun _ => Settled service)
      (Early service (Undone service)) := by
  apply Endures.bind ((region_early _).idles early rfl)
  intro _ extracting here
  apply Endures.bind
  · exact (tries_newTempDir here _).mono (fun _ _ made => made) fun _ failed => failed.undone
  intro staging made here
  apply tries_withTempDir
  apply Endures.bind
  · exact (tries_stageRelease target archive here).mono (fun _ _ staged => staged)
      fun _ failed => Or.inl failed
  intro _ staged here
  apply Endures.bind
  · exact (tries_installRelease here).mono (fun _ _ late => late) fun _ failed => Or.inr failed
  intro _ installed late
  exact tries_restart target late

theorem Early.settled (early : Early service Begun state) : Settled service state where
  running := early.running
  sound := ((region_early Begun).sound state early).1
  deployed := by
    rw [early.known.2]
    exact early.deployed

theorem tries_runUpdate (early : Early service Begun state) :
    Tries service (runUpdate service) state (fun _ => Settled service)
      (Early service (Undone service)) := by
  have region : Region service (Early service Begun) := region_early _
  have look : forall {α : Type} {attempt : Try α} {begun : State},
      Tries service attempt begun (fun _ => Early service Begun) (Early service Begun) ->
      Tries service attempt begun (fun _ => Early service Begun) (Early service (Undone service)) :=
    fun tries => tries.mono (fun _ _ here => here) fun _ failed => failed.undone
  unfold runUpdate
  split
  · apply Endures.bind (region.idles early rfl)
    intro _ checking here
    apply Endures.bind (look (region.validateSourceRoot here))
    intro _ validated here
    apply Endures.bind (look (region.reads here rfl))
    intro release fetched here
    apply Endures.bind (look (Region.given here))
    intro target stable here
    apply Endures.bind (region.idles here rfl)
    intro _ targeted here
    apply Endures.bind (look (Region.given here))
    intro current parsed here
    split
    · apply (region.idles here rfl).mono
      · intro _ after complete
        exact complete.settled
      · exact fun _ impossible => impossible
    · apply Endures.bind (region.idles here rfl)
      intro _ downloading here
      apply Endures.bind (look (region.downloadArchive _ here))
      intro archive downloaded here
      exact tries_updateTo target archive here
  · exact Endures.throw early.undone

end Whole

end Updater
end KrakenUi
