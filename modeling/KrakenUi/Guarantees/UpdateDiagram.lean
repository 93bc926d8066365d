import KrakenUi.Guarantees.FailedUpdates
import KrakenUi.Guarantees.UpdateLogs
import KrakenUi.Interaction.Diagrams

namespace KrakenUi
namespace Updater

open FileSystem Interaction SourceUpdate

/-!
# The way of an update

The page of the updates shows a status that is written at eleven places.  An
update goes through its phases in one order and leaves it only to fail, and
whatever fails and whenever somebody asks, the fields of the status fit the
phase: progress is reported exactly between the start and the end, a target is
named once it is known, and the page is sent to the login only from a service
that restarts.
-/

namespace UpdatePhase

/-- An update is on its way. -/
def busy : UpdatePhase -> Bool
  | idle | complete | failed => false
  | _ => true

/-- The phases in which no update is under way.  The service goes on until its
server is shut down. -/
def rests : UpdatePhase -> Bool
  | idle | complete | failed | restarting => true
  | _ => false

/-- What can be shown next. -/
def next : UpdatePhase -> List UpdatePhase
  | idle => [checking]
  | checking => [downloading, complete, failed]
  | downloading => [extracting, failed]
  | extracting => [compiling, failed]
  | compiling => [installing, failed]
  | installing => [restarting, failed]
  | restarting => [checking, failed]
  | complete => [checking]
  | failed => [checking]

end UpdatePhase

/-- The fields of the status fit the phase, and the phase fits the update. -/
structure Truthful (state : State) : Prop where
  progress : state.status.inProgress = state.status.phase.busy
  target : state.status.targetVersion = none ->
    state.status.phase = .idle ∨ state.status.phase = .checking ∨ state.status.phase = .failed
  redirect : state.status.phase ≠ .failed -> state.status.redirectAfterSeconds =
    if state.status.phase = .restarting then some 120 else none
  early : state.status.phase = .checking ∨ state.status.phase = .downloading ∨
      state.status.phase = .extracting ∨ state.status.phase = .compiling ∨
      state.status.phase = .complete ->
    state.run.installing = false ∧ state.run.activated = false
  activated : state.status.phase = .restarting -> state.run.activated = true
  log : UpdateLog.Started state.status.log

/-! ## The diagram -/

inductive Stage where
  | claimed
  | checking
  | targeted
  | downloading
  | extracting
  | compiling
  | installing
  | activated
  | restarting
  | completed
  | failed
  | released
  deriving DecidableEq

namespace Stage

/-- From here an update can fail. -/
def attempting : Stage -> Bool
  | claimed | completed | failed | released => false
  | _ => true

/-- The place of each write. -/
def written : Stage -> Change -> Option Stage
  | claimed, .resetForUpdate => some checking
  | checking, .setPhase .checking _ => some checking
  | checking, .setTargetVersion _ => some targeted
  | targeted, .finishComplete _ => some completed
  | targeted, .setPhase .downloading _ => some downloading
  | downloading, .setPhase .extracting _ => some extracting
  | extracting, .setPhase .compiling _ => some compiling
  | compiling, .appendCommandOutput _ _ => some compiling
  | compiling, .setPhase .installing _ => some installing
  | activated, .setRestarting _ => some restarting
  | stage, .finishFailed _ => if stage.attempting then some failed else none
  | _, _ => none

/-- The writes, one by one. -/
inductive Writes : Stage -> Change -> Stage -> Prop where
  | reset : Writes claimed .resetForUpdate checking
  | check (message : String) : Writes checking (.setPhase .checking message) checking
  | aim (target : String) : Writes checking (.setTargetVersion target) targeted
  | complete (message : String) : Writes targeted (.finishComplete message) completed
  | download (message : String) : Writes targeted (.setPhase .downloading message) downloading
  | extract (message : String) : Writes downloading (.setPhase .extracting message) extracting
  | compile (message : String) : Writes extracting (.setPhase .compiling message) compiling
  | output (stdout stderr : String) :
      Writes compiling (.appendCommandOutput stdout stderr) compiling
  | install (message : String) : Writes compiling (.setPhase .installing message) installing
  | restart (target : String) : Writes activated (.setRestarting target) restarting
  | fail {stage : Stage} (message : String) (attempting : stage.attempting = true) :
      Writes stage (.finishFailed message) failed

theorem writes_of_written {stage next : Stage} {change : Change}
    (written : stage.written change = some next) : Writes stage change next := by
  unfold Stage.written at written
  split at written
  · cases written
    exact .reset
  · cases written
    exact .check _
  · cases written
    exact .aim _
  · cases written
    exact .complete _
  · cases written
    exact .download _
  · cases written
    exact .extract _
  · cases written
    exact .compile _
  · cases written
    exact .output _ _
  · cases written
    exact .install _
  · cases written
    exact .restart _
  · split at written
    · rename_i attempting
      cases written
      exact .fail _ attempting
    · cases written
  · cases written

def ends : Stage -> Bool
  | restarting | completed | failed => true
  | _ => false

end Stage

section Diagram

variable {Version : Type} (service : SourceUpdateService Version)

/-- What a command does to the flag, the status and what is remembered.  Nothing is
said about the files: a request may be answered or fail, and anybody may write. -/
structure Notes (before : State) (command : Command) (reply : command.Reply) (after : State) :
    Prop where
  running : after.running = flag before.running command
  status : after.status = written before.status command
  run : after.run = remembered service before command reply

def notes : Acts calls State := Notes service

def Request.renames : Request -> Bool
  | rename _ _ => true
  | _ => false

/-- The executable is in place once a file has been renamed to it. -/
def Stage.asked (stage : Stage) : (request : Request) -> Except String request.Answer -> Stage
  | .rename _ target, .ok _ =>
      if stage = .installing ∧ target = service.executable then .activated else stage
  | _, _ => stage

def diagram : Diagram calls Stage where
  allows := fun stage command =>
    match command with
    | .tell (.write change) => (stage.written change).isSome = true
    | .tell .release => stage.ends = true
    | .ask (.rename _ _) => stage = .installing ∨ stage = .activated
    | _ => stage.attempting = true
  leads := fun stage command =>
    match command with
    | .tell (.write change) => fun _ => (stage.written change).getD stage
    | .tell .release => fun _ => .released
    | .tell _ => fun _ => stage
    | .ask request => fun reply => stage.asked service request reply

/-! ## An update follows it -/

variable {service} {stage : Stage}

/-- The attempt leaves the update where it is, or it fails. -/
abbrev Stays (service : SourceUpdateService Version) {α : Type} (attempt : Try α)
    (stage : Stage) : Prop :=
  Walks (diagram service) attempt stage (fun _ last => last = stage)
    (fun last => last.attempting = true)

theorem stays_ended {request : Request}
    {reads : Except String request.Answer -> Except String request.Answer}
    (attempting : stage.attempting = true)
    (other : request.renames = false) :
    Stays service (Fallible.ask (S := calls) (.ask request) reads) stage := by
  have allowed : (diagram service).allows stage (.ask request) := by
    cases request with
    | rename source target => cases other
    | _ => exact attempting
  refine Walks.ask allowed ?_
  intro reply
  have here : (diagram service).leads stage (.ask request) reply = stage := by
    cases request with
    | rename source target => cases other
    | _ => rfl
  rw [here]
  cases reads reply with
  | ok answer => exact rfl
  | error error => exact attempting

theorem stays_ask {request : Request} (attempting : stage.attempting = true)
    (other : request.renames = false) :
    Stays service (ask request) stage :=
  stays_ended attempting other

theorem stays_askFor {request : Request} (context : String) (attempting : stage.attempting = true)
    (other : request.renames = false) :
    Stays service (askFor context request) stage :=
  stays_ended attempting other

theorem stays_isFile (path : Path) (attempting : stage.attempting = true) :
    Stays service (tell (.isFile path)) stage :=
  Walks.ask attempting fun _ => rfl

theorem stays_given {α : Type} {outcome : Except String α} (attempting : stage.attempting = true) :
    Stays service (Fallible.given outcome) stage := by
  apply Walks.given
  cases outcome with
  | ok value => exact rfl
  | error error => exact attempting

theorem stays_bail {α : Type} (message : String) (attempting : stage.attempting = true) :
    Stays service (bail message : Try α) stage :=
  Walks.throw attempting

/-- A write goes to its place. -/
theorem walks_write {change : Change} {place : Stage} (bad : Stage -> Prop)
    (written : stage.written change = some place) :
    Walks (diagram service) (write change) stage (fun _ last => last = place) bad := by
  refine Walks.ask ?_ ?_
  · show (stage.written change).isSome = true
    rw [written]
    rfl
  · intro reply
    show (stage.written change).getD stage = place
    rw [written]
    rfl

theorem Stays.bind {α β : Type} {attempt : Try α} {next : α -> Try β}
    {good : β -> Stage -> Prop} (first : Stays service attempt stage)
    (second : forall value, Walks (diagram service) (next value) stage good
      (fun last => last.attempting = true)) :
    Walks (diagram service) (attempt >>= next) stage good (fun last => last.attempting = true) := by
  apply Walks.bind first
  rintro value last rfl
  exact second value

theorem stays_pure {α : Type} (value : α) : Stays service (pure value : Try α) stage :=
  Walks.pure rfl

/-- After a write the update goes on at its place. -/
theorem writes_then {α : Type} {change : Change} {place : Stage} {next : Unit -> Try α}
    {good : α -> Stage -> Prop} (written : stage.written change = some place)
    (later : Walks (diagram service) (next ()) place good (fun last => last.attempting = true)) :
    Walks (diagram service) (write change >>= next) stage good
      (fun last => last.attempting = true) := by
  apply Walks.bind (walks_write _ written)
  rintro ⟨⟩ last rfl
  exact later

theorem stays_onFiles {α : Type} (task : SourceUpdate.Task α)
    (attempting : stage.attempting = true) : Stays service (onFiles task) stage := by
  have walks : Walks (diagram service) (onFiles task) stage (fun _ last => last = stage)
      (fun last => last = stage) := by
    have each : forall (command : SourceUpdate.Command) (last : Stage), last = stage ->
        Walks (diagram service) (ask (.file command)) last (fun _ last => last = stage)
          (fun last => last = stage) := by
      rintro command last rfl
      refine Walks.ask attempting ?_
      intro reply
      cases reply with
      | ok answer => exact rfl
      | error error => exact rfl
    exact Walks.within each task rfl
  apply Follows.mono walks
  intro outcome last ends
  cases outcome with
  | ok value => exact ends
  | error error =>
      have here : last = stage := ends
      rw [here]
      exact attempting

theorem stays_validateSourceRoot (attempting : stage.attempting = true) :
    Stays service (validateSourceRoot service) stage := by
  apply (stays_isFile _ attempting).bind
  intro found
  split
  · exact stays_pure ()
  · exact stays_bail _ attempting

theorem stays_downloadArchive (tag : String) (attempting : stage.attempting = true) :
    Stays service (downloadArchive service tag) stage := by
  apply (stays_given attempting).bind
  intro _
  exact stays_ask attempting rfl

theorem stays_validateStagedRelease (root : Path) (expected : Version)
    (attempting : stage.attempting = true) :
    Stays service (validateStagedRelease service root expected) stage := by
  apply (stays_askFor _ attempting rfl).bind
  intro text
  apply (stays_given attempting).bind
  intro _
  apply (stays_isFile _ attempting).bind
  intro locked
  split
  · apply (stays_isFile _ attempting).bind
    intro main
    split
    · exact stays_pure ()
    · exact stays_bail _ attempting
  · exact stays_bail _ attempting

theorem stays_compile (stagedSource : Path) :
    Stays service (compile service stagedSource) .compiling := by
  apply (stays_askFor _ rfl rfl).bind
  intro output
  apply writes_then rfl
  split
  · apply (stays_isFile _ rfl).bind
    intro found
    split
    · exact stays_pure ()
    · exact stays_bail _ rfl
  · exact stays_bail _ rfl

theorem walks_stageRelease (target : Version) (archive : List TarEntry) (stagedSource : Path) :
    Walks (diagram service) (stageRelease service target archive stagedSource) .extracting
      (fun _ last => last = .compiling) (fun last => last.attempting = true) := by
  apply (stays_askFor _ rfl rfl).bind
  intro _
  apply (stays_onFiles _ rfl).bind
  intro _
  apply (stays_validateStagedRelease _ _ rfl).bind
  intro _
  apply writes_then rfl
  exact stays_compile stagedSource

theorem stays_prepareExecutable (staged executable : Path) (attempting : stage.attempting = true) :
    Stays service (prepareExecutable service staged executable) stage := by
  apply (stays_askFor _ attempting rfl).bind
  intro _
  apply (stays_ask attempting rfl).bind
  intro _
  exact stays_askFor _ attempting rfl

/-- The executable is put in place, whatever it is called. -/
theorem walks_replaceExecutable :
    Walks (diagram service) (replaceExecutable service service.executable) .installing
      (fun _ last => last = .activated) (fun last => last.attempting = true) := by
  -- a name that ends as the backup does is its own backup
  have aside : Walks (diagram service) (askFor ("failed to preserve the running executable as " ++
        service.display (previousExecutablePath service.executable))
        (.rename service.executable (previousExecutablePath service.executable))) .installing
      (fun _ last => last = .installing ∨ last = .activated)
      (fun last => last.attempting = true) := by
    refine Walks.ask (Or.inl rfl) ?_
    intro reply
    cases reply with
    | error error => exact rfl
    | ok answer =>
        by_cases same : previousExecutablePath service.executable = service.executable
        · exact Or.inr (if_pos ⟨rfl, same⟩)
        · exact Or.inl (if_neg fun both => same both.2)
  apply Walks.bind aside
  intro _ last between
  have attempting : last.attempting = true := by
    rcases between with rfl | rfl
    · rfl
    · rfl
  refine Follows.call between ?_
  intro reply
  cases reply with
  | ok answer =>
      have placed : (diagram service).leads last (.ask (.rename
          (preparedExecutablePath service.executable) service.executable)) (.ok answer) =
            .activated := by
        rcases between with rfl | rfl
        · exact if_pos ⟨rfl, rfl⟩
        · rfl
      rw [placed]
      exact Walks.pure rfl
  | error cause =>
      show Walks (diagram service) _ last _ _
      refine Follows.call attempting ?_
      intro _
      exact Walks.throw attempting

theorem walks_activateExecutable :
    Walks (diagram service) (activateExecutable service service.executable) .installing
      (fun _ last => last = .activated) (fun last => last.attempting = true) := by
  have exists' : Stays service
      (tell (.pathExists (previousExecutablePath service.executable))) .installing :=
    Walks.ask rfl fun _ => rfl
  apply exists'.bind
  intro found
  split
  · apply (stays_askFor _ rfl rfl).bind
    intro _
    exact walks_replaceExecutable
  · exact walks_replaceExecutable

theorem walks_installRelease (stagedSource : Path) :
    Walks (diagram service) (installRelease service stagedSource) .compiling
      (fun _ last => last = .activated) (fun last => last.attempting = true) := by
  apply writes_then rfl
  apply (stays_askFor _ rfl rfl).bind
  intro _
  apply (stays_prepareExecutable _ _ rfl).bind
  intro _
  apply (stays_ask rfl rfl).bind
  intro listing
  apply (stays_onFiles _ rfl).bind
  intro _
  exact walks_activateExecutable

theorem walks_restart (target : Version) :
    Walks (diagram service) (restart service target) .activated
      (fun _ last => last = .restarting) (fun last => last.attempting = true) := by
  unfold restart
  split
  · apply writes_then rfl
    apply (stays_askFor _ rfl rfl).bind
    intro _
    refine Follows.call rfl ?_
    intro _
    refine Follows.call rfl ?_
    intro _
    exact Walks.pure rfl
  · exact Walks.throw rfl

/-- Removing the directory is no step on the way. -/
theorem walks_withTempDir (path : Path) {attempt : Try Unit} {place : Stage}
    (attempting : place.attempting = true)
    (walks : Walks (diagram service) attempt stage (fun _ last => last = place)
      (fun last => last.attempting = true)) :
    Walks (diagram service) (withTempDir path attempt) stage (fun _ last => last = place)
      (fun last => last.attempting = true) := by
  apply Follows.bind walks
  intro outcome last ends
  have here : last.attempting = true := by
    cases outcome with
    | ok value =>
        have same : last = place := ends
        rw [same]
        exact attempting
    | error error => exact ends
  refine Follows.call here ?_
  intro _
  exact Follows.done ends

theorem walks_updateTo (target : Version) (archive : List TarEntry) :
    Walks (diagram service) (updateTo service target archive) .downloading
      (fun _ last => last = .restarting) (fun last => last.attempting = true) := by
  apply writes_then rfl
  apply (stays_askFor _ rfl rfl).bind
  intro staging
  apply walks_withTempDir staging rfl
  apply Walks.bind (walks_stageRelease target archive _)
  rintro _ last rfl
  apply Walks.bind (walks_installRelease _)
  rintro _ last rfl
  exact walks_restart target

theorem walks_runUpdate :
    Walks (diagram service) (runUpdate service) .checking (fun _ last => last.ends = true)
      (fun last => last.attempting = true) := by
  unfold runUpdate
  split
  · apply writes_then rfl
    apply (stays_validateSourceRoot rfl).bind
    intro _
    apply (stays_ask rfl rfl).bind
    intro release
    apply (stays_given rfl).bind
    intro target
    apply writes_then rfl
    apply (stays_given rfl).bind
    intro current
    split
    · exact Follows.mono (walks_write _ rfl) fun outcome last ends => by
        cases outcome with
        | ok value =>
            have place : last = .completed := ends
            rw [place]
            rfl
        | error error => exact ends
    · apply writes_then rfl
      apply (stays_downloadArchive _ rfl).bind
      intro archive
      apply Follows.mono (walks_updateTo target archive)
      intro outcome last ends
      cases outcome with
      | ok value =>
          have place : last = .restarting := ends
          rw [place]
          rfl
      | error error => exact ends
  · exact Walks.throw rfl

/-- The task goes from the claim to the release. -/
theorem follows_updateTask :
    Follows (diagram service) (updateTask service) .claimed (fun _ last => last = .released) := by
  have release : forall last : Stage, last.ends = true ->
      Follows (diagram service) (Program.perform (S := calls) (.tell .release)) last
        (fun _ last => last = .released) :=
    fun last ends => Follows.call ends fun _ => Follows.done rfl
  refine Follows.call rfl ?_
  intro _
  apply Follows.bind walks_runUpdate
  intro outcome last ends
  cases outcome with
  | ok value => exact release last ends
  | error error =>
      have attempting : last.attempting = true := ends
      have written : forall message,
          last.written (.finishFailed message) = some .failed := by
        intro message
        cases last with
        | claimed | completed | failed | released => cases attempting
        | _ => rfl
      refine Follows.call ?_ ?_
      · show (last.written _).isSome = true
        rw [written]
        rfl
      · intro _
        show Follows (diagram service) _ ((last.written _).getD last) _
        rw [written]
        exact release .failed rfl

end Diagram

/-! ## What the stages say -/

/-- The status and what is remembered, at one place of the way. -/
structure Place where
  phase : UpdatePhase
  target : Bool
  redirect : Option Nat
  installing : Bool
  activated : Bool

/-- At the other stages nothing is fixed, or only the phase. -/
def Stage.place : Stage -> Option Place
  | checking => some ⟨.checking, false, none, false, false⟩
  | targeted => some ⟨.checking, true, none, false, false⟩
  | downloading => some ⟨.downloading, true, none, false, false⟩
  | extracting => some ⟨.extracting, true, none, false, false⟩
  | compiling => some ⟨.compiling, true, none, false, false⟩
  | installing => some ⟨.installing, true, none, true, false⟩
  | activated => some ⟨.installing, true, none, true, true⟩
  | restarting => some ⟨.restarting, true, some 120, true, true⟩
  | completed => some ⟨.complete, true, none, false, false⟩
  | claimed | failed | released => none

structure At (state : State) (place : Place) : Prop where
  phase : state.status.phase = place.phase
  progress : state.status.inProgress = place.phase.busy
  target : state.status.targetVersion.isSome = place.target
  redirect : state.status.redirectAfterSeconds = place.redirect
  installing : state.run.installing = place.installing
  activated : state.run.activated = place.activated
  log : UpdateLog.Started state.status.log

/-- An update that has failed. -/
structure Fallen (state : State) : Prop where
  phase : state.status.phase = .failed
  progress : state.status.inProgress = false
  log : UpdateLog.Started state.status.log

/-- An update can begin here. -/
structure Rested (state : State) : Prop where
  truthful : Truthful state
  rests : state.status.phase.rests = true

def Located (stage : Stage) (state : State) : Prop :=
  match stage.place with
  | some place => At state place
  | none => if stage = .failed then Fallen state else Rested state

/-- The flag is held up to the release. -/
def Linked (stage : Stage) (state : State) : Prop :=
  state.running = decide (stage ≠ .released) ∧ Located stage state

/-- The places are truthful. -/
def Place.Fits (place : Place) : Prop :=
  (place.target = false -> place.phase = .checking) ∧
    place.redirect = (if place.phase = .restarting then some 120 else none) ∧
    (place.phase = .checking ∨ place.phase = .downloading ∨ place.phase = .extracting ∨
        place.phase = .compiling ∨ place.phase = .complete ->
      place.installing = false ∧ place.activated = false) ∧
    (place.phase = .restarting -> place.activated = true)

instance (place : Place) : Decidable place.Fits :=
  inferInstanceAs (Decidable (_ ∧ _))

theorem fits_place {stage : Stage} {place : Place} (found : stage.place = some place) :
    place.Fits := by
  cases stage with
  | claimed | failed | released => cases found
  | _ =>
      cases found
      decide

section Meaning

variable {state after : State} {stage : Stage} {place : Place}

theorem At.truthful (placed : At state place) (fits : place.Fits) : Truthful state := by
  rcases fits with ⟨target, redirect, early, late⟩
  refine ⟨?_, ?_, ?_, ?_, ?_, placed.log⟩
  · rw [placed.phase]
    exact placed.progress
  · intro none
    have untargeted : place.target = false := by
      rw [← placed.target, none]
      rfl
    rw [placed.phase]
    exact Or.inr (Or.inl (target untargeted))
  · intro _
    rw [placed.phase, placed.redirect]
    exact redirect
  · rw [placed.phase, placed.installing, placed.activated]
    exact early
  · rw [placed.phase, placed.activated]
    exact late

theorem Fallen.truthful (fallen : Fallen state) : Truthful state where
  progress := by
    rw [fallen.phase]
    exact fallen.progress
  target := fun _ => Or.inr (Or.inr fallen.phase)
  redirect := fun other => absurd fallen.phase other
  early := by
    rw [fallen.phase]
    exact nofun
  activated := by
    rw [fallen.phase]
    exact nofun
  log := fallen.log

theorem Located.truthful (located : Located stage state) : Truthful state := by
  unfold Located at located
  split at located
  · rename_i place found
    exact located.truthful (fits_place found)
  · split at located
    · exact located.truthful
    · exact located.truthful

/-- Where the task may take the flag back, the service rests. -/
theorem Located.rested (located : Located stage state) (ends : stage.ends = true) :
    Rested state := by
  refine ⟨located.truthful, ?_⟩
  cases stage with
  | restarting | completed | failed =>
      rw [located.phase]
      rfl
  | _ => cases ends

/-- What the stages look at has not changed. -/
theorem Located.same (located : Located stage state) (status : after.status = state.status)
    (installing : after.run.installing = state.run.installing)
    (activated : after.run.activated = state.run.activated) : Located stage after := by
  unfold Located at located ⊢
  split at located
  · rcases located with ⟨phase, progress, target, redirect, begun, active, log⟩
    rw [← status] at phase progress target redirect log
    exact ⟨phase, progress, target, redirect, installing.trans begun, activated.trans active, log⟩
  · split at located
    · rename_i fallen
      rw [if_pos fallen]
      rcases located with ⟨phase, progress, log⟩
      rw [← status] at phase progress log
      exact ⟨phase, progress, log⟩
    · rename_i other
      rw [if_neg other]
      rcases located with ⟨⟨progress, target, redirect, early, late, log⟩, rests⟩
      rw [← status] at progress target redirect log rests
      rw [← status, ← installing, ← activated] at early
      rw [← status, ← activated] at late
      exact ⟨⟨progress, target, redirect, early, late, log⟩, rests⟩

end Meaning

/-! ## The service -/

section Service

variable {Version : Type} {service : SourceUpdateService Version} {state after : State}
  {stage : Stage}

/-- A place of the way, from one state to the next. -/
theorem At.move {place later : Place} (placed : At state place)
    (status : after.status = state.status) (phase : later.phase = place.phase)
    (target : later.target = place.target) (redirect : later.redirect = place.redirect)
    (installing : after.run.installing = later.installing)
    (activated : after.run.activated = later.activated) : At after later := by
  rcases placed with ⟨phase', progress, target', redirect', -, -, log⟩
  rw [← status] at phase' progress target' redirect' log
  refine ⟨phase'.trans phase.symm, ?_, target'.trans target.symm, redirect'.trans redirect.symm,
    installing, activated, log⟩
  rw [phase]
  exact progress

theorem located_asked {request : Request} {reply : Except String request.Answer}
    (located : Located stage state) (allowed : (diagram service).allows stage (.ask request))
    (noted : Notes service state (.ask request) reply after) :
    Located (stage.asked service request reply) after := by
  have status : after.status = state.status := noted.status
  have kept : remembered service state (.ask request) reply = state.run ->
      Located stage after := by
    intro same
    have run : after.run = state.run := noted.run.trans same
    exact located.same status (by rw [run]) (by rw [run])
  cases reply with
  | error error =>
      cases request with
      | _ => exact kept rfl
  | ok answer =>
      cases request with
      | rename source target =>
          have run : after.run = { state.run with
            activated := state.run.activated || target == service.executable } := noted.run
          rcases allowed with rfl | rfl
          · have placed : At state ⟨.installing, true, none, true, false⟩ := located
            have begun : after.run.installing = true := by
              rw [run]
              exact placed.installing
            have active : after.run.activated = (target == service.executable) := by
              rw [run]
              dsimp only
              rw [placed.activated, Bool.false_or]
            by_cases same : target = service.executable
            · have here : Stage.asked service .installing (.rename source target) (.ok answer) =
                  .activated := if_pos ⟨rfl, same⟩
              rw [here]
              rw [beq_iff_eq.mpr same] at active
              exact placed.move status rfl rfl rfl begun active
            · have here : Stage.asked service .installing (.rename source target) (.ok answer) =
                  .installing := if_neg fun both => same both.2
              rw [here]
              rw [beq_eq_false_iff_ne.mpr same] at active
              exact placed.move status rfl rfl rfl begun active
          · have placed : At state ⟨.installing, true, none, true, true⟩ := located
            refine placed.move status rfl rfl rfl ?_ ?_
            · rw [run]
              exact placed.installing
            · rw [run]
              dsimp only
              rw [placed.activated]
              exact Bool.true_or _
      | copyFile source target =>
          have run : after.run = { state.run with staged := read state.disk source } :=
            noted.run
          exact located.same status (by rw [run]) (by rw [run])
      | _ => exact kept rfl

theorem At.setPhase {phase : UpdatePhase} {message : String} (placed : At state place)
    (busy : phase.busy = place.phase.busy)
    (noted : Notes service state (.tell (.write (.setPhase phase message))) () after) :
    At after ⟨phase, place.target, place.redirect,
      decide (phase = .installing) || place.installing, place.activated⟩ := by
  have status : after.status = state.status.setPhase phase message := noted.status
  have run : after.run.installing = (decide (phase = .installing) || state.run.installing) ∧
      after.run.activated = state.run.activated := by
    rw [noted.run]
    cases phase with
    | _ => exact ⟨rfl, rfl⟩
  refine ⟨?_, ?_, ?_, ?_, ?_, run.2.trans placed.activated, ?_⟩
  · rw [status]
    rfl
  · rw [status]
    exact placed.progress.trans busy.symm
  · rw [status]
    exact placed.target
  · rw [status]
    exact placed.redirect
  · rw [run.1, placed.installing]
  · rw [status]
    exact placed.log.change (.setPhase phase message)

theorem appendOutput_fields (status : UpdateStatus) (output : String) :
    (status.appendOutput output).inProgress = status.inProgress ∧
      (status.appendOutput output).targetVersion = status.targetVersion := by
  unfold UpdateStatus.appendOutput
  split
  · exact ⟨rfl, rfl⟩
  · exact ⟨rfl, rfl⟩

theorem At.appendCommandOutput {stdout stderr : String} (placed : At state place)
    (noted : Notes service state (.tell (.write (.appendCommandOutput stdout stderr))) ()
      after) : At after place := by
  have status : after.status = (state.status.appendOutput stdout).appendOutput stderr :=
    noted.status
  have run : after.run = state.run := noted.run
  have one := appendOutput_phase state.status stdout
  have two := appendOutput_phase (state.status.appendOutput stdout) stderr
  have first := appendOutput_fields state.status stdout
  have second := appendOutput_fields (state.status.appendOutput stdout) stderr
  refine ⟨?_, ?_, ?_, ?_, ?_, ?_, ?_⟩
  · rw [status, two.1, one.1]
    exact placed.phase
  · rw [status, second.1, first.1]
    exact placed.progress
  · rw [status, second.2, first.2]
    exact placed.target
  · rw [status, two.2, one.2]
    exact placed.redirect
  · rw [run]
    exact placed.installing
  · rw [run]
    exact placed.activated
  · rw [status]
    exact placed.log.change (.appendCommandOutput stdout stderr)

/-- A write takes the status from its place to the next one. -/
theorem located_written {change : Change} {next : Stage} (located : Located stage state)
    (writes : Stage.Writes stage change next)
    (noted : Notes service state (.tell (.write change)) () after) : Located next after := by
  have status : after.status = change.apply state.status := noted.status
  have run : after.run = remembered service state (.tell (.write change)) () := noted.run
  have started : UpdateLog.Started after.status.log := by
    rw [status]
    exact located.truthful.log.change change
  cases writes with
  | reset =>
      refine ⟨?_, ?_, ?_, ?_, ?_, ?_, started⟩
      · rw [status]
        rfl
      · rw [status]
        rfl
      · rw [status]
        rfl
      · rw [status]
        rfl
      · rw [run]
        rfl
      · rw [run]
        rfl
  | check message =>
      have placed : At state ⟨.checking, false, none, false, false⟩ := located
      exact placed.setPhase rfl noted
  | aim target =>
      have placed : At state ⟨.checking, false, none, false, false⟩ := located
      refine ⟨?_, ?_, ?_, ?_, ?_, ?_, started⟩
      · rw [status]
        exact placed.phase
      · rw [status]
        exact placed.progress
      · rw [status]
        rfl
      · rw [status]
        exact placed.redirect
      · rw [run]
        exact placed.installing
      · rw [run]
        exact placed.activated
  | complete message =>
      have placed : At state ⟨.checking, true, none, false, false⟩ := located
      refine ⟨?_, ?_, ?_, ?_, ?_, ?_, started⟩
      · rw [status]
        rfl
      · rw [status]
        rfl
      · rw [status]
        exact placed.target
      · rw [status]
        exact placed.redirect
      · rw [run]
        exact placed.installing
      · rw [run]
        exact placed.activated
  | download message =>
      have placed : At state ⟨.checking, true, none, false, false⟩ := located
      exact placed.setPhase rfl noted
  | extract message =>
      have placed : At state ⟨.downloading, true, none, false, false⟩ := located
      exact placed.setPhase rfl noted
  | compile message =>
      have placed : At state ⟨.extracting, true, none, false, false⟩ := located
      exact placed.setPhase rfl noted
  | output stdout stderr =>
      have placed : At state ⟨.compiling, true, none, false, false⟩ := located
      exact placed.appendCommandOutput noted
  | install message =>
      have placed : At state ⟨.compiling, true, none, false, false⟩ := located
      exact placed.setPhase rfl noted
  | restart target =>
      have placed : At state ⟨.installing, true, none, true, true⟩ := located
      refine ⟨?_, ?_, ?_, ?_, ?_, ?_, started⟩
      · rw [status]
        rfl
      · rw [status]
        rfl
      · rw [status]
        exact placed.target
      · rw [status]
        rfl
      · rw [run]
        exact placed.installing
      · rw [run]
        exact placed.activated
  | fail message attempting =>
      refine ⟨?_, ?_, started⟩
      · rw [status]
        rfl
      · rw [status]
        rfl

/-- After the release nothing is allowed. -/
theorem allows_before {command : Command} (allowed : (diagram service).allows stage command) :
    stage ≠ .released := by
  rintro rfl
  cases command with
  | ask request =>
      cases request with
      | rename source target =>
          rcases allowed with same | same
          · cases same
          · cases same
      | _ => cases allowed
  | tell order =>
      cases order with
      | write change =>
          rcases Option.isSome_iff_exists.mp allowed with ⟨next, written⟩
          cases Stage.writes_of_written written with
          | fail message attempting => cases attempting
      | _ => cases allowed

theorem writes_before {change : Change} {next : Stage} (writes : Stage.Writes stage change next) :
    next ≠ .released := by
  cases writes with
  | _ => exact nofun

theorem asked_before {request : Request} {reply : Except String request.Answer}
    (before : stage ≠ .released) : stage.asked service request reply ≠ .released := by
  unfold Stage.asked
  split
  · split
    · exact nofun
    · exact before
  · exact before

/-- An allowed command goes along the diagram. -/
theorem linked_acted {command : Command} {reply : command.Reply} (linked : Linked stage state)
    (allowed : (diagram service).allows stage command)
    (noted : Notes service state command reply after) :
    Linked ((diagram service).leads stage command reply) after := by
  rcases linked with ⟨running, located⟩
  have before := allows_before allowed
  have claimed : state.running = true := running.trans (decide_eq_true before)
  cases command with
  | ask request =>
      refine ⟨?_, located_asked located allowed noted⟩
      exact (noted.running.trans claimed).trans (decide_eq_true (asked_before before)).symm
  | tell order =>
      have kept : after.status = state.status -> after.run = state.run ->
          Located stage after := by
        intro status run
        exact located.same status (by rw [run]) (by rw [run])
      cases order with
      | write change =>
          rcases Option.isSome_iff_exists.mp allowed with ⟨next, written⟩
          have writes := Stage.writes_of_written written
          have leads : (diagram service).leads stage (.tell (.write change)) reply = next := by
            show (stage.written change).getD stage = next
            rw [written]
            rfl
          rw [leads]
          refine ⟨?_, located_written located writes noted⟩
          exact (noted.running.trans claimed).trans (decide_eq_true (writes_before writes)).symm
      | release =>
          refine ⟨noted.running, ?_⟩
          have rested := located.rested allowed
          have resting : Located .claimed state := rested
          have status : after.status = state.status := noted.status
          have run : after.run = state.run := noted.run
          exact resting.same status (by rw [run]) (by rw [run])
      | _ => exact ⟨noted.running.trans running, kept noted.status noted.run⟩

/-- Nobody has the flag, and an update can begin. -/
def Free (state : State) : Prop := state.running = false ∧ Rested state

theorem mapped_diagram (service : SourceUpdateService Version) :
    Mapped (machine service) (notes service) (diagram service) Linked Free where
  busy := fun linked allowed => linked.1.trans (decide_eq_true (allows_before allowed))
  task := by
    intro state free
    refine ⟨.claimed, ⟨rfl, ?_⟩, ?_⟩
    · have located : Located .claimed state := free.2
      exact located.same rfl rfl rfl
    · apply Follows.mono follows_updateTask
      rintro _ last rfl after linked
      exact linked
  acted := linked_acted

/-- A write moves the phase along the arrows, or leaves it. -/
theorem next_written {change : Change} {next : Stage} (located : Located stage state)
    (writes : Stage.Writes stage change next)
    (noted : Notes service state (.tell (.write change)) () after) :
    after.status.phase = state.status.phase ∨
      after.status.phase ∈ state.status.phase.next := by
  have status : after.status = change.apply state.status := noted.status
  have phases : forall place place', stage.place = some place -> next.place = some place' ->
      place'.phase = place.phase ∨ place'.phase ∈ place.phase.next ->
      after.status.phase = state.status.phase ∨
        after.status.phase ∈ state.status.phase.next := by
    intro place place' here there arrow
    have later := located_written located writes noted
    unfold Located at located later
    rw [here] at located
    rw [there] at later
    rw [located.phase, later.phase]
    exact arrow
  cases writes with
  | reset =>
      right
      have rests := (show Rested state from located).rests
      rw [status]
      show UpdatePhase.checking ∈ _
      cases shown : state.status.phase with
      | idle | complete | failed | restarting => decide
      | _ =>
          rw [shown] at rests
          cases rests
  | fail message attempting =>
      right
      rw [status]
      show UpdatePhase.failed ∈ state.status.phase.next
      cases stage with
      | claimed | completed | failed | released => cases attempting
      | _ =>
          rw [located.phase]
          decide
  | _ => exact phases _ _ rfl rfl (by decide)

/-- Whatever an update does next, the phase moves along the arrows or stays. -/
theorem next_acted {command : Command} {reply : command.Reply} (linked : Linked stage state)
    (allowed : (diagram service).allows stage command)
    (noted : Notes service state command reply after) :
    after.status.phase = state.status.phase ∨
      after.status.phase ∈ state.status.phase.next := by
  have status := noted.status
  cases command with
  | ask request =>
      left
      rw [status]
      rfl
  | tell order =>
      cases order with
      | write change =>
          rcases Option.isSome_iff_exists.mp allowed with ⟨next, written⟩
          exact next_written linked.2 (Stage.writes_of_written written) noted
      | _ =>
          left
          rw [status]
          rfl

end Service

theorem started_initial {Version : Type} (service : SourceUpdateService Version) :
    UpdateLog.Started service.initialStatus.log := by
  right
  unfold SourceUpdateService.initialStatus
  dsimp only
  split
  · exact ⟨(by decide : List.getLast? _ = some '\n'), by decide +kernel⟩
  · refine ⟨?_, by decide +kernel⟩
    rw [String.toList_append]
    exact List.getLast?_concat

theorem truthful_initial {Version : Type} (service : SourceUpdateService Version) {state : State}
    (fresh : state.status = service.initialStatus) : Truthful state := by
  constructor
  · rw [fresh]
    rfl
  · intro _
    rw [fresh]
    exact Or.inl rfl
  · intro _
    rw [fresh]
    rfl
  · rw [fresh]
    exact nofun
  · rw [fresh]
    exact nofun
  · rw [fresh]
    exact started_initial service

/-- In every run of the service, whatever fails: at most one update is under way,
the status is truthful, a service without an update rests, and whatever happens
next moves the phase along an arrow of the diagram or leaves it. -/
theorem updates_follow_diagram {Version : Type} (service : SourceUpdateService Version)
    {start : State} (idle : start.running = false) (fresh : start.status = service.initialStatus)
    {config : Exclusive.Config calls State}
    (reached : (machine service).Reaches (notes service) ⟨start, []⟩ config) :
    config.tasks.length ≤ 1 ∧ Truthful config.state ∧
      (config.state.running = false -> config.state.status.phase.rests = true) ∧
      forall after, (machine service).Moves (notes service) config after ->
        after.state.status.phase = config.state.status.phase ∨
          after.state.status.phase ∈ config.state.status.phase.next := by
  have begins : Free start := by
    refine ⟨idle, truthful_initial service fresh, ?_⟩
    rw [fresh]
    rfl
  have guided := Exclusive.Reaches.guided (mapped_diagram service) begins reached
  refine ⟨?_, ?_, ?_, ?_⟩
  · rcases guided with ⟨none, -⟩ | ⟨stage, command, next, one, -, -⟩
    · rw [none]
      exact Nat.zero_le 1
    · rw [one]
      exact Nat.le_refl 1
  · rcases guided with ⟨-, free⟩ | ⟨stage, command, next, -, linked, -⟩
    · exact free.2.truthful
    · exact linked.2.truthful
  · intro released
    rcases guided with ⟨-, free⟩ | ⟨stage, command, next, -, linked, follows⟩
    · exact free.2.rests
    · have held := linked.1.trans (decide_eq_true (allows_before follows.allowed))
      rw [released] at held
      cases held
  · intro after moved
    cases moved with
    | asked => exact Or.inl rfl
    | refused busy => exact Or.inl rfl
    | started free => exact Or.inl rfl
    | @worked state after command next reply before later acted =>
        rcases guided with ⟨none, -⟩ | ⟨stage, command', next', one, linked, follows⟩
        · exact absurd none (List.append_ne_nil_of_right_ne_nil _ (List.cons_ne_nil _ _))
        · rcases List.append_eq_singleton_iff.mp one with ⟨rfl, same⟩ | ⟨-, impossible⟩
          · cases same
            exact next_acted linked follows.allowed acted
          · cases impossible

end Updater

namespace Sample

open Interaction Updater

/-- The service as it is created. -/
def freshState : Updater.State :=
  { unitState with status := updater.initialStatus }

/-- An update whose new executable cannot be started. -/
def stranded : Option Updater.State :=
  Exclusive.finish (enactUpdate false) (updateTask updater) { freshState with running := true }

theorem updates_follow_diagram_stranded :
    Exists fun state : Updater.State => stranded = some state ∧ state.status.phase = .failed ∧
      Truthful state ∧ state.status.phase.rests = true := by
  have all : stranded.map (fun state => (state.status.phase, state.running)) =
      some (.failed, false) := by decide +kernel
  rcases Option.map_eq_some_iff.mp all with ⟨last, finished, same⟩
  injection same with phase released
  have moved := Exclusive.Reaches.next
    (@Exclusive.Reaches.here _ _ (machine updater) (notes updater) ⟨freshState, []⟩)
    (@Exclusive.Moves.started _ _ _ _ ⟨freshState, []⟩ rfl)
  rw [List.append_nil] at moved
  have reached : (machine updater).Reaches (notes updater) ⟨freshState, []⟩ ⟨last, []⟩ := by
    have lawful : Lawful { freshState with running := true } := Or.inr (Or.inr rfl)
    refine Exclusive.reaches_finish ?_ lawful moved finished
    intro state command reply after lawful enacted
    have one := enactUpdate_acts lawful enacted
    exact ⟨⟨one.1.1.running, one.1.1.status, one.1.1.run⟩, one.2⟩
  rcases updates_follow_diagram updater rfl rfl reached with ⟨-, truthful, rests, -⟩
  exact ⟨last, finished, phase, truthful, rests released⟩

end Sample
end KrakenUi
