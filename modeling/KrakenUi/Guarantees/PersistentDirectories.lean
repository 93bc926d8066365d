import KrakenUi.Guarantees.DatabaseFiles

namespace KrakenUi
namespace Config

open FileSystem

/-!
# Which directories are known not to be writable

The check takes a path with an extension for a file and looks at its parent,
and any other path for a directory.  It looks at the directory of the database
when the path has an extension and a directory part, and at the directory of
the logs when that path has no extension.

For every other spelling of one of the two paths there is a file system in which
everything else is in order, the directory can be written by everyone, and the
configuration is accepted.
-/

/-- The directory that contains the file of a path: the working directory for a bare
name.  A path without a file name, such as one that ends in two dots, names no file. -/
def containingDirectory (path : PathBuf) : Option (List Component) :=
  match fileName path with
  | none => none
  | some _ => (parent path).map fun above => if above = [] then [.curDir] else above

/-- What is walked is no directory that the group or others may write. -/
def NotLoose (files : FileTree) (walked : List Component) : Prop :=
  forall metadata, files.metadata walked = some metadata -> metadata.directory = true ->
    directoryHasLooseWritePermissions metadata = false

def DatabaseProtected (files : FileTree) (path : PathBuf) : Prop :=
  forall walked, containingDirectory path = some walked -> NotLoose files walked

def LogsProtected (files : FileTree) (path : PathBuf) : Prop :=
  NotLoose files (steps path)

abbrev HasExtension (path : PathBuf) : Prop :=
  ((fileName path).bind Name.extension).isSome = true

/-- The path has a directory in front of its name. -/
def HasDirectoryPart (path : PathBuf) : Prop :=
  forall above, parent path = some above -> above ≠ []

section Checked

variable {files : FileTree} {path : PathBuf} {field : String}

theorem notLoose_of_passed (passed : validatePersistentDirectory files path field = .ok ()) :
    NotLoose files (persistentDirectory path) := by
  intro metadata known _
  unfold validatePersistentDirectory at passed
  rw [known] at passed
  exact bailIf_eq_ok.mp passed

theorem containingDirectory_some {name : Name} (named : fileName path = some name)
    {above : List Component} (isParent : parent path = some above) :
    containingDirectory path = some (if above = [] then [.curDir] else above) := by
  unfold containingDirectory
  rw [named, isParent]
  rfl

/-- A file with an extension has its directory checked, if the path names it. -/
theorem databaseProtected_of_passed
    (passed : validatePersistentDirectory files path field = .ok ())
    (extended : HasExtension path) (part : HasDirectoryPart path) :
    DatabaseProtected files path := by
  rintro walked contained
  cases named : fileName path with
  | none =>
      unfold containingDirectory at contained
      rw [named] at contained
      cases contained
  | some name =>
      rcases components_of_fileName named with ⟨above, -, isParent⟩
      rw [containingDirectory_some named isParent, if_neg (part above isParent)] at contained
      cases contained
      have checked := notLoose_of_passed passed
      rw [persistentDirectory, if_pos extended, isParent] at checked
      exact checked

theorem logsProtected_of_passed (passed : validatePersistentDirectory files path field = .ok ())
    (extensionless : ¬ HasExtension path) : LogsProtected files path := by
  have checked := notLoose_of_passed passed
  rw [persistentDirectory, if_neg extensionless] at checked
  exact checked

end Checked

/-! ## Where the check looks elsewhere -/

/-- Where a walk leads from the root, without links. -/
abbrev place (walked : List Component) : Path := walked.foldl Component.move []

/-- Everything is a directory of its owner, but one that everyone can write. -/
def looseAt (open' : Path) : FileTree where
  disk := fun _ => some .directory
  tree := ⟨rfl, fun _ _ _ => rfl⟩
  workingDirectory := []
  working := rfl
  identity := fun _ => (1, 2)
  mode := fun path => if path = open' then 0o777 else 0o700

section Elsewhere

variable {path : PathBuf} {open' : Path} {walked : List Component}

theorem metadata_looseAt (some' : walked ≠ []) : (looseAt open').metadata walked =
    some ⟨(1, 2), if place walked = open' then 0o777 else 0o700, true⟩ := by
  have leads : (looseAt open').canonicalize walked = some (place walked) :=
    ((looseAt open').canonicalize_eq_some).mpr
      ⟨some', Disk.follow_directories (fun _ => rfl) _ _ _⟩
  unfold FileTree.metadata
  rw [leads]
  rfl

theorem metadata_nil (files : FileTree) : files.metadata [] = none := rfl

/-- The directory that everyone can write is found. -/
theorem not_notLoose (some' : walked ≠ []) (leads : place walked = open') :
    ¬ NotLoose (looseAt open') walked := by
  intro tight
  have mode := tight _ (metadata_looseAt some') rfl
  rw [if_pos leads] at mode
  revert mode
  decide

/-- What is somewhere else passes the checks. -/
theorem passed_apart (apart : place (persistentDirectory path) ≠ open') (field : String) :
    validatePersistentDirectory (looseAt open') path field = .ok () := by
  unfold validatePersistentDirectory
  by_cases empty : persistentDirectory path = []
  · rw [empty, metadata_nil]
  · rw [metadata_looseAt empty]
    dsimp only
    rw [if_neg apart]
    rfl

theorem passed_missing (missing : persistentDirectory path = []) (field : String) :
    validatePersistentDirectory (looseAt open') path field = .ok () := by
  unfold validatePersistentDirectory
  rw [missing, metadata_nil]

theorem keyPassed_apart (apart : place (steps path) ≠ open') :
    validatePrivateKeyPermissions (looseAt open') path = .ok () := by
  unfold validatePrivateKeyPermissions
  by_cases empty : steps path = []
  · rw [empty, metadata_nil]
  · rw [metadata_looseAt empty]
    dsimp only
    rw [if_neg apart]
    rfl

/-- Some path is not the one that everyone can write. -/
theorem exists_apart (open' : Path) : Exists fun path : PathBuf =>
    path ≠ [] ∧ persistentDirectory path = steps path ∧ place (steps path) ≠ open' := by
  by_cases root : open' = []
  · subst root
    exact ⟨[slash, 107], by decide, by decide, by decide⟩
  · have top : place (steps [slash]) = [] := by decide
    exact ⟨[slash], by decide, by decide, by rw [top]; exact Ne.symm root⟩

/-- A configuration with nothing but what is required. -/
def bareConfig (databasePath logDirectory keyPath : PathBuf) : AppConfig where
  certificatePath := keyPath
  privateKeyPath := keyPath
  listen := "127.0.0.1:3443"
  databasePath := databasePath
  wafDatabasePath := none
  wafEndpoint := "https://127.0.0.1:4343"
  wafCertificatePath := none
  wafRuleEndpoint := none
  wafRuleCertificatePath := none
  logDirectory := logDirectory
  sessionTimeoutMinutes := 30
  adminSessionTimeLimitSeconds := defaultAdminSessionTimeLimitSeconds
  trustedProxyIps := []

theorem validate_bareConfig {files : FileTree} {databasePath logDirectory keyPath : PathBuf}
    (keyNamed : keyPath ≠ []) (databaseNamed : databasePath ≠ [])
    (key : validatePrivateKeyPermissions files keyPath = .ok ())
    (database : validatePersistentDirectory files databasePath "db-ui" = .ok ())
    (logs : validatePersistentDirectory files logDirectory "log-dir" = .ok ()) :
    (bareConfig databasePath logDirectory keyPath).validate files = .ok () := by
  have address : (Net.IpParse.parseSocketAddr "127.0.0.1:3443".toList).isNone = false := by decide
  have listens : Text.isEmpty (Text.trim "127.0.0.1:3443") = false := by decide
  have secure : startsWithHttps "https://127.0.0.1:4343" = true := by decide
  have minutes : decide (30 < minimumSessionMinutes ∨ maximumSessionMinutes < 30) = false := by
    decide
  have seconds : decide (defaultAdminSessionTimeLimitSeconds = 0 ∨
      maximumAdminSessionTimeLimitSeconds < defaultAdminSessionTimeLimitSeconds) = false := by
    decide
  unfold AppConfig.validate
  simp only [check_eq_ok, bailIf_eq_ok]
  refine ⟨listens, address, ?_, ?_, ?_, rfl, rfl, key, database, logs, rfl, minutes, seconds,
    ?_, rfl, rfl, rfl⟩
  · exact List.isEmpty_eq_false_iff.mpr keyNamed
  · exact List.isEmpty_eq_false_iff.mpr keyNamed
  · exact List.isEmpty_eq_false_iff.mpr databaseNamed
  · exact congrArg not secure

theorem place_concat (above : List Component) (name : Name) :
    place (above ++ [.normal name]) = place above ++ [name] :=
  List.foldl_append

/-- A file is not in the place of its directory. -/
theorem place_steps {name : Name} {above : List Component} (named : fileName path = some name)
    (isParent : parent path = some above) : place (steps path) = place above ++ [name] := by
  rcases steps_of_fileName isParent named with whole | whole
  · rw [whole, place_concat]
  · have still : place (above ++ [.normal name, .curDir]) = place (above ++ [.normal name]) := by
      simp only [place, List.foldl_append, List.foldl_cons, List.foldl_nil, Component.move]
    rw [whole, still, place_concat]

theorem steps_ne_nil {name : Name} (named : fileName path = some name) : steps path ≠ [] := by
  rcases components_of_fileName named with ⟨above, -, isParent⟩
  rcases steps_of_fileName isParent named with whole | whole
  · rw [whole]
    exact List.append_ne_nil_of_right_ne_nil _ (List.cons_ne_nil _ _)
  · rw [whole]
    exact List.append_ne_nil_of_right_ne_nil _ (List.cons_ne_nil _ _)

theorem concat_ne (here : Path) (name : Name) : here ++ [name] ≠ here := by
  intro same
  have lengths := congrArg List.length same
  simp at lengths

/-- A file without an extension or a directory part: its directory is not looked at. -/
theorem database_overlooked {name : Name} (named : fileName path = some name)
    (overlooked : ¬ (HasExtension path ∧ HasDirectoryPart path)) :
    Exists fun files => Exists fun config : AppConfig => config.databasePath = path ∧
      config.validate files = .ok () ∧ ¬ DatabaseProtected files path := by
  rcases components_of_fileName named with ⟨above, whole, isParent⟩
  rcases exists_apart (place above) with ⟨other, some', itself, apart⟩
  have written : path ≠ [] := by
    rintro rfl
    cases named
  refine ⟨looseAt (place above), bareConfig path other other, rfl,
    validate_bareConfig some' written (keyPassed_apart apart) ?_ (passed_apart ?_ _), ?_⟩
  · by_cases extended : HasExtension path
    · have bare : above = [] := by
        by_contra nonempty
        apply overlooked
        refine ⟨extended, ?_⟩
        intro other isParent'
        rw [isParent] at isParent'
        cases isParent'
        exact nonempty
      apply passed_missing
      rw [persistentDirectory, if_pos extended, isParent, bare]
      rfl
    · apply passed_apart
      rw [persistentDirectory, if_neg extended, place_steps named isParent]
      exact concat_ne _ _
  · rw [itself]
    exact apart
  · intro tight
    have walked := tight _ (containingDirectory_some named isParent)
    revert walked
    split
    · rename_i bare
      exact not_notLoose (List.cons_ne_nil _ _) (by rw [bare]; rfl)
    · rename_i nonempty
      exact not_notLoose nonempty rfl

/-- A directory with an extension: its parent is looked at. -/
theorem logs_overlooked (extended : HasExtension path) :
    Exists fun files => Exists fun config : AppConfig => config.logDirectory = path ∧
      config.validate files = .ok () ∧ ¬ LogsProtected files path := by
  rcases Option.isSome_iff_exists.mp extended with ⟨suffix, found⟩
  rcases Option.bind_eq_some_iff.mp found with ⟨name, named, -⟩
  rcases components_of_fileName named with ⟨above, -, isParent⟩
  rcases exists_apart (place (steps path)) with ⟨other, some', itself, apart⟩
  refine ⟨looseAt (place (steps path)), bareConfig other path other, rfl,
    validate_bareConfig some' some' (keyPassed_apart apart) (passed_apart ?_ _)
      (passed_apart ?_ _), ?_⟩
  · rw [itself]
    exact apart
  · rw [persistentDirectory, if_pos extended, isParent, place_steps named isParent]
    exact Ne.symm (concat_ne _ _)
  · exact not_notLoose (steps_ne_nil named) rfl

end Elsewhere

/-- A spelling of the database's path keeps others out of its directory, in every file
system and every configuration that is accepted, exactly when it has an extension and a
directory part or names no file; and a spelling of the path of the logs exactly when it
has no extension. -/
theorem directories_protected_iff (databasePath logDirectory : PathBuf) :
    ((forall (files : FileTree) (config : AppConfig), config.databasePath = databasePath ->
        config.validate files = .ok () -> DatabaseProtected files databasePath) ↔
      ((fileName databasePath).isSome = true ->
        HasExtension databasePath ∧ HasDirectoryPart databasePath)) ∧
    ((forall (files : FileTree) (config : AppConfig), config.logDirectory = logDirectory ->
        config.validate files = .ok () -> LogsProtected files logDirectory) ↔
      ¬ HasExtension logDirectory) := by
  constructor
  · constructor
    · intro protected' isNamed
      rcases Option.isSome_iff_exists.mp isNamed with ⟨name, named⟩
      by_contra overlooked
      rcases database_overlooked named overlooked with ⟨files, config, same, accepted, loose⟩
      exact loose (protected' files config same accepted)
    · rintro spelled files config rfl accepted
      cases named : fileName config.databasePath with
      | none =>
          intro walked contained
          unfold containingDirectory at contained
          rw [named] at contained
          cases contained
      | some name =>
          rcases spelled (by rw [named]; rfl) with ⟨extended, part⟩
          exact databaseProtected_of_passed (passed_of_validate accepted).2.1 extended part
  · constructor
    · intro protected' extended
      rcases logs_overlooked extended with ⟨files, config, same, accepted, loose⟩
      exact loose (protected' files config same accepted)
    · rintro extensionless files config rfl accepted
      exact logsProtected_of_passed (passed_of_validate accepted).2.2 extensionless

end Config

namespace Sample

open FileSystem Config

/-- The root can be written by everyone, and nothing else is there. -/
def openFiles : FileTree := { emptyFiles with mode := fun _ => 0o777 }

/-- A bare name is accepted in a working directory that everyone can write. -/
theorem loose_directory_accepted :
    (plainConfig (pathText "ui.sqlite") (pathText "alerts.sqlite")).validate openFiles = .ok () ∧
      ¬ DatabaseProtected openFiles (pathText "ui.sqlite") := by
  refine ⟨by rfl, ?_⟩
  intro keepsOut
  have tight := keepsOut [.curDir] rfl ⟨(1, 2), 0o777, true⟩ rfl rfl
  revert tight
  decide

end Sample
end KrakenUi
