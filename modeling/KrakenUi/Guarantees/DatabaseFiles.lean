import KrakenUi.Config

namespace KrakenUi
namespace Config

open FileSystem

/-!
# Which paths to one file are noticed

Two paths name the same file when they lead to one inode, or to one place where
it would be created.  The check notices files that exist.  A file that does not
exist is noticed under two different texts when both have a directory part that
is there, unless one of them is a link to where it would be.
-/

/-- The two paths lead to one file, or would once it is created. -/
def SameFile (files : FileTree) (left right : PathBuf) : Prop :=
  (Exists fun leftMeta => Exists fun rightMeta =>
    files.metadata (steps left) = some leftMeta ∧ files.metadata (steps right) = some rightMeta ∧
      leftMeta.identity = rightMeta.identity) ∨
    Exists fun place =>
      files.destination (steps left) = some place ∧ files.destination (steps right) = some place

/-- The entry of a directory that a path names, when it has a directory part
and the directory exists. -/
def Entry (files : FileTree) (path : PathBuf) (place : Path) : Prop :=
  Exists fun above => Exists fun name => parent path = some above ∧ above ≠ [] ∧
    fileName path = some name ∧ Exists fun directory =>
      files.canonicalize above = some directory ∧ place = directory ++ [name]

/-- The same text, a file that exists, or entries of existing directories of
which neither is a link or both are the same. -/
def Noticed (files : FileTree) (left right : PathBuf) : Prop :=
  components left = components right ∨
    ((files.metadata (steps left)).isSome = true ∧
      (files.metadata (steps right)).isSome = true) ∨
    Exists fun leftPlace => Exists fun rightPlace =>
      Entry files left leftPlace ∧ Entry files right rightPlace ∧
        ((files.disk.isSymlink leftPlace = false ∧ files.disk.isSymlink rightPlace = false) ∨
          leftPlace = rightPlace)

section Entries

variable {files : FileTree} {left right path : PathBuf}

theorem normalized_eq_some {directory : Path} {name : Name} :
    normalizedWithExistingParent files path = some (directory, name) ↔
      Exists fun above => parent path = some above ∧ above ≠ [] ∧ fileName path = some name ∧
        files.canonicalize above = some directory := by
  unfold normalizedWithExistingParent
  constructor
  · intro normalized
    rcases Option.bind_eq_some_iff.mp normalized with ⟨above, filtered, rest⟩
    rcases Option.filter_eq_some_iff.mp filtered with ⟨isParent, nonempty⟩
    rcases Option.bind_eq_some_iff.mp rest with ⟨other, named, last⟩
    rcases Option.map_eq_some_iff.mp last with ⟨canonical, found, same⟩
    cases same
    exact ⟨above, isParent, by simpa using nonempty, named, found⟩
  · rintro ⟨above, isParent, nonempty, named, found⟩
    rw [isParent, Option.filter_some_pos (by simpa using nonempty), Option.bind_some, named,
      Option.bind_some, found, Option.map_some]

theorem entry_iff {place : Path} : Entry files path place ↔
    Exists fun directory => Exists fun name =>
      normalizedWithExistingParent files path = some (directory, name) ∧
        place = directory ++ [name] := by
  constructor
  · rintro ⟨above, name, isParent, nonempty, named, directory, found, rfl⟩
    exact ⟨directory, name, normalized_eq_some.mpr ⟨above, isParent, nonempty, named, found⟩, rfl⟩
  · rintro ⟨directory, name, normalized, rfl⟩
    rcases normalized_eq_some.mp normalized with ⟨above, isParent, nonempty, named, found⟩
    exact ⟨above, name, isParent, nonempty, named, directory, found, rfl⟩

/-- A path is its directory part, its name and perhaps a wish for a directory. -/
theorem steps_of_fileName {above : List Component} {name : Name}
    (isParent : parent path = some above)
    (named : fileName path = some name) :
    steps path = above ++ [.normal name] ∨ steps path = above ++ [.normal name, .curDir] := by
  rcases components_of_fileName named with ⟨front, whole, same⟩
  rw [isParent] at same
  cases same
  unfold steps
  split
  · rename_i empty
    have nothing : components [] = [] := by decide
    rw [empty, nothing] at whole
    simp at whole
  · split
    · rw [whole, List.append_assoc]
      exact Or.inr rfl
    · rw [whole]
      exact Or.inl rfl

/-- An entry that is no link is where its path leads. -/
theorem destination_of_entry {place destination : Path} (entry : Entry files path place)
    (unlinked : files.disk.isSymlink place = false)
    (leads : files.destination (steps path) = some destination) : destination = place := by
  rcases entry with ⟨above, name, isParent, -, named, directory, found, rfl⟩
  rcases files.canonicalize_eq_some.mp found with ⟨-, follows⟩
  rcases Disk.settle_append files.tree files.working follows with ⟨left, continues⟩
  have settles : forall tail, tail = [] ∨ tail = [.curDir] ->
      files.disk.beyond left directory (.normal name :: tail) = some destination ->
        destination = directory ++ [name] := by
    intro tail shape inside
    unfold Disk.beyond at inside
    split at inside
    · have ends : forall left', files.disk.settle left' (directory ++ [name]) tail =
          some (directory ++ [name]) := by
        intro left'
        rcases shape with rfl | rfl
        · exact Disk.settle_nil _ _
        · rw [Disk.settle_curDir, Disk.settle_nil]
      cases there : files.disk (directory ++ [name]) with
      | none =>
          rw [Disk.settle_missing there, ends] at inside
          exact (Option.some.inj inside).symm
      | some node =>
          by_cases isDirectory : node = .directory
          · subst isDirectory
            rw [Disk.settle_directory there, ends] at inside
            exact (Option.some.inj inside).symm
          · have leaf : forall target, node ≠ .link target := by
              rintro target rfl
              rw [Disk.isSymlink, there] at unlinked
              cases unlinked
            rw [Disk.settle_leaf there isDirectory leaf] at inside
            split at inside
            · exact (Option.some.inj inside).symm
            · cases inside
    · cases inside
  unfold FileTree.destination at leads
  split at leads
  · cases leads
  · rcases steps_of_fileName isParent named with whole | whole
    · rw [whole, continues] at leads
      exact settles [] (Or.inl rfl) leads
    · rw [whole, continues] at leads
      exact settles [.curDir] (Or.inr rfl) leads

theorem metadata_eq_some {walked : List Component} {metadata : Metadata}
    (known : files.metadata walked = some metadata) :
    Exists fun place => files.canonicalize walked = some place ∧
      metadata.identity = files.identity place := by
  rcases Option.map_eq_some_iff.mp known with ⟨place, found, rfl⟩
  exact ⟨place, found, rfl⟩

/-- Two paths to one existing file have the same identity. -/
theorem identity_of_same {leftMeta rightMeta : Metadata} (same : SameFile files left right)
    (known : files.metadata (steps left) = some leftMeta)
    (known' : files.metadata (steps right) = some rightMeta) :
    leftMeta.identity = rightMeta.identity := by
  rcases same with ⟨one, other, first, second, identity⟩ | ⟨place, first, second⟩
  · rw [known] at first
    rw [known'] at second
    cases first
    cases second
    exact identity
  · rcases metadata_eq_some known with ⟨leftPlace, found, identity⟩
    rcases metadata_eq_some known' with ⟨rightPlace, found', identity'⟩
    rw [files.destination_of_canonicalize found] at first
    rw [files.destination_of_canonicalize found'] at second
    cases first
    cases second
    rw [identity, identity']

theorem sameExistingFile_iff : sameExistingFile files left right = true ↔
    Exists fun leftMeta => Exists fun rightMeta =>
      files.metadata (steps left) = some leftMeta ∧
        files.metadata (steps right) = some rightMeta ∧
          leftMeta.identity = rightMeta.identity := by
  unfold sameExistingFile
  split
  · rename_i leftMeta rightMeta known known'
    rw [sameFileMetadata, decide_eq_true_iff]
    constructor
    · exact fun same => ⟨leftMeta, rightMeta, known, known', same⟩
    · rintro ⟨one, other, first, second, same⟩
      rw [known] at first
      rw [known'] at second
      cases first
      cases second
      exact same
  · rename_i missing
    refine ⟨nofun, ?_⟩
    rintro ⟨one, other, first, second, -⟩
    exact absurd second (missing one other first)

theorem sameNormalized_iff : sameNormalized files left right = true ↔
    Exists fun place => Entry files left place ∧ Entry files right place := by
  unfold sameNormalized
  split
  · rename_i one other first second
    rw [decide_eq_true_iff]
    constructor
    · rintro rfl
      exact ⟨one.1 ++ [one.2], entry_iff.mpr ⟨one.1, one.2, first, rfl⟩,
        entry_iff.mpr ⟨one.1, one.2, second, rfl⟩⟩
    · rintro ⟨place, leftEntry, rightEntry⟩
      rcases entry_iff.mp leftEntry with ⟨directory, name, found, rfl⟩
      rcases entry_iff.mp rightEntry with ⟨directory', name', found', same⟩
      rw [first] at found
      rw [second] at found'
      cases found
      cases found'
      rcases List.append_inj' same rfl with ⟨rfl, names⟩
      rw [List.singleton_inj.mp names]
  · rename_i missing
    refine ⟨nofun, ?_⟩
    rintro ⟨place, leftEntry, rightEntry⟩
    rcases entry_iff.mp leftEntry with ⟨directory, name, found, -⟩
    rcases entry_iff.mp rightEntry with ⟨directory', name', found', -⟩
    exact absurd found' (missing _ _ found)

/-- What the check compares. -/
theorem mayReference_iff : pathsMayReferenceSameFile files left right = true ↔
    components left = components right ∨
      (Exists fun leftMeta => Exists fun rightMeta =>
        files.metadata (steps left) = some leftMeta ∧
          files.metadata (steps right) = some rightMeta ∧
            leftMeta.identity = rightMeta.identity) ∨
      Exists fun place => Entry files left place ∧ Entry files right place := by
  rw [← sameExistingFile_iff, ← sameNormalized_iff]
  unfold pathsMayReferenceSameFile
  split
  · rename_i equal
    exact ⟨fun _ => Or.inl equal, fun _ => rfl⟩
  · rename_i different
    rw [or_iff_right different]
    split
    · rename_i same
      exact ⟨fun _ => Or.inl same, fun _ => rfl⟩
    · rename_i distinct
      rw [or_iff_right distinct]

end Entries

section Rejection

variable {files : FileTree}

theorem bailIf_eq_ok {wrong : Bool} {message : String} :
    bailIf wrong message = .ok () ↔ wrong = false := by
  cases wrong with
  | true => exact ⟨nofun, nofun⟩
  | false => exact ⟨fun _ => rfl, fun _ => rfl⟩

/-- A check in front of others. -/
theorem check_eq_ok {check : Except String Unit} {rest : Unit -> Except String Unit} :
    (check >>= rest) = .ok () ↔ check = .ok () ∧ rest () = .ok () := by
  cases check with
  | error message => exact ⟨nofun, nofun⟩
  | ok done => exact ⟨fun passed => ⟨rfl, passed⟩, And.right⟩

/-- The check of the databases and those of the directories are among those that
an accepted configuration has passed. -/
theorem passed_of_validate {config : AppConfig} (accepted : config.validate files = .ok ()) :
    config.wafDatabasePath.any (pathsMayReferenceSameFile files config.databasePath) = false ∧
      validatePersistentDirectory files config.databasePath "db-ui" = .ok () ∧
        validatePersistentDirectory files config.logDirectory "log-dir" = .ok () := by
  unfold AppConfig.validate at accepted
  simp only [check_eq_ok, bailIf_eq_ok] at accepted
  exact ⟨accepted.2.2.2.2.2.2.1, accepted.2.2.2.2.2.2.2.2.1, accepted.2.2.2.2.2.2.2.2.2.1⟩

/-- The configuration is rejected whatever else it says. -/
def Rejected (files : FileTree) (left right : PathBuf) : Prop :=
  forall config : AppConfig, config.databasePath = left -> config.wafDatabasePath = some right ->
    Exists fun message => config.validate files = .error message

/-- Two paths to one file are noticed, and the configuration is rejected,
exactly when they are the same text, the file exists, or both name an entry of
an existing directory by a directory part, and neither entry is a link or both
are the same. -/
theorem same_file_noticed_iff {left right : PathBuf} (same : SameFile files left right) :
    (pathsMayReferenceSameFile files left right = true ∧ Rejected files left right) ↔
      Noticed files left right := by
  have rejected : pathsMayReferenceSameFile files left right = true ->
      Rejected files left right := by
    rintro noticed config rfl configured
    cases validated : config.validate files with
    | error message => exact ⟨message, rfl⟩
    | ok done =>
        have passed := (passed_of_validate validated).1
        rw [configured, Option.any_some, noticed] at passed
        cases passed
  rw [and_iff_left_of_imp rejected, mayReference_iff]
  constructor
  · rintro (equal | ⟨leftMeta, rightMeta, known, known', -⟩ | ⟨place, leftEntry, rightEntry⟩)
    · exact Or.inl equal
    · exact Or.inr (Or.inl ⟨by rw [known]; rfl, by rw [known']; rfl⟩)
    · exact Or.inr (Or.inr ⟨place, place, leftEntry, rightEntry, Or.inr rfl⟩)
  · rintro (equal | ⟨known, known'⟩ | ⟨leftPlace, rightPlace, leftEntry, rightEntry, shape⟩)
    · exact Or.inl equal
    · rcases Option.isSome_iff_exists.mp known with ⟨leftMeta, known⟩
      rcases Option.isSome_iff_exists.mp known' with ⟨rightMeta, known'⟩
      exact Or.inr (Or.inl ⟨leftMeta, rightMeta, known, known', identity_of_same same known known'⟩)
    · refine Or.inr ?_
      rcases shape with ⟨unlinked, unlinked'⟩ | rfl
      · rcases same with existing | ⟨place, leads, leads'⟩
        · exact Or.inl existing
        · rw [← destination_of_entry leftEntry unlinked leads] at leftEntry
          rw [← destination_of_entry rightEntry unlinked' leads'] at rightEntry
          exact Or.inr ⟨place, leftEntry, rightEntry⟩
      · exact Or.inr ⟨leftPlace, leftEntry, rightEntry⟩

end Rejection
end Config

namespace Sample

open FileSystem Config

/-- The bytes of an ASCII path. -/
def pathText (text : String) : PathBuf := text.toList.map fun character =>
  UInt8.ofNat character.toNat

/-- A file system with nothing in it but the root, where the console runs. -/
def emptyFiles : FileTree where
  disk := fun path => if path = [] then some .directory else none
  tree := ⟨rfl, fun path name there => absurd (if_neg (by simp)) there⟩
  workingDirectory := []
  working := rfl
  identity := fun _ => (1, 2)
  mode := fun _ => 0o755

def plainConfig (databasePath wafDatabasePath : PathBuf) : AppConfig where
  certificatePath := pathText "certs/ca.pem"
  privateKeyPath := pathText "certs/key.pem"
  listen := "127.0.0.1:3443"
  databasePath := databasePath
  wafDatabasePath := some wafDatabasePath
  wafEndpoint := "https://127.0.0.1:4343"
  wafCertificatePath := none
  wafRuleEndpoint := none
  wafRuleCertificatePath := none
  logDirectory := pathText "log"
  sessionTimeoutMinutes := 30
  adminSessionTimeLimitSeconds := defaultAdminSessionTimeLimitSeconds
  trustedProxyIps := []

/-- A path of two names for one file in the working directory is noticed. -/
theorem same_file_noticed_iff_parent :
    pathsMayReferenceSameFile emptyFiles (pathText "./ui.sqlite") (pathText "../ui.sqlite") =
        true ∧
      Rejected emptyFiles (pathText "./ui.sqlite") (pathText "../ui.sqlite") := by
  have same : SameFile emptyFiles (pathText "./ui.sqlite") (pathText "../ui.sqlite") :=
    Or.inr ⟨_, rfl, rfl⟩
  apply (same_file_noticed_iff same).mpr
  refine Or.inr (Or.inr ⟨_, _, ⟨[.curDir], _, rfl, by decide, rfl, [], rfl, rfl⟩,
    ⟨[.parentDir], _, rfl, by decide, rfl, [], rfl, rfl⟩, Or.inr rfl⟩)

/-- A bare name and the same name in the working directory would be one file,
and the configuration is accepted. -/
theorem same_file_missed :
    SameFile emptyFiles (pathText "ui.sqlite") (pathText "./ui.sqlite") ∧
      pathsMayReferenceSameFile emptyFiles (pathText "ui.sqlite") (pathText "./ui.sqlite") =
          false ∧
        (plainConfig (pathText "ui.sqlite") (pathText "./ui.sqlite")).validate emptyFiles =
          .ok () :=
  ⟨Or.inr ⟨_, rfl, rfl⟩, by decide, by rfl⟩

end Sample
end KrakenUi
