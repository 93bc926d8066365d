import KrakenUi.Guarantees.Installation

namespace KrakenUi
namespace SourceUpdate

open FileSystem Interaction

/-!
# Where an archive is unpacked

An archive chooses its paths freely.  Only paths of plain names pass, the first
of which is dropped, so every call of the extraction is about a path below its
directory.  There it finds no symbolic links, because it has made everything
that is there itself, and it makes none.
-/

/-- The path of the file for an entry: that of the entry without its first name. -/
structure Strips (destination : Path) (entries : List TarEntry) (entry : TarEntry)
    (path : Path) : Prop where
  member : entry ∈ entries
  regular : entry.entryType = .regular
  stripped : Exists fun first => Exists fun rest =>
    components entry.path = .normal first :: rest.map .normal ∧ rest ≠ [] ∧
      path = destination ++ rest

/-- A call that only concerns what is below the directory. -/
def Inward (destination : Path) (entries : List TarEntry) : Command -> Prop
  | .createDirAll path => destination <+: path
  | .unpack entry path => Strips destination entries entry path
  | .copy _ _ | .pathExists _ | .isSymlink _ => False
  | .bail _ | .readEntry | .readDir => True

section Commands

variable {destination : Path} {entries : List TarEntry}

theorem normals_spec {parts : List Component} {names : List Name}
    (passed : normals parts = some names) : parts = names.map .normal := by
  induction parts generalizing names with
  | nil =>
      cases passed
      rfl
  | cons part rest inductionHypothesis =>
      cases part with
      | normal name =>
          rcases Option.map_eq_some_iff.mp passed with ⟨others, found, rfl⟩
          rw [inductionHypothesis found]
          rfl
      | rootDir => cases passed
      | curDir => cases passed
      | parentDir => cases passed

theorem stripArchiveRoot_spec {path : List UInt8} {relative : Path}
    (passed : stripArchiveRoot path = .ok relative) :
    Exists fun first => components path = .normal first :: relative.map .normal := by
  unfold stripArchiveRoot at passed
  split at passed
  · rename_i first rest split'
    split at passed
    · rename_i names found
      cases passed
      rw [split', normals_spec found]
      exact ⟨first, rfl⟩
    · cases passed
  · cases passed

theorem only_call {α : Type} {allowed : Command -> Prop} {command : Command}
    {next : command.Reply -> Task α} (meets : allowed command)
    (later : forall reply, (next reply).Only allowed) : (call command >>= next).Only allowed :=
  ((Program.only_perform (S := calls) allowed command).mpr meets).bind later

theorem only_bail {α : Type} (message : String) :
    (bail message : Task α).Only (Inward destination entries) :=
  only_call True.intro fun reply => Empty.elim reply

theorem only_unpackEntry {entry : TarEntry} {relative : Path} (member : entry ∈ entries)
    (passed : stripArchiveRoot entry.path = .ok relative) (nonempty : relative ≠ []) :
    (unpackEntry entry (destination ++ relative)).Only (Inward destination entries) := by
  unfold unpackEntry
  split
  · exact (Program.only_perform (S := calls) _ _).mpr (List.prefix_append destination relative)
  · rename_i regular
    apply only_call
    · change destination <+: (destination ++ relative).dropLast
      rw [List.dropLast_append_of_ne_nil nonempty]
      exact List.prefix_append destination relative.dropLast
    · intro _
      rcases stripArchiveRoot_spec passed with ⟨first, split⟩
      apply (Program.only_perform (S := calls) _ _).mpr
      exact ⟨member, regular, first, relative, split, nonempty, rfl⟩
  · exact only_bail _

theorem only_unpackEntries (rest : List TarEntry) (among : rest ⊆ entries) (totalSize : Nat) :
    (unpackEntries destination rest totalSize).Only (Inward destination entries) := by
  induction rest generalizing totalSize with
  | nil => exact Program.only_pure (S := calls) _ ()
  | cons entry rest inductionHypothesis =>
      have later := inductionHypothesis (List.subset_of_cons_subset among)
      unfold unpackEntries
      apply only_call True.intro
      intro _
      split
      · exact only_bail _
      · rename_i relative passed
        split
        · exact later totalSize
        · rename_i nonempty
          dsimp only
          split
          · exact only_bail _
          · apply (only_unpackEntry (among List.mem_cons_self) passed nonempty).bind
            intro _
            exact later _

theorem only_unpackReleaseArchive (destination : Path) (entries : List TarEntry) :
    (unpackReleaseArchive entries destination).Only (Inward destination entries) := by
  apply only_call (List.prefix_refl destination)
  intro _
  apply only_call True.intro
  intro _
  exact only_unpackEntries entries (List.Subset.refl entries) 0

end Commands

/-- A disk on which a directory is about to be filled. -/
structure Vacancy where
  parent : Path
  name : Name
  initial : Disk
  rooted : initial.Rooted parent
  fresh : forall path, parent ++ [name] <+: path ->
    initial path = none ∨ (path = parent ++ [name] ∧ initial path = some .directory)

namespace Vacancy

def destination (vacancy : Vacancy) : Path := vacancy.parent ++ [vacancy.name]

/-- Below the directory there are only directories and the files of entries, and
nothing else has changed. -/
structure Filled (vacancy : Vacancy) (entries : List TarEntry) (disk : Disk) : Prop where
  outside : forall path, ¬ vacancy.destination <+: path -> disk path = vacancy.initial path
  inside : forall path node, vacancy.destination <+: path -> disk path = some node ->
    node = .directory ∨
      ((Exists fun content => node = .file content) ∧
        Exists fun entry => Strips vacancy.destination entries entry path)

variable {vacancy : Vacancy} {entries : List TarEntry} {disk after : Disk}

theorem filled_initial (vacancy : Vacancy) (entries : List TarEntry) :
    vacancy.Filled entries vacancy.initial where
  outside := fun _ _ => rfl
  inside := by
    intro path node below found
    rcases vacancy.fresh path below with missing | ⟨-, directory⟩
    · rw [missing] at found
      cases found
    · rw [directory] at found
      cases found
      exact Or.inl rfl

theorem Filled.rooted (filled : vacancy.Filled entries disk) : disk.Rooted vacancy.parent := by
  intro part above
  rw [filled.outside part, vacancy.rooted part above]
  intro below
  have short := above.length_le
  have long := below.length_le
  simp only [destination, List.length_append, List.length_singleton] at long
  omega

/-- No call of the extraction meets a symbolic link. -/
theorem Filled.straight (filled : vacancy.Filled entries disk) {path : Path}
    (below : vacancy.destination <+: path) : disk.Straight path := by
  intro part isPart target found
  rcases List.prefix_or_prefix_of_prefix isPart below with above | inside
  · rcases List.prefix_concat_iff.mp above with rfl | higher
    · rcases filled.inside _ _ (List.prefix_refl _) found with other | ⟨⟨content, other⟩, -⟩
      · cases other
      · cases other
    · rw [filled.rooted part higher] at found
      cases found
  · rcases filled.inside part _ inside found with other | ⟨⟨content, other⟩, -⟩
    · cases other
    · cases other

theorem Filled.createDirs (filled : vacancy.Filled entries disk) {path : Path}
    (below : vacancy.destination <+: path) (creates : Disk.CreatesDirs path disk after) :
    vacancy.Filled entries after where
  outside := by
    intro other foreign
    rw [← filled.outside other foreign]
    cases found : disk other with
    | some node => exact creates.kept other node found
    | none =>
        rcases creates.created other found with missing | ⟨-, isPart⟩
        · exact missing
        · rcases List.prefix_or_prefix_of_prefix isPart below with above | inside
          · rcases List.prefix_concat_iff.mp above with rfl | higher
            · exact absurd (List.prefix_refl _) foreign
            · rw [filled.rooted other higher] at found
              cases found
          · exact absurd inside foreign
  inside := by
    intro other node inside found
    cases before : disk other with
    | some old =>
        rw [creates.kept other old before] at found
        cases found
        exact filled.inside other node inside before
    | none =>
        rcases creates.created other before with missing | ⟨created, -⟩
        · rw [missing] at found
          cases found
        · rw [created] at found
          cases found
          exact Or.inl rfl

theorem Filled.unpacks (filled : vacancy.Filled entries disk) {entry : TarEntry} {path : Path}
    (strips : Strips vacancy.destination entries entry path)
    (unpacks : Unpacks entry path disk after) : vacancy.Filled entries after where
  outside := by
    intro other foreign
    rw [unpacks.elsewhere, filled.outside other foreign]
    rintro rfl
    rcases strips with ⟨-, -, -, rest, -, -, rfl⟩
    exact foreign (List.prefix_append _ rest)
  inside := by
    intro other node inside found
    by_cases same : other = path
    · subst same
      rcases unpacks.written with unchanged | ⟨-, missing | ⟨made, written, kind⟩⟩
      · exact filled.inside other node inside (unchanged.symm.trans found)
      · rw [missing] at found
        cases found
      · rw [written] at found
        cases found
        cases node with
        | file content => exact Or.inr ⟨⟨content, rfl⟩, entry, strips⟩
        | directory => exact Or.inl rfl
        | link target => cases strips.regular.symm.trans kind
        | special => cases strips.regular.symm.trans kind
    · rw [unpacks.elsewhere other same] at found
      exact filled.inside other node inside found

/-- What one call keeps, whether or not it fails. -/
theorem Filled.step {command : Command} {reply : Option command.Reply}
    (filled : vacancy.Filled entries disk) (inward : Inward vacancy.destination entries command)
    (acted : effect disk command reply after) : vacancy.Filled entries after := by
  cases command with
  | bail message => exact (acted nofun : after = disk) ▸ filled
  | readEntry => exact (acted nofun : after = disk) ▸ filled
  | readDir => exact (acted nofun : after = disk) ▸ filled
  | pathExists path => exact inward.elim
  | isSymlink path => exact inward.elim
  | copy content path => exact inward.elim
  | createDirAll path =>
      apply filled.createDirs inward
      exact (acted fun _ same => Option.some.inj same ▸ filled.straight inward).1
  | unpack entry path =>
      apply filled.unpacks inward
      have below : vacancy.destination <+: path := by
        rcases inward with ⟨-, -, -, rest, -, -, rfl⟩
        exact List.prefix_append _ rest
      exact acted fun _ same => Option.some.inj same ▸ filled.straight below

end Vacancy

/-- However the extraction ends, it has created only directories below its own
and the files of entries, each at the path of its entry without the first
component. -/
theorem extraction_stays_inside (vacancy : Vacancy) (entries : List TarEntry) (after : Disk)
    (outcome : Option Unit)
    (run : Completes effect (unpackReleaseArchive entries vacancy.destination) vacancy.initial
      outcome after) :
    (forall path, ¬ vacancy.destination <+: path -> after path = vacancy.initial path) ∧
    (forall path node, vacancy.destination <+: path -> after path = some node ->
      node = .directory ∨
        ((Exists fun content => node = .file content) ∧
          Exists fun entry => Strips vacancy.destination entries entry path)) ∧
    (unpackReleaseArchive entries vacancy.destination).Only
      (Inward vacancy.destination entries) := by
  have only := only_unpackReleaseArchive vacancy.destination entries
  have ends : Ensures effect (vacancy.Filled entries)
      (unpackReleaseArchive entries vacancy.destination) vacancy.initial
      (fun _ => vacancy.Filled entries) :=
    Ensures.only (fun _ _ _ _ filled inward acted => filled.step inward acted)
      (fun _ filled => filled) only (Vacancy.filled_initial vacancy entries)
  have filled : vacancy.Filled entries after := by
    have result := ends outcome after run
    cases outcome with
    | none => exact result
    | some value => exact result
  exact ⟨filled.outside, filled.inside, only⟩

end SourceUpdate

namespace Sample

open FileSystem Interaction SourceUpdate

def archivePath (text : String) (entryType : EntryType) : TarEntry :=
  ⟨ascii text, some 3, entryType, ascii "new"⟩

def temp : Name := ⟨ascii "tmp", by decide, by decide, by decide, by decide⟩

/-- An empty disk with one directory, in which the release is unpacked. -/
def vacancy : Vacancy where
  parent := []
  name := temp
  initial := fun path => if path = [] then some .directory else none
  rooted := by
    intro part isPart
    rw [List.prefix_nil.mp isPart]
    rfl
  fresh := by
    intro path below
    apply Or.inl
    apply if_neg
    rintro rfl
    cases below.length_le

/-- A file, and an entry that tries to leave the directory. -/
def archive : List TarEntry :=
  [archivePath "kraken-ui//./src/main.rs" .regular, archivePath "kraken-ui/../main.rs" .regular]

def src : Name := ⟨ascii "src", by decide, by decide, by decide, by decide⟩

def mainFile : Name := mainRs

set_option maxRecDepth 10000 in
theorem extraction_stays_inside_archive :
    Exists fun after : Disk =>
      Completes effect (unpackReleaseArchive archive [temp]) vacancy.initial none after ∧
        after [temp, src, mainFile] = some (.file (ascii "new")) ∧
        Exists fun entry => Strips [temp] archive entry [temp, src, mainFile] := by
  have played := play_completes (unpackReleaseArchive archive [temp]) vacancy.initial
  have refused : (play (unpackReleaseArchive archive [temp]) vacancy.initial).1 = none := by
    decide
  have written : (play (unpackReleaseArchive archive [temp]) vacancy.initial).2
      [temp, src, mainFile] = some (.file (ascii "new")) := by decide
  rw [refused] at played
  have result := extraction_stays_inside vacancy archive _ none played
  refine ⟨_, played, written, ?_⟩
  rcases result.2.1 [temp, src, mainFile] _ ⟨[src, mainFile], rfl⟩ written with
    directory | ⟨-, strips⟩
  · cases directory
  · exact strips

end Sample
end KrakenUi
