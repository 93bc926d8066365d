import KrakenUi.FileSystem.Disk
import KrakenUi.Interaction.Serial
import Mathlib.Algebra.Order.Ring.Int
import Mathlib.Data.List.Infix

namespace KrakenUi
namespace SourceUpdate

open FileSystem Interaction

/-!
# Unpacking and installing a release

`unpack_release_archive` and `copy_release_source` with their helpers, as
programs whose commands are the calls of the file system.  Any call may fail,
which ends the program with an error.

What an archive or a staged directory holds is given as data: the entries in the
order in which they are read.
-/

/-! ## The calls -/

inductive EntryType where
  | regular
  | directory
  | other
  deriving DecidableEq

/-- An entry of a tar archive.  The size of its header may be unreadable. -/
structure TarEntry where
  path : List UInt8
  size : Option UInt64
  entryType : EntryType
  content : List UInt8

inductive Command where
  | bail (message : String)
  /-- The next entry of an archive or of a directory, with its type. -/
  | readEntry
  /-- The beginning of an archive or of a directory. -/
  | readDir
  | pathExists (path : Path)
  /-- `symlink_metadata`, of which only the type is used. -/
  | isSymlink (path : Path)
  | createDirAll (path : Path)
  | copy (content : List UInt8) (path : Path)
  | unpack (entry : TarEntry) (path : Path)

namespace Command

abbrev Reply : Command -> Type
  | bail _ => Empty
  | pathExists _ | isSymlink _ => Bool
  | _ => Unit

/-- The path that a call is about. -/
def path : Command -> Option Path
  | pathExists path | isSymlink path | createDirAll path | copy _ path | unpack _ path => some path
  | _ => none

end Command

abbrev calls : Signature := ⟨Command, Command.Reply⟩

abbrev Task := Program calls

def call (command : Command) : Task command.Reply :=
  Program.perform (S := calls) command

def bail {α : Type} (message : String) : Task α := do
  let impossible ← call (.bail message)
  nomatch impossible

/-! ## Unpacking -/

def maxExtractedBytes : Nat := 500 * 1024 * 1024

/-- `saturating_add` of sizes. -/
def addSize (total size : Nat) : Nat := min (total + size) (2 ^ 64 - 1)

/-- The names after the first one, if there is nothing but names. -/
def normals : List Component -> Option (List Name)
  | [] => some []
  | .normal name :: rest => (normals rest).map (name :: ·)
  | _ => none

def stripArchiveRoot (path : List UInt8) : Except String Path :=
  match components path with
  | .normal _ :: rest =>
      match normals rest with
      | some relative => .ok relative
      | none => .error "release archive contains an unsafe path"
  | _ => .error "release archive path has no package root"

def unpackEntry (entry : TarEntry) (output : Path) : Task Unit :=
  match entry.entryType with
  | .directory => call (.createDirAll output)
  | .regular => do
      call (.createDirAll output.dropLast)
      call (.unpack entry output)
  | .other => bail "release archive contains an unsupported link or special file"

def unpackEntries (destination : Path) : List TarEntry -> Nat -> Task Unit
  | [], _ => pure ()
  | entry :: rest, totalSize => do
      call .readEntry
      match stripArchiveRoot entry.path with
      | .error message => bail message
      | .ok relative =>
          if relative = [] then unpackEntries destination rest totalSize
          else do
            let totalSize := addSize totalSize ((entry.size.map UInt64.toNat).getD (2 ^ 64 - 1))
            if maxExtractedBytes < totalSize then
              bail "release archive exceeds the 500 MiB extraction limit"
            else do
              unpackEntry entry (destination ++ relative)
              unpackEntries destination rest totalSize

def unpackReleaseArchive (entries : List TarEntry) (destination : Path) : Task Unit := do
  call (.createDirAll destination)
  call .readDir
  unpackEntries destination entries 0

/-! ## Installing -/

/-- What a directory of the release can hold besides directories. -/
inductive Leaf where
  | file (content : List UInt8)
  | link
  | special
  deriving DecidableEq

/-- The entries of a directory, in the order in which they are read. -/
inductive Listing where
  | nil
  | leaf (name : Name) (kind : Leaf) (rest : Listing)
  | directory (name : Name) (entries : Listing) (rest : Listing)

/-- The bytes of an ASCII text. -/
def ascii (text : String) : List UInt8 :=
  text.toList.map fun character => UInt8.ofNat character.toNat

def protectedRoots : List (List UInt8) :=
  [".git", "target", "db", "conf", "certs", "log", "logs"].map ascii

def protectedExtensions : List (List UInt8) :=
  ["yaml", "yml", "conf", "db", "sqlite", "sqlite3"].map ascii

def underProtectedRoot (relative : Path) : Bool :=
  relative.head?.any fun first => protectedRoots.contains first.bytes

def hasProtectedExtension (relative : Path) : Bool :=
  (extension relative).any protectedExtensions.contains

def protectedPath (relative target : Path) : Task Bool :=
  if underProtectedRoot relative then pure true
  else do
    if !(← call (.pathExists target)) then pure false
    else pure (hasProtectedExtension relative)

/-- The rest of a path, checked name by name. -/
def ensureSafeFrom (current : Path) : List Name -> Task Unit
  | [] => pure ()
  | name :: rest => do
      let current := current ++ [name]
      if ← call (.pathExists current) then
        if ← call (.isSymlink current) then
          bail "refusing to update through symbolic link"
        else ensureSafeFrom current rest
      else ensureSafeFrom current rest

def ensureDestinationSafe (root target : Path) : Task Unit :=
  if root.isPrefixOf target then ensureSafeFrom root (target.drop root.length)
  else bail "update target escaped the source root"

/-- An entry that is not protected is installed. -/
def visit (destination childRelative : Path) (install : Path -> Task Unit) : Task Unit := do
  let target := destination ++ childRelative
  if ← protectedPath childRelative target then pure ()
  else do
    ensureDestinationSafe destination target
    install target

def installLeaf (kind : Leaf) (target : Path) : Task Unit :=
  match kind with
  | .file content => do
      call (.createDirAll target.dropLast)
      call (.copy content target)
  | _ => pure ()

/-- The loop of `copy_directory`. -/
def copyEntries (destination relative : Path) : Listing -> Task Unit
  | .nil => pure ()
  | .leaf name kind rest => do
      call .readEntry
      if kind = .link then bail "release source contains an unsupported symbolic link"
      else do
        visit destination (relative ++ [name]) (installLeaf kind)
        copyEntries destination relative rest
  | .directory name entries rest => do
      call .readEntry
      visit destination (relative ++ [name]) fun target => do
        call (.createDirAll target)
        call .readDir
        copyEntries destination (relative ++ [name]) entries
      copyEntries destination relative rest

def copyDirectory (listing : Listing) (destination relative : Path) : Task Unit := do
  call .readDir
  copyEntries destination relative listing

def copyReleaseSource (listing : Listing) (destination : Path) : Task Unit :=
  copyDirectory listing destination []

/-! ## What the calls do -/

/-- `entry.unpack`: a regular entry becomes a file, or a directory if the header
is an old one; the others become what they are. -/
def unpacked : TarEntry -> Node -> Prop
  | entry, .file _ => entry.entryType = .regular
  | entry, .directory => entry.entryType ≠ .other
  | entry, _ => entry.entryType = .other

/-- Nothing but the path was changed, and a directory stays one. -/
structure Unpacks (entry : TarEntry) (path : Path) (before after : Disk) : Prop where
  elsewhere : forall other, other ≠ path -> after other = before other
  written : after path = before path ∨
    (before path ≠ some .directory ∧
      (after path = none ∨ Exists fun node => after path = some node ∧ unpacked entry node))

/-- What a call on a path without symbolic links does, with its reply or with an
error. -/
def behaves (before : Disk) : (command : Command) -> Option command.Reply -> Disk -> Prop
  | .bail _, _, after | .readEntry, _, after | .readDir, _, after => after = before
  | .pathExists path, reply, after => after = before ∧ reply = some (before path).isSome
  | .isSymlink path, reply, after =>
      after = before ∧ (reply = none ∨ reply = some (before.isSymlink path))
  | .createDirAll path, reply, after =>
      Disk.CreatesDirs path before after ∧ (reply = some () -> after.Rooted path)
  | .copy content path, reply, after =>
      Disk.Writes path before after ∧ (reply = some () -> after path = some (.file content))
  | .unpack entry path, _, after => Unpacks entry path before after

/-- What any call does. -/
def effect : Effect calls Disk := fun before command reply after =>
  (forall path, command.path = some path -> before.Straight path) ->
    behaves before command reply after

/-! ## A file system on which only impossible calls fail -/

def createDirs (disk : Disk) (path : Path) : Disk := fun other =>
  match disk other with
  | some node => some node
  | none => if other.isPrefixOf path then some .directory else none

def writeFile (disk : Disk) (path : Path) (content : List UInt8) : Disk := fun other =>
  if other = path then some (.file content) else disk other

def perform (disk : Disk) : (command : Command) -> Option command.Reply × Disk
  | .bail _ => (none, disk)
  | .readEntry | .readDir => (some (), disk)
  | .pathExists path => (some (disk path).isSome, disk)
  | .isSymlink path => (some (disk.isSymlink path), disk)
  | .createDirAll path =>
      if path.inits.all fun part => disk part == none || disk part == some .directory then
        (some (), createDirs disk path)
      else (none, disk)
  | .copy content path =>
      if disk path = some .directory then (none, disk)
      else (some (), writeFile disk path content)
  | .unpack entry path =>
      if disk path = some .directory ∨ entry.entryType ≠ .regular then (none, disk)
      else (some (), writeFile disk path entry.content)

/-- The outcome of a task and the disk after it. -/
def play {α : Type} : Task α -> Disk -> Option α × Disk
  | .done value, disk => (some value, disk)
  | .call command next, disk =>
      match perform disk command with
      | (none, after) => (none, after)
      | (some reply, after) => play (next reply) after

theorem createDirs_creates (disk : Disk) (path : Path) :
    Disk.CreatesDirs path disk (createDirs disk path) where
  kept := by
    intro other node found
    simp only [createDirs, found]
  created := by
    intro other missing
    simp only [createDirs, missing]
    split
    · rename_i part
      exact Or.inr ⟨rfl, List.isPrefixOf_iff_prefix.mp part⟩
    · exact Or.inl rfl

theorem createDirs_rooted {disk : Disk} {path : Path} (free : forall part, part <+: path ->
    disk part = none ∨ disk part = some .directory) : (createDirs disk path).Rooted path := by
  intro part isPart
  rcases free part isPart with missing | found
  · simp only [createDirs, missing]
    rw [if_pos (List.isPrefixOf_iff_prefix.mpr isPart)]
  · simp only [createDirs, found]

theorem writeFile_elsewhere {disk : Disk} {path : Path} {content : List UInt8} :
    forall other, other ≠ path -> writeFile disk path content other = disk other :=
  fun _ different => if_neg different

theorem perform_effect (disk : Disk) (command : Command) :
    effect disk command (perform disk command).1 (perform disk command).2 := by
  intro _
  cases command with
  | bail message => rfl
  | readEntry => rfl
  | readDir => rfl
  | pathExists path => exact ⟨rfl, rfl⟩
  | isSymlink path => exact ⟨rfl, Or.inr rfl⟩
  | createDirAll path =>
      simp only [perform]
      split
      · rename_i free
        refine ⟨createDirs_creates disk path, fun _ => createDirs_rooted ?_⟩
        intro part isPart
        have here := List.all_eq_true.mp free part ((List.mem_inits part path).mpr isPart)
        simpa using here
      · exact ⟨⟨fun _ _ found => found, fun _ missing => Or.inl missing⟩, nofun⟩
  | copy content path =>
      simp only [perform]
      split
      · exact ⟨⟨fun _ _ => rfl, Or.inl rfl⟩, nofun⟩
      · rename_i other
        exact ⟨⟨writeFile_elsewhere, Or.inr ⟨other, content, if_pos rfl⟩⟩, fun _ => if_pos rfl⟩
  | unpack entry path =>
      simp only [perform]
      split
      · exact ⟨fun _ _ => rfl, Or.inl rfl⟩
      · rename_i allowed
        rcases not_or.mp allowed with ⟨other, regular⟩
        exact ⟨writeFile_elsewhere, Or.inr ⟨other, Or.inr
          ⟨.file entry.content, if_pos rfl, not_not.mp regular⟩⟩⟩

/-- What is played is a run. -/
theorem play_completes {α : Type} (task : Task α) (disk : Disk) :
    Completes effect task disk (play task disk).1 (play task disk).2 := by
  induction task generalizing disk with
  | done value => exact Completes.done value disk
  | call command next inductionHypothesis =>
      have acted := perform_effect disk command
      unfold play
      cases performed : perform disk command with
      | mk reply after =>
          rw [performed] at acted
          cases reply with
          | none => exact Completes.fails acted
          | some reply => exact Completes.step acted (inductionHypothesis reply after)

end SourceUpdate
end KrakenUi
