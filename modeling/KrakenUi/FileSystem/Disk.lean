import KrakenUi.FileSystem.Path

namespace FileSystem

/-!
# What the calls of a file system may do

A disk says what is at each path.  Calls that write are relations between the
disk before and after: a call that fails may have done a part of its work.

The relations describe calls on paths without symbolic links.  A call on a path
through a link is not described at all, so a program must not make it.
-/

inductive Node where
  | file (content : List UInt8)
  | directory
  | link (target : List UInt8)
  | special
  deriving DecidableEq

abbrev Disk := Path -> Option Node

namespace Disk

/-- No part of the path is a symbolic link. -/
def Straight (disk : Disk) (path : Path) : Prop :=
  forall part, part <+: path -> forall target, disk part ≠ some (.link target)

def isSymlink (disk : Disk) (path : Path) : Bool :=
  match disk path with
  | some (.link _) => true
  | _ => false

/-- The path and all directories above it exist. -/
def Rooted (disk : Disk) (path : Path) : Prop :=
  forall part, part <+: path -> disk part = some .directory

/-- Missing directories on the way to the path were created, perhaps not all. -/
structure CreatesDirs (path : Path) (before after : Disk) : Prop where
  kept : forall other node, before other = some node -> after other = some node
  created : forall other, before other = none ->
    after other = none ∨ (after other = some .directory ∧ other <+: path)

/-- The path, which is no directory, was written or was left alone. -/
structure Writes (path : Path) (before after : Disk) : Prop where
  elsewhere : forall other, other ≠ path -> after other = before other
  written : after path = before path ∨
    (before path ≠ some .directory ∧ Exists fun content => after path = some (.file content))

/-- Where everything is a directory already, nothing is created. -/
theorem CreatesDirs.eq_of_rooted {path : Path} {before after : Disk}
    (creates : CreatesDirs path before after) (rooted : before.Rooted path) : after = before := by
  funext other
  cases found : before other with
  | some node => exact creates.kept other node found
  | none =>
      rcases creates.created other found with same | ⟨-, part⟩
      · exact same
      · rw [rooted other part] at found
        cases found

/-- Below an existing directory at most the one path is created. -/
theorem CreatesDirs.eq_of_ne {parent : Path} {name : Name} {before after : Disk}
    (creates : CreatesDirs (parent ++ [name]) before after) (rooted : before.Rooted parent)
    {other : Path} (different : other ≠ parent ++ [name]) : after other = before other := by
  cases found : before other with
  | some node => exact creates.kept other node found
  | none =>
      rcases creates.created other found with same | ⟨-, part⟩
      · exact same
      · rcases List.prefix_concat_iff.mp part with whole | above
        · exact absurd whole different
        · rw [rooted other above] at found
          cases found

theorem Rooted.append {disk : Disk} {parent : Path} {name : Name} (rooted : disk.Rooted parent)
    (here : disk (parent ++ [name]) = some .directory) : disk.Rooted (parent ++ [name]) := by
  intro part isPart
  rcases List.prefix_concat_iff.mp isPart with rfl | above
  · exact here
  · exact rooted part above

theorem Rooted.straight {disk : Disk} {path : Path} (rooted : disk.Rooted path) :
    disk.Straight path := by
  intro part isPart target found
  rw [rooted part isPart] at found
  cases found

end Disk
end FileSystem
