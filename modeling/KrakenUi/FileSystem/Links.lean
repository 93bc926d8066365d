import KrakenUi.FileSystem.Disk

namespace FileSystem

/-!
# Following symbolic links

A path is walked from the root, one component after the other.  A link on the
way is replaced by the components of its target, which begin again at the root
or at the directory of the link.  After too many links the walk is given up.

Most calls follow a link also at the end of a path.  One that opens a file for
writing creates the file where a link to nothing leads.
-/

/-- Where a walk ends, named by the path without links. -/
inductive Found where
  | node (path : Path)
  /-- Nothing has the last name in this directory. -/
  | absent (directory : Path) (name : Name)
  | nowhere
  deriving DecidableEq

namespace Disk

/-- The walk from a directory, with what to do at a link. -/
def followWith (disk : Disk) (atLink : Path -> List Component -> Found) :
    Path -> List Component -> Found
  | here, [] => .node here
  | _, .rootDir :: rest => followWith disk atLink [] rest
  | here, .curDir :: rest => followWith disk atLink here rest
  | here, .parentDir :: rest => followWith disk atLink here.dropLast rest
  | here, .normal name :: rest =>
      match disk (here ++ [name]) with
      | none => if rest = [] then .absent here name else .nowhere
      | some (.link target) => atLink here (components target ++ rest)
      | some .directory => followWith disk atLink (here ++ [name]) rest
      | some _ => if rest = [] then .node (here ++ [name]) else .nowhere

/-- The walk through at most so many links. -/
def follow (disk : Disk) : Nat -> Path -> List Component -> Found
  | 0 => followWith disk fun _ _ => .nowhere
  | links + 1 => followWith disk (follow disk links)

/-- The number of links after which a walk is given up. -/
def maxLinks : Nat := 40

/-- Where a path leads. -/
def resolve (disk : Disk) (path : Path) : Found :=
  follow disk maxLinks [] (path.map .normal)

/-- Something is where the path leads. -/
def leads (disk : Disk) (path : Path) : Bool :=
  match disk.resolve path with
  | .node _ => true
  | _ => false

/-- The path is a link that leads to nothing, where a file can be created. -/
def Dangles (disk : Disk) (path : Path) : Prop :=
  disk.isSymlink path = true ∧ Exists fun directory => Exists fun name =>
    disk.resolve path = .absent directory name

instance (disk : Disk) (path : Path) : Decidable (disk.Dangles path) :=
  match resolved : disk.resolve path with
  | .absent directory name =>
      decidable_of_iff (disk.isSymlink path = true)
        ⟨fun symbolic => ⟨symbolic, directory, name, resolved⟩, And.left⟩
  | .node _ => isFalse fun ⟨_, _, _, other⟩ => nomatch resolved.symm.trans other
  | .nowhere => isFalse fun ⟨_, _, _, other⟩ => nomatch resolved.symm.trans other

/-- One place is changed. -/
def put (disk : Disk) (path : Path) (node : Node) : Disk := fun other =>
  if other = path then some node else disk other

/-- Everything that is there stays what it is, and a file may get other content. -/
def Extends (before after : Disk) : Prop :=
  forall path node, before path = some node -> after path = some node ∨
    ((Exists fun old => node = .file old) ∧ Exists fun new => after path = some (.file new))

section Walking

variable {disk : Disk} {atLink : Path -> List Component -> Found} {here : Path}
  {rest : List Component}

theorem leads_iff {path : Path} :
    disk.leads path = true ↔ Exists fun found => disk.resolve path = .node found := by
  unfold leads
  split
  · rename_i found resolved
    exact ⟨fun _ => ⟨found, resolved⟩, fun _ => rfl⟩
  · rename_i other
    constructor
    · intro impossible
      cases impossible
    · rintro ⟨found, resolved⟩
      exact absurd resolved (other found)

/-- Directories on the way are walked through. -/
theorem followWith_directories (names : List Name) {base : Path}
    (directories : forall part, part <+: names -> part ≠ [] ->
      disk (base ++ part) = some .directory) :
    followWith disk atLink base (names.map .normal ++ rest) =
      followWith disk atLink (base ++ names) rest := by
  induction names generalizing base with
  | nil => rw [List.append_nil, List.map_nil, List.nil_append]
  | cons name names inductionHypothesis =>
      have first := directories [name] (List.cons_prefix_cons.mpr ⟨rfl, List.nil_prefix⟩)
        (List.cons_ne_nil _ _)
      rw [List.map_cons, List.cons_append, followWith, first]
      dsimp only
      rw [inductionHypothesis, List.append_assoc]
      · rfl
      · intro part isPart _
        rw [List.append_assoc]
        exact directories (name :: part) (List.cons_prefix_cons.mpr ⟨rfl, isPart⟩)
          (List.cons_ne_nil _ _)

/-- Below a directory that is reached without links only the last name matters. -/
theorem resolve_concat (rooted : disk.Rooted here) (name : Name) :
    disk.resolve (here ++ [name]) =
      match disk (here ++ [name]) with
      | none => .absent here name
      | some (.link target) => disk.follow 39 here (components target)
      | some _ => .node (here ++ [name]) := by
  unfold resolve maxLinks
  rw [follow, List.map_append, followWith_directories here, List.nil_append]
  · rw [List.map_singleton, followWith]
    cases disk (here ++ [name]) with
    | none => rfl
    | some node =>
        cases node with
        | link target =>
            dsimp only
            rw [List.append_nil]
        | directory => rfl
        | file content => rfl
        | special => rfl
  · intro part isPart _
    exact rooted part isPart

/-- Nothing is where a file could be created. -/
theorem followWith_absent
    (links : forall start components directory name,
      atLink start components = .absent directory name -> disk (directory ++ [name]) = none)
    {directory : Path} {name : Name}
    (walked : followWith disk atLink here rest = .absent directory name) :
    disk (directory ++ [name]) = none := by
  induction rest generalizing here with
  | nil => cases walked
  | cons component rest inductionHypothesis =>
      cases component with
      | rootDir => exact inductionHypothesis walked
      | curDir => exact inductionHypothesis walked
      | parentDir => exact inductionHypothesis walked
      | normal other =>
          rw [followWith] at walked
          cases before : disk (here ++ [other]) with
          | none =>
              rw [before] at walked
              dsimp only at walked
              split at walked
              · cases walked
                exact before
              · cases walked
          | some node =>
              rw [before] at walked
              cases node with
              | link target => exact links _ _ _ _ walked
              | directory => exact inductionHypothesis walked
              | file content =>
                  dsimp only at walked
                  split at walked
                  · cases walked
                  · cases walked
              | special =>
                  dsimp only at walked
                  split at walked
                  · cases walked
                  · cases walked

theorem follow_absent (links : Nat) {directory : Path} {name : Name}
    (walked : disk.follow links here rest = .absent directory name) :
    disk (directory ++ [name]) = none := by
  induction links generalizing here rest directory name with
  | zero =>
      apply followWith_absent _ walked
      intro _ _ _ _ impossible
      cases impossible
  | succ links inductionHypothesis =>
      apply followWith_absent _ walked
      intro _ _ _ _ same
      exact inductionHypothesis same

theorem resolve_absent {path directory : Path} {name : Name}
    (resolved : disk.resolve path = .absent directory name) : disk (directory ++ [name]) = none :=
  follow_absent maxLinks resolved

end Walking

section Changes

variable {disk between after : Disk} {path : Path}

theorem put_other {other : Path} (different : other ≠ path) (node : Node) :
    disk.put path node other = disk other := if_neg different

theorem put_same (node : Node) : disk.put path node path = some node := if_pos rfl

theorem Extends.refl (disk : Disk) : disk.Extends disk := fun _ _ found => Or.inl found

theorem Extends.trans (first : disk.Extends between) (second : between.Extends after) :
    disk.Extends after := by
  intro path node found
  rcases first path node found with same | ⟨old, new, written⟩
  · exact second path node same
  · rcases second path _ written with same | ⟨-, again⟩
    · exact Or.inr ⟨old, new, same⟩
    · exact Or.inr ⟨old, again⟩

/-- Something new where nothing was. -/
theorem extends_create (missing : disk path = none) (node : Node) :
    disk.Extends (disk.put path node) := by
  intro other found holds
  by_cases same : other = path
  · subst same
    rw [missing] at holds
    cases holds
  · exact Or.inl ((put_other same node).trans holds)

theorem extends_overwrite {old : List UInt8} (there : disk path = some (.file old))
    (new : List UInt8) : disk.Extends (disk.put path (.file new)) := by
  intro other found holds
  by_cases same : other = path
  · subst same
    rw [there] at holds
    exact Or.inr ⟨⟨old, (Option.some.inj holds).symm⟩, new, put_same _⟩
  · exact Or.inl ((put_other same _).trans holds)

theorem Extends.rooted (extends' : disk.Extends after) (rooted : disk.Rooted path) :
    after.Rooted path := by
  intro part isPart
  rcases extends' part _ (rooted part isPart) with same | ⟨⟨old, impossible⟩, -⟩
  · exact same
  · cases impossible

theorem Extends.link (extends' : disk.Extends after) {target : List UInt8}
    (link : disk path = some (.link target)) : after path = some (.link target) := by
  rcases extends' path _ link with same | ⟨⟨old, impossible⟩, -⟩
  · exact same
  · cases impossible

end Changes

end Disk
end FileSystem
