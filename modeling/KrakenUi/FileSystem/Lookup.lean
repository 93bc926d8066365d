import KrakenUi.FileSystem.Links

namespace FileSystem

/-!
# Looking up paths that are given as texts

A text names a file from the root or from the working directory.  A program
takes it apart into components, and the system walks them.  A file is the same
under two paths when its device and inode are.

A path can also be asked where a file would be that is created under it.  What
is missing on the way counts as a directory that is still to be made.
-/

/-! ## Texts -/

/-- `Path::parent`, by its components. -/
def parent (text : List UInt8) : Option (List Component) :=
  match (components text).getLast? with
  | none | some .rootDir => none
  | some _ => some (components text).dropLast

/-- `Path::file_name`. -/
def fileName (text : List UInt8) : Option Name :=
  match (components text).getLast? with
  | some (.normal name) => some name
  | _ => none

/-- A slash or a dot at the end asks for a directory. -/
def asksForDirectory (text : List UInt8) : Bool :=
  match (text.splitOn slash).getLast? with
  | some last => last = [] || last = [dot]
  | none => false

/-- What the system walks for a text. -/
def steps (text : List UInt8) : List Component :=
  if text = [] then []
  else if asksForDirectory text then components text ++ [.curDir] else components text

theorem components_of_fileName {text : List UInt8} {name : Name}
    (named : fileName text = some name) :
    Exists fun above => components text = above ++ [.normal name] ∧ parent text = some above := by
  unfold fileName at named
  cases last : (components text).getLast? with
  | none =>
      rw [last] at named
      cases named
  | some component =>
      rw [last] at named
      cases component with
      | normal other =>
          cases named
          refine ⟨(components text).dropLast, ?_, ?_⟩
          · exact (List.dropLast_append_getLast? _ last).symm
          · unfold parent
            rw [last]
      | rootDir => cases named
      | curDir => cases named
      | parentDir => cases named

/-- Where a step leads when every name is a directory. -/
def Component.move (here : Path) : Component -> Path
  | .rootDir => []
  | .curDir => here
  | .parentDir => here.dropLast
  | .normal name => here ++ [name]

/-! ## Where a file would be -/

namespace Disk

/-- The walk in which what is missing is a directory. -/
def settleWith (disk : Disk) (atLink : Path -> List Component -> Option Path) :
    Path -> List Component -> Option Path
  | here, [] => some here
  | _, .rootDir :: rest => settleWith disk atLink [] rest
  | here, .curDir :: rest => settleWith disk atLink here rest
  | here, .parentDir :: rest => settleWith disk atLink here.dropLast rest
  | here, .normal name :: rest =>
      match disk (here ++ [name]) with
      | none => settleWith disk atLink (here ++ [name]) rest
      | some (.link target) => atLink here (components target ++ rest)
      | some .directory => settleWith disk atLink (here ++ [name]) rest
      | some _ => if rest = [] then some (here ++ [name]) else none

def settle (disk : Disk) : Nat -> Path -> List Component -> Option Path
  | 0 => settleWith disk fun _ _ => none
  | links + 1 => settleWith disk (settle disk links)

/-- Entries are in directories. -/
structure Tree (disk : Disk) : Prop where
  root : disk [] = some .directory
  below : forall path name, disk (path ++ [name]) ≠ none -> disk path = some .directory

theorem Tree.dropLast {disk : Disk} (tree : disk.Tree) {here : Path}
    (directory : disk here = some .directory) : disk here.dropLast = some .directory := by
  cases here using List.reverseRecOn with
  | nil => exact tree.root
  | append_singleton above name =>
      rw [List.dropLast_concat]
      apply tree.below above name
      rw [directory]
      exact nofun

section Walking

variable {disk : Disk}

theorem settle_rootDir (links : Nat) (here : Path) (rest : List Component) :
    disk.settle links here (.rootDir :: rest) = disk.settle links [] rest := by
  cases links <;> rfl

theorem settle_curDir (links : Nat) (here : Path) (rest : List Component) :
    disk.settle links here (.curDir :: rest) = disk.settle links here rest := by
  cases links <;> rfl

theorem settle_parentDir (links : Nat) (here : Path) (rest : List Component) :
    disk.settle links here (.parentDir :: rest) = disk.settle links here.dropLast rest := by
  cases links <;> rfl

theorem settle_nil (links : Nat) (here : Path) : disk.settle links here [] = some here := by
  cases links <;> rfl

theorem settle_missing {here : Path} {name : Name} (missing : disk (here ++ [name]) = none)
    (links : Nat) (rest : List Component) :
    disk.settle links here (.normal name :: rest) = disk.settle links (here ++ [name]) rest := by
  cases links with
  | zero => rw [settle, settleWith, missing]
  | succ links => rw [settle, settleWith, missing]

theorem settle_directory {here : Path} {name : Name}
    (directory : disk (here ++ [name]) = some .directory) (links : Nat) (rest : List Component) :
    disk.settle links here (.normal name :: rest) = disk.settle links (here ++ [name]) rest := by
  cases links with
  | zero => rw [settle, settleWith, directory]
  | succ links => rw [settle, settleWith, directory]

theorem settle_link {here : Path} {name : Name} {target : List UInt8}
    (link : disk (here ++ [name]) = some (.link target)) (links : Nat) (rest : List Component) :
    disk.settle (links + 1) here (.normal name :: rest) =
      disk.settle links here (components target ++ rest) := by
  rw [settle, settleWith, link]

theorem settle_leaf {here : Path} {name : Name} {node : Node}
    (found : disk (here ++ [name]) = some node) (leaf : node ≠ .directory)
    (unlinked : forall target, node ≠ .link target) (links : Nat) (rest : List Component) :
    disk.settle links here (.normal name :: rest) =
      if rest = [] then some (here ++ [name]) else none := by
  have walked : forall atLink, disk.settleWith atLink here (.normal name :: rest) =
      if rest = [] then some (here ++ [name]) else none := by
    intro atLink
    rw [settleWith, found]
    cases node with
    | directory => exact absurd rfl leaf
    | link target => exact absurd rfl (unlinked target)
    | file content => rfl
    | special => rfl
  cases links with
  | zero => exact walked _
  | succ links => exact walked _

/-- What is beyond a place that was found: only a directory has something in it. -/
def beyond (disk : Disk) (links : Nat) (found : Path) (rest : List Component) : Option Path :=
  if rest = [] ∨ disk found = some .directory then disk.settle links found rest else none

theorem beyond_directory {found : Path} (directory : disk found = some .directory) (links : Nat)
    (rest : List Component) : disk.beyond links found rest = disk.settle links found rest :=
  if_pos (Or.inr directory)

theorem beyond_nil (links : Nat) (found : Path) : disk.beyond links found [] = some found :=
  (if_pos (Or.inl rfl)).trans (settle_nil links found)

theorem follow_rootDir (links : Nat) (here : Path) (rest : List Component) :
    disk.follow links here (.rootDir :: rest) = disk.follow links [] rest := by
  cases links <;> rfl

theorem follow_curDir (links : Nat) (here : Path) (rest : List Component) :
    disk.follow links here (.curDir :: rest) = disk.follow links here rest := by
  cases links <;> rfl

theorem follow_parentDir (links : Nat) (here : Path) (rest : List Component) :
    disk.follow links here (.parentDir :: rest) = disk.follow links here.dropLast rest := by
  cases links <;> rfl

theorem follow_nil (links : Nat) (here : Path) : disk.follow links here [] = .node here := by
  cases links <;> rfl

theorem follow_missing {here : Path} {name : Name} (missing : disk (here ++ [name]) = none)
    (links : Nat) (rest : List Component) (found : Path) :
    disk.follow links here (.normal name :: rest) ≠ .node found := by
  have walked : forall atLink, disk.followWith atLink here (.normal name :: rest) ≠
      .node found := by
    intro atLink
    rw [followWith, missing]
    dsimp only
    split
    · intro same
      cases same
    · intro same
      cases same
  cases links with
  | zero => exact walked _
  | succ links => exact walked _

theorem follow_directory {here : Path} {name : Name}
    (directory : disk (here ++ [name]) = some .directory) (links : Nat) (rest : List Component) :
    disk.follow links here (.normal name :: rest) = disk.follow links (here ++ [name]) rest := by
  cases links with
  | zero => rw [follow, followWith, directory]
  | succ links => rw [follow, followWith, directory]

theorem follow_leaf {here : Path} {name : Name} {node : Node}
    (found : disk (here ++ [name]) = some node) (leaf : node ≠ .directory)
    (unlinked : forall target, node ≠ .link target) (links : Nat) (rest : List Component) :
    disk.follow links here (.normal name :: rest) =
      if rest = [] then .node (here ++ [name]) else .nowhere := by
  have walked : forall atLink, disk.followWith atLink here (.normal name :: rest) =
      if rest = [] then .node (here ++ [name]) else .nowhere := by
    intro atLink
    rw [followWith, found]
    cases node with
    | directory => exact absurd rfl leaf
    | link target => exact absurd rfl (unlinked target)
    | file content => rfl
    | special => rfl
  cases links with
  | zero => exact walked _
  | succ links => exact walked _

/-- In a tree of directories every walk arrives, and no link leads elsewhere. -/
theorem follow_directories (all : forall path, disk path = some .directory) (links : Nat)
    (here : Path) (walked : List Component) :
    disk.follow links here walked = .node (walked.foldl Component.move here) := by
  induction walked generalizing here with
  | nil => exact follow_nil links here
  | cons component walked inductionHypothesis =>
      rw [List.foldl_cons, ← inductionHypothesis]
      cases component with
      | rootDir => exact follow_rootDir links here walked
      | curDir => exact follow_curDir links here walked
      | parentDir => exact follow_parentDir links here walked
      | normal name => exact follow_directory (all _) links walked

/-- A walk that finds something can be continued from there, if this holds
behind the links on the way. -/
theorem settle_append_from (tree : disk.Tree) {links : Nat} {found : Path}
    (behind : forall here name target walked, disk here = some .directory ->
      disk (here ++ [name]) = some (.link target) ->
        disk.follow links here (.normal name :: walked) = .node found ->
          Exists fun left => forall rest,
            disk.settle links here (.normal name :: (walked ++ rest)) = disk.beyond left found rest)
    {here : Path} {walked : List Component} (directory : disk here = some .directory)
    (follows : disk.follow links here walked = .node found) :
    Exists fun left => forall rest,
      disk.settle links here (walked ++ rest) = disk.beyond left found rest := by
  induction walked generalizing here with
  | nil =>
      rw [follow_nil] at follows
      cases follows
      refine ⟨links, ?_⟩
      intro rest
      rw [List.nil_append, beyond_directory directory]
  | cons component walked inductionHypothesis =>
      cases component with
      | rootDir =>
          rw [follow_rootDir] at follows
          rcases inductionHypothesis tree.root follows with ⟨left, continues⟩
          refine ⟨left, ?_⟩
          intro rest
          rw [List.cons_append, settle_rootDir, continues]
      | curDir =>
          rw [follow_curDir] at follows
          rcases inductionHypothesis directory follows with ⟨left, continues⟩
          refine ⟨left, ?_⟩
          intro rest
          rw [List.cons_append, settle_curDir, continues]
      | parentDir =>
          rw [follow_parentDir] at follows
          rcases inductionHypothesis (tree.dropLast directory) follows with ⟨left, continues⟩
          refine ⟨left, ?_⟩
          intro rest
          rw [List.cons_append, settle_parentDir, continues]
      | normal name =>
          cases there : disk (here ++ [name]) with
          | none => exact absurd follows (follow_missing there links walked found)
          | some node =>
              by_cases isDirectory : node = .directory
              · subst isDirectory
                rw [follow_directory there] at follows
                rcases inductionHypothesis there follows with ⟨left, continues⟩
                refine ⟨left, ?_⟩
                intro rest
                rw [List.cons_append, settle_directory there, continues]
              · by_cases isLink : Exists fun target => node = .link target
                · rcases isLink with ⟨target, rfl⟩
                  exact behind here name target walked directory there follows
                · have unlinked : forall target, node ≠ .link target :=
                    fun target same => isLink ⟨target, same⟩
                  rw [follow_leaf there isDirectory unlinked] at follows
                  split at follows
                  · rename_i last
                    cases follows
                    refine ⟨links, ?_⟩
                    intro rest
                    rw [last, List.cons_append, List.nil_append,
                      settle_leaf there isDirectory unlinked, beyond, there]
                    by_cases nothing : rest = []
                    · rw [if_pos nothing, if_pos (Or.inl nothing), nothing, settle_nil]
                    · have stops : ¬ (rest = [] ∨ some node = some Node.directory) := by
                        rintro (empty | same)
                        · exact nothing empty
                        · exact isDirectory (Option.some.inj same)
                      rw [if_neg nothing, if_neg stops]
                  · cases follows

/-- A walk that finds something can be continued from there. -/
theorem settle_append (tree : disk.Tree) {links : Nat} {here found : Path}
    {walked : List Component} (directory : disk here = some .directory)
    (follows : disk.follow links here walked = .node found) :
    Exists fun left => forall rest,
      disk.settle links here (walked ++ rest) = disk.beyond left found rest := by
  induction links generalizing here walked with
  | zero =>
      apply settle_append_from tree _ directory follows
      intro here name target walked _ link impossible
      rw [follow, followWith, link] at impossible
      cases impossible
  | succ links inductionHypothesis =>
      apply settle_append_from tree _ directory follows
      intro here name target walked directory link behind
      rw [follow, followWith, link] at behind
      rcases inductionHypothesis directory behind with ⟨left, continues⟩
      refine ⟨left, ?_⟩
      intro rest
      rw [settle_link link, ← List.append_assoc, continues]

/-- What is there is where a file would be. -/
theorem settle_of_follow (tree : disk.Tree) {links : Nat} {here found : Path}
    {walked : List Component} (directory : disk here = some .directory)
    (follows : disk.follow links here walked = .node found) :
    disk.settle links here walked = some found := by
  rcases settle_append tree directory follows with ⟨left, continues⟩
  have whole := continues []
  rw [List.append_nil, beyond_nil] at whole
  exact whole

end Walking
end Disk

/-! ## The file system of a process -/

/-- Files, their identities and modes, and a working directory. -/
structure FileTree where
  disk : Disk
  tree : disk.Tree
  workingDirectory : Path
  working : disk workingDirectory = some .directory
  /-- The device and the inode of what is at a path without links. -/
  identity : Path -> Nat × Nat
  mode : Path -> Nat

/-- What `fs::metadata` tells, as far as it is used. -/
structure Metadata where
  identity : Nat × Nat
  mode : Nat
  directory : Bool
  deriving DecidableEq

namespace FileTree

variable (files : FileTree)

/-- Every link is followed.  Nothing is walked for the empty text. -/
def canonicalize (walked : List Component) : Option Path :=
  if walked = [] then none
  else
    match files.disk.follow Disk.maxLinks files.workingDirectory walked with
    | .node path => some path
    | _ => none

def metadata (walked : List Component) : Option Metadata :=
  (files.canonicalize walked).map fun path =>
    ⟨files.identity path, files.mode path, files.disk path == some .directory⟩

/-- Where the file is, or where it would be once it is created. -/
def destination (walked : List Component) : Option Path :=
  if walked = [] then none
  else files.disk.settle Disk.maxLinks files.workingDirectory walked

theorem canonicalize_eq_some {walked : List Component} {path : Path} :
    files.canonicalize walked = some path ↔ walked ≠ [] ∧
      files.disk.follow Disk.maxLinks files.workingDirectory walked = .node path := by
  unfold canonicalize
  split
  · rename_i empty
    exact ⟨nofun, fun both => absurd empty both.1⟩
  · rename_i some'
    split
    · rename_i found follows
      rw [follows, Option.some.injEq]
      exact ⟨fun same => ⟨some', by rw [same]⟩, fun both => Found.node.inj both.2⟩
    · rename_i other
      exact ⟨nofun, fun both => absurd both.2 (other path)⟩

/-- A file that is there is where its path leads. -/
theorem destination_of_canonicalize {walked : List Component} {path : Path}
    (found : files.canonicalize walked = some path) : files.destination walked = some path := by
  rcases (files.canonicalize_eq_some).mp found with ⟨some', follows⟩
  unfold destination
  rw [if_neg some', Disk.settle_of_follow files.tree files.working follows]

end FileTree
end FileSystem
