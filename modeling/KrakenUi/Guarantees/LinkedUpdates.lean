import KrakenUi.FileSystem.Links
import KrakenUi.Guarantees.Installation
import KrakenUi.Interaction.Records

namespace KrakenUi
namespace SourceUpdate

open FileSystem Interaction

/-!
# Installing a release where there are symbolic links

The loop asks of every part of a target whether it exists, following links, and
then whether it is a link, not following it.  A link that leads somewhere is
found in this way.  A link that leads to nothing is not, and it is only safe
where a directory is created: a file is written through it.

All other calls are made below directories that are no links, so the record of a
run shows where each of them has written.
-/

/-- The path at which a file is written when this one is opened. -/
def Opens (disk : Disk) (path found : Path) : Prop :=
  (disk.resolve path = .node found ∧ Exists fun old => disk found = some (.file old)) ∨
    Exists fun directory => Exists fun name =>
      disk.resolve path = .absent directory name ∧ found = directory ++ [name]

/-- What a call does that follows links, with its reply or with an error. -/
def follows (before : Disk) : (command : Command) -> Option command.Reply -> Disk -> Prop
  | .bail _, _, after | .readEntry, _, after | .readDir, _, after => after = before
  | .pathExists path, reply, after => after = before ∧ reply = some (before.leads path)
  | .isSymlink path, reply, after =>
      after = before ∧ (reply = none ∨ reply = some (before.isSymlink path))
  | .createDirAll path, reply, after =>
      (after = before ∨ (before path = none ∧ after = before.put path .directory)) ∧
        (reply = some () -> Exists fun found =>
          after.resolve path = .node found ∧ after found = some .directory)
  | .copy content path, reply, after =>
      (after = before ∨ Exists fun found => Exists fun written =>
        Opens before path found ∧ after = before.put found (.file written)) ∧
        (reply = some () ->
          (Exists fun found => Opens before path found ∧
            after = before.put found (.file content)) ∨
          Exists fun found => before.resolve path = .node found ∧
            before found = some .special ∧ after = before)
  | .unpack entry path, _, after => Unpacks entry path before after

/-- What any call does.  Calls in a directory that is reached through a link are
not described. -/
def linked : Effect calls Disk := fun before command reply after =>
  (forall path, command.path = some path -> before.Rooted path.dropLast) ->
    follows before command reply after

/-- A deployment in which there may be symbolic links. -/
structure LinkedSite where
  destination : Path
  initial : Disk
  rooted : initial.Rooted destination

/-- No file is copied to a link that leads to nothing. -/
def Aimed (before : Disk) (command : Command) : Prop :=
  forall content path, command = .copy content path -> ¬ before.Dangles path

abbrev Log := List (Taken calls Disk)

/-- A call that changed nothing, or only a path below the destination on which
there is no link. -/
def Direct (destination : Path) (taken : Taken calls Disk) : Prop :=
  taken.after = taken.before ∨ Exists fun path =>
    taken.command.path = some path ∧ destination <+: path ∧ taken.before.Straight path ∧
      forall other, other ≠ path -> taken.after other = taken.before other

/-- The path or one above it was protected when the loop asked. -/
def Spared (destination : Path) (log : Log) (relative : Path) : Prop :=
  Exists fun shield => shield <+: relative ∧
    (underProtectedRoot shield = true ∨
      (hasProtectedExtension shield = true ∧ Exists fun taken => taken ∈ log ∧
        taken.command = .pathExists (destination ++ shield) ∧
          taken.before.leads (destination ++ shield) = true))

namespace LinkedSite

variable (site : LinkedSite)

/-- Nothing was written through a link, and no link on the way to a file that is
not protected was passed over. -/
structure Refuses (listing : Listing) (outcome : Option Unit) (log : Log) : Prop where
  direct : forall taken, taken ∈ log -> Direct site.destination taken
  straight : outcome = some () -> forall path content, listing.Holds path content ->
    ¬ Spared site.destination log path -> site.initial.Straight (site.destination ++ path)

/-- What holds between two moments of the copying. -/
structure Onward (start after : Disk × Log) : Prop where
  grows : start.1.Extends after.1
  kept : forall taken, taken ∈ start.2 -> taken ∈ after.2
  direct : forall taken, taken ∈ after.2 -> taken ∈ start.2 ∨ Direct site.destination taken

/-- What a task ensures on every run that copies no file to a link to nothing. -/
abbrev Steps {α : Type} (task : Task α) (state : Disk × Log) (post : α -> Disk × Log -> Prop) :
    Prop :=
  Ensures (recorded (guarded linked Aimed)) (site.Onward (site.initial, [])) task state post

end LinkedSite

section Onward

variable {site : LinkedSite} {start between after : Disk × Log}

theorem LinkedSite.Onward.refl (state : Disk × Log) : site.Onward state state where
  grows := Disk.Extends.refl state.1
  kept := fun _ member => member
  direct := fun _ member => Or.inl member

theorem LinkedSite.Onward.trans (first : site.Onward start between)
    (second : site.Onward between after) : site.Onward start after where
  grows := first.grows.trans second.grows
  kept := fun taken member => second.kept taken (first.kept taken member)
  direct := by
    intro taken member
    rcases second.direct taken member with before | direct
    · exact first.direct taken before
    · exact Or.inr direct

/-- A call whose own record is direct. -/
theorem onward_call {command : Command} (grows : start.1.Extends after.1)
    (written : after.2 = ⟨start.1, command, after.1⟩ :: start.2)
    (direct : Direct site.destination ⟨start.1, command, after.1⟩) : site.Onward start after where
  grows := grows
  kept := by
    intro taken member
    rw [written]
    exact List.mem_cons_of_mem _ member
  direct := by
    intro taken member
    rw [written] at member
    rcases List.mem_cons.mp member with rfl | before
    · exact Or.inr direct
    · exact Or.inl before

theorem onward_unchanged {command : Command} (same : after.1 = start.1)
    (written : after.2 = ⟨start.1, command, after.1⟩ :: start.2) : site.Onward start after :=
  onward_call (same ▸ Disk.Extends.refl _) written (Or.inl same)

theorem Spared.grows {destination relative : Path} {log later : Log}
    (spared : Spared destination log relative)
    (kept : forall taken, taken ∈ log -> taken ∈ later) : Spared destination later relative := by
  rcases spared with ⟨shield, isPart, root | ⟨ends, taken, member, asked⟩⟩
  · exact ⟨shield, isPart, Or.inl root⟩
  · exact ⟨shield, isPart, Or.inr ⟨ends, taken, kept taken member, asked⟩⟩

theorem Spared.below {destination relative : Path} {log : Log}
    (spared : Spared destination log relative) (inner : Path) :
    Spared destination log (relative ++ inner) := by
  rcases spared with ⟨shield, isPart, shielded⟩
  exact ⟨shield, isPart.trans (List.prefix_append relative inner), shielded⟩

/-- Where there are no links now, there were none before. -/
theorem straight_before {disk later : Disk} {path : Path} (grows : disk.Extends later)
    (straight : later.Straight path) : disk.Straight path := by
  intro part isPart target link
  exact straight part isPart target (grows.link link)

end Onward

section Targets

variable {disk : Disk} {here : Path} {name : Name}

/-- The check has found no link that leads somewhere. -/
def Clear (disk : Disk) (path : Path) : Prop :=
  ¬ (disk.leads path = true ∧ disk.isSymlink path = true)

theorem straight_concat (rooted : disk.Rooted here)
    (plain : forall target, disk (here ++ [name]) ≠ some (.link target)) :
    disk.Straight (here ++ [name]) := by
  intro part isPart
  rcases List.prefix_concat_iff.mp isPart with rfl | above
  · exact plain
  · exact rooted.straight part above

/-- A path that passes the check and leads anywhere is no link. -/
theorem straight_reached (rooted : disk.Rooted here) (clear : Clear disk (here ++ [name]))
    (aimed : ¬ disk.Dangles (here ++ [name])) (reached : disk.resolve (here ++ [name]) ≠ .nowhere) :
    disk.Straight (here ++ [name]) := by
  apply straight_concat rooted
  intro target link
  have symbolic : disk.isSymlink (here ++ [name]) = true := by
    rw [Disk.isSymlink, link]
  cases resolved : disk.resolve (here ++ [name]) with
  | node found => exact clear ⟨Disk.leads_iff.mpr ⟨found, resolved⟩, symbolic⟩
  | absent directory other => exact aimed ⟨symbolic, directory, other, resolved⟩
  | nowhere => exact reached resolved

/-- A path that is no link leads to itself. -/
theorem opens_self (rooted : disk.Rooted here) (straight : disk.Straight (here ++ [name]))
    {found : Path} (opens : Opens disk (here ++ [name]) found) : found = here ++ [name] := by
  have plain := straight _ (List.prefix_refl _)
  unfold Opens at opens
  rw [Disk.resolve_concat rooted] at opens
  cases node : disk (here ++ [name]) with
  | none =>
      rw [node] at opens
      rcases opens with ⟨impossible, -⟩ | ⟨directory, other, same, rfl⟩
      · cases impossible
      · cases same
        rfl
  | some kind =>
      rw [node] at opens
      cases kind with
      | link target => exact absurd node (plain target)
      | directory =>
          rcases opens with ⟨same, -⟩ | ⟨_, _, impossible, -⟩
          · cases same
            rfl
          · cases impossible
      | file content =>
          rcases opens with ⟨same, -⟩ | ⟨_, _, impossible, -⟩
          · cases same
            rfl
          · cases impossible
      | special =>
          rcases opens with ⟨same, -⟩ | ⟨_, _, impossible, -⟩
          · cases same
            rfl
          · cases impossible

theorem opens_reached {path found : Path} (opens : Opens disk path found) :
    disk.resolve path ≠ .nowhere := by
  rcases opens with ⟨resolved, -⟩ | ⟨_, _, resolved, -⟩
  · rw [resolved]
    exact nofun
  · rw [resolved]
    exact nofun

/-- A file that is opened is created, or it gets another content. -/
theorem extends_opened {path found : Path} (opens : Opens disk path found)
    (content : List UInt8) : disk.Extends (disk.put found (.file content)) := by
  rcases opens with ⟨-, old, there⟩ | ⟨directory, name, resolved, rfl⟩
  · exact Disk.extends_overwrite there content
  · exact Disk.extends_create (Disk.resolve_absent resolved) _

end Targets

/-! ## The rules for the calls -/

section Calls

variable {site : LinkedSite} {state : Disk × Log} {here : Path} {name : Name} {α : Type}
  {post : α -> Disk × Log -> Prop}

/-- A call that changes nothing, with what is known of its reply. -/
theorem steps_unchanged {command : Command} {next : command.Reply -> Task α}
    (start : site.Onward (site.initial, []) state)
    (idle : forall reply disk, linked state.1 command reply disk -> disk = state.1)
    (later : forall reply after, site.Onward state after -> after.1 = state.1 ->
      after.2 = ⟨state.1, command, state.1⟩ :: state.2 ->
      linked state.1 command (some reply) state.1 -> site.Steps (next reply) after post) :
    site.Steps (call command >>= next) state post := by
  apply Ensures.call
  · rintro after ⟨acted, written⟩
    exact start.trans (onward_unchanged (idle none _ acted.1) written)
  · rintro reply after ⟨acted, written⟩
    have same := idle (some reply) _ acted.1
    apply later reply after (onward_unchanged same written) same
    · rw [written, same]
    · exact same ▸ acted.1

theorem steps_read {command : Command} {next : command.Reply -> Task α}
    (reads : command = .readEntry ∨ command = .readDir)
    (start : site.Onward (site.initial, []) state)
    (later : forall reply after, site.Onward state after -> after.1 = state.1 ->
      site.Steps (next reply) after post) :
    site.Steps (call command >>= next) state post := by
  apply steps_unchanged start
  · intro reply disk acted
    rcases reads with rfl | rfl
    · exact acted nofun
    · exact acted nofun
  · intro reply after onward same _ _
    exact later reply after onward same

theorem steps_bail (message : String) (start : site.Onward (site.initial, []) state) :
    site.Steps (bail message : Task α) state post := by
  apply steps_unchanged start
  · intro reply disk acted
    exact acted nofun
  · intro reply
    exact Empty.elim reply

/-- The path of a call in a directory that is reached without links. -/
theorem described {command : Command} {disk : Disk} (rooted : disk.Rooted here)
    (about : command.path = some (here ++ [name])) :
    forall path, command.path = some path -> disk.Rooted path.dropLast := by
  intro path same
  rw [about] at same
  cases same
  rw [List.dropLast_concat]
  exact rooted

theorem steps_pathExists {next : Bool -> Task α} (start : site.Onward (site.initial, []) state)
    (rooted : state.1.Rooted here)
    (later : forall after, site.Onward state after -> after.1 = state.1 ->
      after.2 = ⟨state.1, .pathExists (here ++ [name]), state.1⟩ :: state.2 ->
      site.Steps (next (state.1.leads (here ++ [name]))) after post) :
    site.Steps (call (.pathExists (here ++ [name])) >>= next) state post := by
  apply steps_unchanged start
  · intro reply disk acted
    exact (acted (described rooted rfl)).1
  · intro reply after onward same written acted
    cases (acted (described rooted rfl)).2
    exact later after onward same written

theorem steps_isSymlink {next : Bool -> Task α} (start : site.Onward (site.initial, []) state)
    (rooted : state.1.Rooted here)
    (later : forall after, site.Onward state after -> after.1 = state.1 ->
      site.Steps (next (state.1.isSymlink (here ++ [name]))) after post) :
    site.Steps (call (.isSymlink (here ++ [name])) >>= next) state post := by
  apply steps_unchanged start
  · intro reply disk acted
    exact (acted (described rooted rfl)).1
  · intro reply after onward same _ acted
    rcases (acted (described rooted rfl)).2 with impossible | answered
    · cases impossible
    · cases answered
      exact later after onward same

/-- The walk ends with an error unless the last part is clear. -/
theorem steps_ensureSafeFrom (names : List Name) {here : Path} {state : Disk × Log}
    (start : site.Onward (site.initial, []) state)
    (rooted : state.1.Rooted (here ++ names.dropLast)) :
    site.Steps (ensureSafeFrom here names) state (fun _ after =>
      site.Onward state after ∧ after.1 = state.1 ∧
        (names ≠ [] -> Clear state.1 (here ++ names))) := by
  induction names generalizing here state with
  | nil =>
      apply Ensures.pure
      exact ⟨LinkedSite.Onward.refl state, rfl, fun nonempty => absurd rfl nonempty⟩
  | cons name rest inductionHypothesis =>
      have above : state.1.Rooted here := by
        intro part isPart
        exact rooted part (isPart.trans (List.prefix_append here _))
      -- the rest of the walk, once this part is known to be clear
      have further : forall between, site.Onward state between -> between.1 = state.1 ->
          Clear state.1 (here ++ [name]) ->
          site.Steps (ensureSafeFrom (here ++ [name]) rest) between (fun _ after =>
            site.Onward state after ∧ after.1 = state.1 ∧
              (name :: rest ≠ [] -> Clear state.1 (here ++ name :: rest))) := by
        intro between onward same clear
        cases rest with
        | nil => exact Ensures.pure ⟨onward, same, fun _ => clear⟩
        | cons second rest =>
            have deeper : between.1.Rooted (here ++ [name] ++ (second :: rest).dropLast) := by
              rw [same, List.append_assoc]
              exact rooted
            apply (inductionHypothesis (start.trans onward) deeper).mono
            rintro _ after ⟨walked, unchanged, last⟩
            refine ⟨onward.trans walked, unchanged.trans same, fun _ => ?_⟩
            have found := last (List.cons_ne_nil _ _)
            rwa [same, List.append_assoc] at found
      simp only [ensureSafeFrom]
      apply steps_pathExists start above
      intro asked onward same _
      split
      · apply steps_isSymlink (start.trans onward) (same ▸ above)
        intro inspected later unchanged
        rw [same] at unchanged ⊢
        split
        · exact steps_bail _ (start.trans (onward.trans later))
        · rename_i plain
          exact further inspected (onward.trans later) unchanged fun clear => plain clear.2
      · rename_i missing
        exact further asked onward same fun clear => missing clear.1

theorem steps_ensureDestinationSafe {relative : Path}
    (start : site.Onward (site.initial, []) state)
    (rooted : state.1.Rooted (site.destination ++ relative)) :
    site.Steps (ensureDestinationSafe site.destination (site.destination ++ (relative ++ [name])))
      state (fun _ after => site.Onward state after ∧ after.1 = state.1 ∧
        Clear state.1 (site.destination ++ (relative ++ [name]))) := by
  unfold ensureDestinationSafe
  split
  · rw [List.drop_left]
    have above : state.1.Rooted (site.destination ++ (relative ++ [name]).dropLast) := by
      rw [List.dropLast_concat]
      exact rooted
    apply (steps_ensureSafeFrom (relative ++ [name]) start above).mono
    rintro _ after ⟨onward, same, last⟩
    exact ⟨onward, same, last (List.append_ne_nil_of_right_ne_nil _ (List.cons_ne_nil _ _))⟩
  · exact steps_bail _ start

theorem steps_protectedPath {relative : Path} (start : site.Onward (site.initial, []) state)
    (rooted : state.1.Rooted (site.destination ++ relative)) :
    site.Steps (protectedPath (relative ++ [name]) (site.destination ++ (relative ++ [name]))) state
      (fun answer after => site.Onward state after ∧ after.1 = state.1 ∧
        (answer = true -> Spared site.destination after.2 (relative ++ [name]))) := by
  unfold protectedPath
  split
  · rename_i root
    apply Ensures.pure
    exact ⟨LinkedSite.Onward.refl state, rfl, fun _ => ⟨_, List.prefix_refl _, Or.inl root⟩⟩
  · rw [← List.append_assoc]
    apply steps_pathExists start rooted
    intro after onward same written
    split
    · exact Ensures.pure ⟨onward, same, nofun⟩
    · rename_i present
      have asked : ⟨state.1, .pathExists (site.destination ++ relative ++ [name]), state.1⟩ ∈
          after.2 := by
        rw [written]
        exact List.mem_cons_self
      rw [List.append_assoc] at present asked
      have leads : state.1.leads (site.destination ++ (relative ++ [name])) = true := by
        simpa using present
      apply Ensures.pure
      refine ⟨onward, same, fun ends => ⟨_, List.prefix_refl _, Or.inr ?_⟩⟩
      exact ⟨ends, _, asked, rfl, leads⟩

/-- The rule for an entry: it is spared, or it is installed where it is clear. -/
theorem steps_visit {relative : Path} {install : Path -> Task Unit}
    {post : Unit -> Disk × Log -> Prop} (start : site.Onward (site.initial, []) state)
    (rooted : state.1.Rooted (site.destination ++ relative))
    (skips : forall after, site.Onward state after ->
      Spared site.destination after.2 (relative ++ [name]) -> post () after)
    (installs : forall after, site.Onward state after -> after.1 = state.1 ->
      Clear after.1 (site.destination ++ (relative ++ [name])) ->
      site.Steps (install (site.destination ++ (relative ++ [name]))) after post) :
    site.Steps (visit site.destination (relative ++ [name]) install) state post := by
  apply (steps_protectedPath start rooted).bind
  rintro answer asked ⟨onward, same, spared⟩
  split
  · rename_i isProtected
    exact Ensures.pure (skips asked onward (spared isProtected))
  · apply (steps_ensureDestinationSafe (start.trans onward) (same ▸ rooted)).bind
    rintro _ checked ⟨later, unchanged, clear⟩
    exact installs checked (onward.trans later) (unchanged.trans same) (unchanged ▸ clear)

/-- Nothing is created where there is a directory. -/
theorem steps_createAbove {next : Unit -> Task α} (start : site.Onward (site.initial, []) state)
    (rooted : state.1.Rooted here)
    (later : forall after, site.Onward state after -> after.1 = state.1 ->
      site.Steps (next ()) after post) :
    site.Steps (call (.createDirAll here) >>= next) state post := by
  apply steps_unchanged start
  · intro reply disk acted
    have described : forall path, Command.path (.createDirAll here) = some path ->
        state.1.Rooted path.dropLast := by
      rintro path same part isPart
      cases same
      exact rooted part (isPart.trans (List.dropLast_prefix here))
    rcases (acted described).1 with unchanged | ⟨missing, -⟩
    · exact unchanged
    · rw [rooted here (List.prefix_refl here)] at missing
      cases missing
  · intro reply after onward same _ _
    exact later after onward same

/-- A directory that was created, or was there, is no link. -/
theorem steps_createDirAll {next : Unit -> Task α} (start : site.Onward (site.initial, []) state)
    (below : site.destination <+: here) (rooted : state.1.Rooted here)
    (clear : Clear state.1 (here ++ [name]))
    (later : forall after, site.Onward state after -> after.1.Rooted (here ++ [name]) ->
      site.Steps (next ()) after post) :
    site.Steps (call (.createDirAll (here ++ [name])) >>= next) state post := by
  have onward : forall reply after,
      recorded (guarded linked Aimed) state (.createDirAll (here ++ [name])) reply after ->
      site.Onward state after := by
    rintro reply after ⟨⟨acted, -⟩, written⟩
    rcases (acted (described rooted rfl)).1 with unchanged | ⟨missing, created⟩
    · exact onward_unchanged unchanged written
    · apply onward_call (created ▸ Disk.extends_create missing _) written
      refine Or.inr ⟨_, rfl, below.trans (List.prefix_append here [name]), ?_, ?_⟩
      · apply straight_concat rooted
        rw [missing]
        exact nofun
      · intro other different
        rw [created]
        exact Disk.put_other different _
  apply Ensures.call
  · intro after failed
    exact start.trans (onward none after failed)
  · intro reply after answered
    apply later after (onward _ after answered)
    have above := (onward _ after answered).grows.rooted rooted
    rcases answered with ⟨⟨acted, -⟩, -⟩
    rcases acted (described rooted rfl) with ⟨effect, succeeded⟩
    rcases succeeded rfl with ⟨found, resolved, directory⟩
    apply above.append
    rw [Disk.resolve_concat above] at resolved
    cases node : after.1 (here ++ [name]) with
    | none =>
        rw [node] at resolved
        cases resolved
    | some kind =>
        cases kind with
        | link target =>
            exfalso
            rcases effect with unchanged | ⟨-, created⟩
            · have leads : state.1.leads (here ++ [name]) = true := by
                rw [← unchanged, Disk.leads_iff, Disk.resolve_concat above]
                exact ⟨found, resolved⟩
              apply clear ⟨leads, _⟩
              rw [← unchanged, Disk.isSymlink, node]
            · rw [created, Disk.put_same] at node
              cases node
        | directory => rfl
        | file content =>
            rw [node] at resolved
            cases resolved
            rw [node] at directory
            cases directory
        | special =>
            rw [node] at resolved
            cases resolved
            rw [node] at directory
            cases directory

/-- The target of a copy that succeeds is no link. -/
theorem steps_copy {content : List UInt8} {post : Unit -> Disk × Log -> Prop}
    (start : site.Onward (site.initial, []) state)
    (below : site.destination <+: here) (rooted : state.1.Rooted here)
    (clear : Clear state.1 (here ++ [name]))
    (later : forall after, site.Onward state after -> state.1.Straight (here ++ [name]) ->
      post () after) :
    site.Steps (call (.copy content (here ++ [name]))) state post := by
  have onward : forall reply after,
      recorded (guarded linked Aimed) state (.copy content (here ++ [name])) reply after ->
      site.Onward state after := by
    rintro reply after ⟨⟨acted, aimed⟩, written⟩
    rcases (acted (described rooted rfl)).1 with unchanged | ⟨found, new, opens, wrote⟩
    · exact onward_unchanged unchanged written
    · have straight := straight_reached rooted clear (aimed content _ rfl) (opens_reached opens)
      cases opens_self rooted straight opens
      apply onward_call (wrote ▸ extends_opened opens new) written
      refine Or.inr ⟨_, rfl, below.trans (List.prefix_append here [name]), straight, ?_⟩
      intro other different
      rw [wrote]
      exact Disk.put_other different _
  apply Ensures.call
  · intro after failed
    exact start.trans (onward none after failed)
  · intro reply after answered
    apply Ensures.pure
    apply later after (onward _ after answered)
    rcases answered with ⟨⟨acted, aimed⟩, -⟩
    apply straight_reached rooted clear (aimed content _ rfl)
    rcases (acted (described rooted rfl)).2 rfl with ⟨found, opens, -⟩ | ⟨found, resolved, -⟩
    · exact opens_reached opens
    · rw [resolved]
      exact nofun

end Calls

/-! ## The loop -/

/-- Every file of a listing was spared, or there was no link on its way. -/
structure LinkedSite.Visited (site : LinkedSite) (relative : Path) (listing : Listing)
    (state after : Disk × Log) : Prop where
  onward : site.Onward state after
  straight : forall path content, listing.Holds path content ->
    Spared site.destination after.2 (relative ++ path) ∨
      site.initial.Straight (site.destination ++ (relative ++ path))

section Loop

variable {site : LinkedSite} {state between after : Disk × Log} {relative : Path} {name : Name}

/-- What was spared before other entries were visited is spared after. -/
theorem LinkedSite.Visited.later {listing : Listing}
    (visited : site.Visited relative listing state between) (onward : site.Onward between after) :
    site.Visited relative listing state after where
  onward := visited.onward.trans onward
  straight := by
    intro path content held
    rcases visited.straight path content held with spared | straight
    · exact Or.inl (spared.grows onward.kept)
    · exact Or.inr straight

theorem steps_leaf (kind : Leaf) (start : site.Onward (site.initial, []) state)
    (rooted : state.1.Rooted (site.destination ++ relative)) :
    site.Steps (visit site.destination (relative ++ [name]) (installLeaf kind)) state
      (fun _ => site.Visited relative (.leaf name kind .nil) state) := by
  apply steps_visit start rooted
  · intro after onward spared
    refine ⟨onward, ?_⟩
    rintro path content (⟨rfl, -⟩ | held)
    · exact Or.inl spared
    · exact held.elim
  · intro checked onward same clear
    cases kind with
    | file content =>
        simp only [installLeaf]
        rw [← List.append_assoc] at clear ⊢
        rw [List.dropLast_concat]
        apply steps_createAbove (start.trans onward) (same ▸ rooted)
        intro made later unchanged
        have further := onward.trans later
        apply steps_copy (start.trans further) (List.prefix_append _ _)
          (further.grows.rooted rooted) (unchanged ▸ clear)
        intro after wrote straight
        refine ⟨further.trans wrote, ?_⟩
        rintro path held (⟨rfl, -⟩ | impossible)
        · rw [List.append_assoc] at straight
          exact Or.inr (straight_before (start.trans further).grows straight)
        · exact impossible.elim
    | link =>
        apply Ensures.pure
        refine ⟨onward, ?_⟩
        rintro path content (⟨-, impossible⟩ | held)
        · cases impossible
        · exact held.elim
    | special =>
        apply Ensures.pure
        refine ⟨onward, ?_⟩
        rintro path content (⟨-, impossible⟩ | held)
        · cases impossible
        · exact held.elim

theorem steps_directory (entries : Listing) (start : site.Onward (site.initial, []) state)
    (rooted : state.1.Rooted (site.destination ++ relative))
    (inside : forall between, site.Onward (site.initial, []) between ->
      between.1.Rooted (site.destination ++ (relative ++ [name])) ->
      site.Steps (copyEntries site.destination (relative ++ [name]) entries) between
        (fun _ => site.Visited (relative ++ [name]) entries between)) :
    site.Steps (visit site.destination (relative ++ [name]) fun target => do
      call (.createDirAll target)
      call .readDir
      copyEntries site.destination (relative ++ [name]) entries) state
      (fun _ => site.Visited relative (.directory name entries .nil) state) := by
  apply steps_visit start rooted
  · intro after onward spared
    refine ⟨onward, ?_⟩
    rintro path content (⟨inner, rfl, -⟩ | held)
    · have below := spared.below inner
      rw [List.append_assoc] at below
      exact Or.inl below
    · exact held.elim
  · intro checked onward same clear
    rw [← List.append_assoc] at clear ⊢
    apply steps_createDirAll (start.trans onward) (List.prefix_append _ _) (same ▸ rooted) clear
    intro made later directory
    apply steps_read (Or.inr rfl) (start.trans (onward.trans later))
    intro _ opened further unchanged
    rw [List.append_assoc, ← unchanged] at directory
    have reached := (onward.trans later).trans further
    apply (inside opened (start.trans reached) directory).mono
    intro _ after visited
    refine ⟨reached.trans visited.onward, ?_⟩
    rintro path content (⟨inner, rfl, held⟩ | held)
    · have result := visited.straight inner content held
      rwa [List.append_assoc] at result
    · exact held.elim

/-- The loop passes no link on its way to a file. -/
theorem steps_copyEntries (listing : Listing) {relative : Path} {state : Disk × Log}
    (start : site.Onward (site.initial, []) state)
    (rooted : state.1.Rooted (site.destination ++ relative)) :
    site.Steps (copyEntries site.destination relative listing) state
      (fun _ => site.Visited relative listing state) := by
  induction listing generalizing relative state with
  | nil => exact Ensures.pure ⟨LinkedSite.Onward.refl state, fun _ _ held => held.elim⟩
  | leaf name kind rest inductionHypothesis =>
      apply steps_read (Or.inl rfl) start
      intro _ reading onward same
      split
      · exact steps_bail _ (start.trans onward)
      · apply (steps_leaf kind (start.trans onward) (same ▸ rooted)).bind
        intro _ between first
        have reached := onward.trans first.onward
        apply (inductionHypothesis (start.trans reached) (reached.grows.rooted rooted)).mono
        intro _ after visited
        refine ⟨reached.trans visited.onward, ?_⟩
        rintro path content (here | held)
        · exact (first.later visited.onward).straight path content (Or.inl here)
        · exact visited.straight path content held
  | directory name entries rest insideHypothesis inductionHypothesis =>
      apply steps_read (Or.inl rfl) start
      intro _ reading onward same
      apply (steps_directory entries (start.trans onward) (same ▸ rooted)
        fun between begun directory => insideHypothesis begun directory).bind
      intro _ between first
      have reached := onward.trans first.onward
      apply (inductionHypothesis (start.trans reached) (reached.grows.rooted rooted)).mono
      intro _ after visited
      refine ⟨reached.trans visited.onward, ?_⟩
      rintro path content (here | held)
      · exact (first.later visited.onward).straight path content (Or.inl here)
      · exact visited.straight path content held

end Loop

/-! ## A file system on which only impossible calls fail -/

def obey (disk : Disk) : (command : Command) -> Option command.Reply × Disk
  | .bail _ => (none, disk)
  | .readEntry | .readDir => (some (), disk)
  | .pathExists path => (some (disk.leads path), disk)
  | .isSymlink path => (some (disk.isSymlink path), disk)
  | .createDirAll path =>
      match disk path with
      | none => (some (), disk.put path .directory)
      | some _ =>
          match disk.resolve path with
          | .node found => (if disk found = some .directory then some () else none, disk)
          | _ => (none, disk)
  | .copy content path =>
      match disk.resolve path with
      | .node found =>
          match disk found with
          | some (.file _) => (some (), disk.put found (.file content))
          | some .special => (some (), disk)
          | _ => (none, disk)
      | .absent directory name => (some (), disk.put (directory ++ [name]) (.file content))
      | .nowhere => (none, disk)
  | .unpack _ _ => (none, disk)

/-- A directory that is created leads to itself. -/
theorem resolve_created {disk : Disk} {path : Path} (rooted : disk.Rooted path.dropLast)
    (missing : disk path = none) : (disk.put path .directory).resolve path = .node path := by
  cases path using List.reverseRecOn with
  | nil => rfl
  | append_singleton here name =>
      rw [List.dropLast_concat] at rooted
      have above := (Disk.extends_create missing .directory).rooted rooted
      rw [Disk.resolve_concat above, Disk.put_same]

theorem obey_linked (disk : Disk) (command : Command) :
    linked disk command (obey disk command).1 (obey disk command).2 := by
  intro described
  cases command with
  | bail message => rfl
  | readEntry => rfl
  | readDir => rfl
  | pathExists path => exact ⟨rfl, rfl⟩
  | isSymlink path => exact ⟨rfl, Or.inr rfl⟩
  | createDirAll path =>
      simp only [obey]
      split
      · rename_i missing
        have created := resolve_created (described path rfl) missing
        exact ⟨Or.inr ⟨missing, rfl⟩, fun _ => ⟨path, created, Disk.put_same _⟩⟩
      · split
        · rename_i found resolved
          refine ⟨Or.inl rfl, fun succeeded => ⟨found, resolved, ?_⟩⟩
          dsimp only at succeeded
          split at succeeded
          · assumption
          · cases succeeded
        · exact ⟨Or.inl rfl, nofun⟩
  | copy content path =>
      simp only [obey]
      split
      · rename_i found resolved
        split
        · rename_i old there
          have opens : Opens disk path found := Or.inl ⟨resolved, old, there⟩
          exact ⟨Or.inr ⟨found, content, opens, rfl⟩, fun _ => Or.inl ⟨found, opens, rfl⟩⟩
        · rename_i special
          exact ⟨Or.inl rfl, fun _ => Or.inr ⟨found, resolved, special, rfl⟩⟩
        · exact ⟨Or.inl rfl, nofun⟩
      · rename_i directory name resolved
        have opens : Opens disk path (directory ++ [name]) :=
          Or.inr ⟨directory, name, resolved, rfl⟩
        exact ⟨Or.inr ⟨_, content, opens, rfl⟩, fun _ => Or.inl ⟨_, opens, rfl⟩⟩
      · exact ⟨Or.inl rfl, nofun⟩
  | unpack entry path => exact ⟨fun _ _ => rfl, Or.inl rfl⟩

/-! ## The result -/

section Result

variable (site : LinkedSite) (listing : Listing)

/-- A recorded run of the copy. -/
abbrev LinkedSite.Copies (outcome : Option Unit) (after : Disk × Log) : Prop :=
  Completes (recorded linked) (copyReleaseSource listing site.destination) (site.initial, [])
    outcome after

variable {site listing} {outcome : Option Unit} {after : Disk × Log}

theorem refuses_of_aimed (run : site.Copies listing outcome after)
    (aimed : forall taken, taken ∈ after.2 -> Aimed taken.before taken.command) :
    site.Refuses listing outcome after.2 := by
  have start : site.Onward (site.initial, []) (site.initial, []) := LinkedSite.Onward.refl _
  have ends : site.Steps (copyReleaseSource listing site.destination) (site.initial, [])
      (fun _ => site.Visited [] listing (site.initial, [])) := by
    apply steps_read (Or.inr rfl) start
    intro _ opened onward same
    have rooted : opened.1.Rooted (site.destination ++ []) := by
      rw [same, List.append_nil]
      exact site.rooted
    apply (steps_copyEntries listing onward rooted).mono
    intro _ last visited
    exact ⟨onward.trans visited.onward, visited.straight⟩
  have result := ends outcome after (completes_guarded run aimed)
  have onward : site.Onward (site.initial, []) after := by
    cases outcome with
    | none => exact result
    | some value => exact LinkedSite.Visited.onward result
  constructor
  · intro taken member
    rcases onward.direct taken member with before | direct
    · cases before
    · exact direct
  · rintro rfl path content held unspared
    rcases LinkedSite.Visited.straight result path content held with spared | straight
    · exact absurd spared unspared
    · exact straight

/-- Every call can at least fail, or tell what is there. -/
theorem linked_total : Total linked := by
  intro disk command
  cases command with
  | bail message => exact ⟨none, disk, fun _ => rfl⟩
  | readEntry => exact ⟨none, disk, fun _ => rfl⟩
  | readDir => exact ⟨none, disk, fun _ => rfl⟩
  | pathExists path => exact ⟨some (disk.leads path), disk, fun _ => ⟨rfl, rfl⟩⟩
  | isSymlink path => exact ⟨none, disk, fun _ => ⟨rfl, Or.inl rfl⟩⟩
  | createDirAll path => exact ⟨none, disk, fun _ => ⟨Or.inl rfl, nofun⟩⟩
  | copy content path => exact ⟨none, disk, fun _ => ⟨Or.inl rfl, nofun⟩⟩
  | unpack entry path => exact ⟨none, disk, fun _ => ⟨fun _ _ => rfl, Or.inl rfl⟩⟩

/-- A file that is copied to a link to nothing can be written there. -/
theorem linked_astray {disk : Disk} {content : List UInt8} {path : Path}
    (dangles : disk.Dangles path) : Exists fun created => disk created = none ∧
      linked disk (.copy content path) (some ()) (disk.put created (.file content)) := by
  rcases dangles with ⟨-, directory, name, resolved⟩
  have opens : Opens disk path (directory ++ [name]) := Or.inr ⟨directory, name, resolved, rfl⟩
  refine ⟨directory ++ [name], Disk.resolve_absent resolved, fun _ => ⟨Or.inr ?_, fun _ => ?_⟩⟩
  · exact ⟨_, content, opens, rfl⟩
  · exact Or.inl ⟨_, opens, rfl⟩

/-- A run that copies to a link to nothing could have written through it. -/
theorem exists_astray (run : site.Copies listing outcome after) {taken : Taken calls Disk}
    (member : taken ∈ after.2) (stray : ¬ Aimed taken.before taken.command) :
    Exists fun outcome => Exists fun after =>
      site.Copies listing outcome after ∧ ¬ site.Refuses listing outcome after.2 := by
  rcases taken with ⟨before, command, wrote⟩
  unfold Aimed at stray
  push Not at stray
  rcases stray with ⟨content, path, rfl, dangles⟩
  rcases @linked_astray before content path dangles with ⟨created, missing, acted⟩
  rcases exists_otherwise linked_total run member List.not_mem_nil acted with
      ⟨outcome, last, otherwise, found⟩
  refine ⟨outcome, last, otherwise, fun refuses => ?_⟩
  rcases refuses.direct _ found with unchanged | ⟨direct, about, -, straight, -⟩
  · have here : before.put created (.file content) created = before created :=
      congrFun unchanged created
    rw [missing, Disk.put_same] at here
    cases here
  · cases about
    have symbolic := dangles.1
    unfold Disk.isSymlink at symbolic
    split at symbolic
    · rename_i target link
      exact straight _ (List.prefix_refl _) target link
    · cases symbolic

end Result

/-- A run that copies no file to a link to nothing writes through no link, and
fails at a link on the way to a file that is not protected.  If some run does
copy a file to such a link, then some run writes through it. -/
theorem update_refuses_links_iff (site : LinkedSite) (listing : Listing) :
    (forall outcome after, site.Copies listing outcome after ->
      (forall taken, taken ∈ after.2 -> Aimed taken.before taken.command) ->
        site.Refuses listing outcome after.2) ∧
    ((forall outcome after, site.Copies listing outcome after ->
        site.Refuses listing outcome after.2) ↔
      forall outcome after, site.Copies listing outcome after ->
        forall taken, taken ∈ after.2 -> Aimed taken.before taken.command) := by
  refine ⟨fun outcome after run aimed => refuses_of_aimed run aimed, ?_, ?_⟩
  · intro refuses outcome after run taken member
    by_contra stray
    rcases exists_astray run member stray with ⟨outcome, last, otherwise, writes⟩
    exact writes (refuses outcome last otherwise)
  · intro aimed outcome after run
    exact refuses_of_aimed run (aimed outcome after run)

end SourceUpdate

namespace Sample

open FileSystem Interaction SourceUpdate

def outside : Name := ⟨ascii "outside", by decide, by decide, by decide, by decide⟩

/-- A deployment in which `main.rs` is a link to a file that does not exist. -/
def linkedSite : LinkedSite where
  destination := [srv]
  initial := fun path =>
    if path = [] ∨ path = [srv] then some .directory
    else if path = [srv, mainRs] then some (.link (ascii "/outside"))
    else none
  rooted := by
    intro part isPart
    rcases (@List.prefix_concat_iff _ part [] srv).mp isPart with rfl | above
    · decide
    · rw [List.prefix_nil.mp above]
      decide

def configuration : Listing := .leaf setupYaml (.file (ascii "new")) .nil

def program : Listing := .leaf mainRs (.file (ascii "new")) .nil

/-- The copy of a release to the deployment, on record. -/
def copied (listing : Listing) : Option Unit × Disk × Log :=
  enact obey (copyReleaseSource listing [srv]) (linkedSite.initial, [])

theorem copies (listing : Listing) :
    linkedSite.Copies listing (copied listing).1 (copied listing).2 :=
  enact_completes obey_linked _ _

instance (taken : Taken calls Disk) : Decidable (Aimed taken.before taken.command) :=
  match _command : taken.command with
  | .copy _ path =>
      decidable_of_iff (¬ taken.before.Dangles path)
        ⟨fun aimed _ _ same => (Command.copy.inj same).2 ▸ aimed, fun aimed => aimed _ _ rfl⟩
  | .bail _ | .readEntry | .readDir | .pathExists _ | .isSymlink _ | .createDirAll _
  | .unpack _ _ => isTrue nofun

set_option maxRecDepth 10000 in
theorem update_refuses_links_iff_configuration :
    (copied configuration).1 = some () ∧
      (copied configuration).2.1 [srv, setupYaml] = some (.file (ascii "new")) ∧
      linkedSite.Refuses configuration (copied configuration).1 (copied configuration).2.2 := by
  refine ⟨by decide, by decide, ?_⟩
  exact (update_refuses_links_iff linkedSite configuration).1 _ _ (copies configuration) (by decide)

set_option maxRecDepth 10000 in
/-- The copy succeeds, and it creates the file outside. -/
theorem link_followed :
    ¬ forall (site : LinkedSite) (listing : Listing) (outcome : Option Unit) (after : Disk × Log),
      site.Copies listing outcome after -> site.Refuses listing outcome after.2 := by
  intro always
  have refuses := always linkedSite program _ _ (copies program)
  have done : (copied program).1 = some () := by decide
  have written : (copied program).2.1 [outside] = some (.file (ascii "new")) := by decide
  have member : ⟨linkedSite.initial, .copy (ascii "new") [srv, mainRs], (copied program).2.1⟩ ∈
      (copied program).2.2 := List.mem_cons_self
  rcases refuses.direct _ member with unchanged | ⟨path, about, -, straight, -⟩
  · have here : (copied program).2.1 [outside] = linkedSite.initial [outside] :=
      congrFun unchanged [outside]
    rw [written] at here
    revert here
    decide
  · cases about
    exact straight [srv, mainRs] (List.prefix_refl _) (ascii "/outside") (by decide)

end Sample
end KrakenUi
