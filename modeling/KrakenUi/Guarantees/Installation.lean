import KrakenUi.Services.SourceUpdate

namespace KrakenUi
namespace SourceUpdate

open FileSystem Interaction

/-!
# What installing a release leaves alone

While a release is copied over a deployment, and also when the copying stops with
an error, no directory or file is lost and what is protected is unchanged.
A path is protected by itself or by a directory above it, because the loop does
not enter a directory that it skips.

That is also the only reason why a file of the release can be missing after a
copy that succeeds.
-/

/-- A deployment without symbolic links. -/
structure Site where
  destination : Path
  initial : Disk
  rooted : initial.Rooted destination
  linkFree : forall path, destination <+: path -> forall target,
    initial path ≠ some (.link target)

namespace Listing

def names : Listing -> List Name
  | nil => []
  | leaf name _ rest => name :: rest.names
  | directory name _ rest => name :: rest.names

/-- No two entries of a directory have the same name. -/
def Distinct : Listing -> Prop
  | nil => True
  | leaf name _ rest => name ∉ rest.names ∧ rest.Distinct
  | directory name entries rest => name ∉ rest.names ∧ entries.Distinct ∧ rest.Distinct

/-- The release has this file. -/
def Holds : Listing -> Path -> List UInt8 -> Prop
  | nil, _, _ => False
  | leaf name kind rest, path, content =>
      (path = [name] ∧ kind = .file content) ∨ rest.Holds path content
  | directory name entries rest, path, content =>
      (Exists fun inner => path = name :: inner ∧ entries.Holds inner content) ∨
        rest.Holds path content

end Listing

namespace Site

variable (site : Site)

/-- The path is protected by itself. -/
def Protected (disk : Disk) (relative : Path) : Prop :=
  underProtectedRoot relative = true ∨
    (disk (site.destination ++ relative) ≠ none ∧ hasProtectedExtension relative = true)

/-- The path or a directory above it is protected. -/
def Kept (relative : Path) : Prop :=
  Exists fun part => part <+: relative ∧ part ≠ [] ∧ site.Protected site.initial part

/-- What holds at any point of the copying. -/
structure Preserved (disk : Disk) : Prop where
  kept : forall relative, site.Kept relative ->
    disk (site.destination ++ relative) = site.initial (site.destination ++ relative)
  files : forall path content, site.initial path = some (.file content) ->
    Exists fun content => disk path = some (.file content)
  directories : forall path, site.initial path = some .directory -> disk path = some .directory
  links : forall path target, disk path = some (.link target) ->
    site.initial path = some (.link target)
  outside : forall path, ¬ site.destination <+: path -> disk path = site.initial path

/-- A part of the release was copied. -/
structure Copied (relative : Path) (listing : Listing) (before after : Disk) : Prop where
  preserved : site.Preserved after
  elsewhere : forall path, (forall name, name ∈ listing.names -> ¬ relative ++ [name] <+: path) ->
    after (site.destination ++ path) = before (site.destination ++ path)
  installed : forall path content, listing.Holds path content -> ¬ site.Kept (relative ++ path) ->
    after (site.destination ++ (relative ++ path)) = some (.file content)

/-- What a task ensures; when it stops with an error the deployment is preserved. -/
abbrev Ends {α : Type} (task : Task α) (disk : Disk) (post : α -> Disk -> Prop) : Prop :=
  Ensures effect site.Preserved task disk post

end Site

section Preserving

variable {site : Site} {disk after : Disk} {relative : Path}

theorem preserved_initial (site : Site) : site.Preserved site.initial where
  kept := fun _ _ => rfl
  files := fun _ content found => ⟨content, found⟩
  directories := fun _ found => found
  links := fun _ _ found => found
  outside := fun _ _ => rfl

theorem Site.Preserved.straight (preserved : site.Preserved disk) (relative : Path) :
    disk.Straight (site.destination ++ relative) := by
  intro part isPart target found
  have before := preserved.links part target found
  rcases List.prefix_or_prefix_of_prefix isPart (List.prefix_append _ relative) with above | below
  · rw [site.rooted part above] at before
    cases before
  · exact site.linkFree part below target before

/-- One path that is not kept may become a directory or a file. -/
theorem Site.Preserved.update (preserved : site.Preserved disk) (free : ¬ site.Kept relative)
    (elsewhere : forall other, other ≠ site.destination ++ relative -> after other = disk other)
    (here : after (site.destination ++ relative) = disk (site.destination ++ relative) ∨
      (disk (site.destination ++ relative) = none ∧
        after (site.destination ++ relative) = some .directory) ∨
      (disk (site.destination ++ relative) ≠ some .directory ∧
        Exists fun content => after (site.destination ++ relative) = some (.file content))) :
    site.Preserved after where
  kept := by
    intro other isKept
    rw [elsewhere, preserved.kept other isKept]
    intro same
    exact free (List.append_cancel_left same ▸ isKept)
  files := by
    intro path content found
    rcases preserved.files path content found with ⟨current, holds⟩
    by_cases same : path = site.destination ++ relative
    · subst same
      rcases here with unchanged | ⟨missing, -⟩ | ⟨-, written⟩
      · exact ⟨current, unchanged.trans holds⟩
      · rw [missing] at holds
        cases holds
      · exact written
    · exact ⟨current, (elsewhere path same).trans holds⟩
  directories := by
    intro path found
    have holds := preserved.directories path found
    by_cases same : path = site.destination ++ relative
    · subst same
      rcases here with unchanged | ⟨missing, -⟩ | ⟨other, -⟩
      · exact unchanged.trans holds
      · rw [missing] at holds
        cases holds
      · exact absurd holds other
    · exact (elsewhere path same).trans holds
  links := by
    intro path target found
    by_cases same : path = site.destination ++ relative
    · subst same
      rcases here with unchanged | ⟨-, created⟩ | ⟨-, content, written⟩
      · exact preserved.links _ target (unchanged.symm.trans found)
      · rw [created] at found
        cases found
      · rw [written] at found
        cases found
    · exact preserved.links path target ((elsewhere path same).symm.trans found)
  outside := by
    intro path foreign
    rw [elsewhere, preserved.outside path foreign]
    rintro rfl
    exact foreign (List.prefix_append _ relative)

/-- A path is kept by itself or by what is above it. -/
theorem kept_concat {name : Name} (isKept : site.Kept (relative ++ [name])) :
    site.Kept relative ∨ site.Protected site.initial (relative ++ [name]) := by
  rcases isKept with ⟨part, isPart, nonempty, isProtected⟩
  rcases List.prefix_concat_iff.mp isPart with rfl | above
  · exact Or.inr isProtected
  · exact Or.inl ⟨part, above, nonempty, isProtected⟩

/-- An entry of a directory has one name. -/
theorem name_unique {name other : Name} {path : Path} (first : relative ++ [name] <+: path)
    (second : relative ++ [other] <+: path) : name = other := by
  have same := List.prefix_of_prefix_length_le first second (by simp)
  have equal := same.eq_of_length (by simp)
  exact List.singleton_inj.mp (List.append_cancel_left equal)

/-- The directory above stays where it is when something below it changes. -/
theorem rooted_elsewhere {name : Name} (rooted : disk.Rooted (site.destination ++ relative))
    (preserved : site.Preserved after)
    (elsewhere : forall path, ¬ relative ++ [name] <+: path ->
      after (site.destination ++ path) = disk (site.destination ++ path)) :
    after.Rooted (site.destination ++ relative) := by
  intro part isPart
  rcases List.prefix_or_prefix_of_prefix isPart (List.prefix_append _ relative) with above | below
  · exact preserved.directories part (site.rooted part above)
  · rcases below with ⟨path, rfl⟩
    rw [elsewhere]
    · exact rooted _ isPart
    · intro deeper
      have short := ((List.prefix_append_right_inj _).mp isPart).length_le
      have long := deeper.length_le
      simp only [List.length_append, List.length_singleton] at long
      omega

end Preserving

/-! ## The rules for the calls -/

section Calls

variable {site : Site} {disk : Disk} {relative : Path} {α : Type}
  {post : α -> Disk -> Prop}

theorem ends_pathExists {next : Bool -> Task α} (preserved : site.Preserved disk)
    (later : site.Ends (next (disk (site.destination ++ relative)).isSome) disk post) :
    site.Ends (call (.pathExists (site.destination ++ relative)) >>= next) disk post := by
  have straight := preserved.straight relative
  apply Ensures.call
  · intro after failed
    cases (failed fun _ same => Option.some.inj same ▸ straight).2
  · intro reply after answered
    rcases answered fun _ same => Option.some.inj same ▸ straight with ⟨rfl, same⟩
    cases same
    exact later

theorem ends_isSymlink {next : Bool -> Task α} (preserved : site.Preserved disk)
    (later : site.Ends (next false) disk post) :
    site.Ends (call (.isSymlink (site.destination ++ relative)) >>= next) disk post := by
  have straight := preserved.straight relative
  apply Ensures.call
  · intro after failed
    rcases failed fun _ same => Option.some.inj same ▸ straight with ⟨rfl, -⟩
    exact preserved
  · intro reply after answered
    rcases answered fun _ same => Option.some.inj same ▸ straight with ⟨rfl, failed | same⟩
    · cases failed
    · cases same
      have plain : after.isSymlink (site.destination ++ relative) = false := by
        unfold Disk.isSymlink
        split
        · rename_i target found
          exact absurd found (straight _ (List.prefix_refl _) target)
        · rfl
      rw [plain]
      exact later

/-- Reading entries changes nothing. -/
theorem ends_read {command : Command} {next : command.Reply -> Task α}
    (reads : command = .readEntry ∨ command = .readDir) (preserved : site.Preserved disk)
    (later : forall reply, site.Ends (next reply) disk post) :
    site.Ends (call command >>= next) disk post := by
  apply Ensures.call
  · intro after failed
    rcases reads with rfl | rfl
    · rw [show after = disk from failed nofun]
      exact preserved
    · rw [show after = disk from failed nofun]
      exact preserved
  · intro reply after answered
    rcases reads with rfl | rfl
    · rw [show after = disk from answered nofun]
      exact later reply
    · rw [show after = disk from answered nofun]
      exact later reply

theorem ends_bail (message : String) (preserved : site.Preserved disk) :
    site.Ends (bail message : Task α) disk post := by
  apply Ensures.call
  · intro after failed
    rw [show after = disk from failed nofun]
    exact preserved
  · intro reply
    exact Empty.elim reply

theorem ends_ensureSafeFrom (preserved : site.Preserved disk) (names relative : List Name) :
    site.Ends (ensureSafeFrom (site.destination ++ relative) names) disk
      (fun _ after => after = disk) := by
  induction names generalizing relative with
  | nil => exact Ensures.pure rfl
  | cons name rest inductionHypothesis =>
      unfold ensureSafeFrom
      rw [List.append_assoc]
      apply ends_pathExists preserved
      split
      · apply ends_isSymlink preserved
        exact inductionHypothesis (relative ++ [name])
      · exact inductionHypothesis (relative ++ [name])

theorem ends_ensureDestinationSafe (preserved : site.Preserved disk) (relative : Path) :
    site.Ends (ensureDestinationSafe site.destination (site.destination ++ relative)) disk
      (fun _ after => after = disk) := by
  unfold ensureDestinationSafe
  split
  · rw [List.drop_left]
    have checked := @ends_ensureSafeFrom site disk preserved relative []
    rwa [List.append_nil] at checked
  · exact ends_bail _ preserved

theorem ends_protectedPath (preserved : site.Preserved disk) (relative : Path) :
    site.Ends (protectedPath relative (site.destination ++ relative)) disk
      (fun answer after => after = disk ∧ (answer = true ↔ site.Protected disk relative)) := by
  unfold protectedPath Site.Protected
  split
  · rename_i root
    exact Ensures.pure ⟨rfl, by simp [root]⟩
  · rename_i root
    apply ends_pathExists preserved
    cases found : disk (site.destination ++ relative) with
    | none => exact Ensures.pure ⟨rfl, by simp [root]⟩
    | some node => exact Ensures.pure ⟨rfl, by simp [root]⟩

/-- The rule for an entry: it is skipped, or it is installed. -/
theorem ends_visit {install : Path -> Task Unit} {post : Unit -> Disk -> Prop}
    (preserved : site.Preserved disk) (skips : site.Protected disk relative -> post () disk)
    (installs : ¬ site.Protected disk relative ->
      site.Ends (install (site.destination ++ relative)) disk post) :
    site.Ends (visit site.destination relative install) disk post := by
  apply (ends_protectedPath preserved relative).bind
  rintro answer after ⟨rfl, decided⟩
  split
  · rename_i isProtected
    exact Ensures.pure (skips (decided.mp isProtected))
  · rename_i free
    apply (ends_ensureDestinationSafe preserved relative).bind
    rintro _ after rfl
    exact installs fun isProtected => free (decided.mpr isProtected)

/-- The rule for creating the directory of an entry. -/
theorem ends_createDirAll {name : Name} {next : Unit -> Task α} (preserved : site.Preserved disk)
    (free : ¬ site.Kept (relative ++ [name]))
    (rooted : disk.Rooted (site.destination ++ relative))
    (later : forall after, site.Preserved after ->
      after.Rooted (site.destination ++ (relative ++ [name])) ->
      (forall path, path ≠ relative ++ [name] ->
        after (site.destination ++ path) = disk (site.destination ++ path)) ->
      site.Ends (next ()) after post) :
    site.Ends (call (.createDirAll (site.destination ++ (relative ++ [name]))) >>= next) disk
      post := by
  have straight := preserved.straight (relative ++ [name])
  have kept : forall after,
      Disk.CreatesDirs (site.destination ++ (relative ++ [name])) disk after ->
      site.Preserved after ∧ forall path, path ≠ relative ++ [name] ->
        after (site.destination ++ path) = disk (site.destination ++ path) := by
    intro after creates
    have elsewhere : forall other, other ≠ site.destination ++ (relative ++ [name]) ->
        after other = disk other := by
      intro other different
      rw [← List.append_assoc] at creates different
      exact creates.eq_of_ne rooted different
    refine ⟨preserved.update free elsewhere ?_, ?_⟩
    · cases found : disk (site.destination ++ (relative ++ [name])) with
      | some node => exact Or.inl (creates.kept _ node found)
      | none =>
          rcases creates.created _ found with missing | ⟨created, -⟩
          · exact Or.inl missing
          · exact Or.inr (Or.inl ⟨rfl, created⟩)
    · intro path different
      exact elsewhere _ fun same => different (List.append_cancel_left same)
  apply Ensures.call
  · intro after failed
    exact (kept after (failed fun _ same => Option.some.inj same ▸ straight).1).1
  · intro reply after answered
    rcases answered fun _ same => Option.some.inj same ▸ straight with ⟨creates, done⟩
    rcases kept after creates with ⟨preserved', elsewhere⟩
    exact later after preserved' (done rfl) elsewhere

/-- The rule for installing a file. -/
theorem ends_installFile {name : Name} {content : List UInt8} (preserved : site.Preserved disk)
    (free : ¬ site.Kept (relative ++ [name]))
    (rooted : disk.Rooted (site.destination ++ relative)) :
    site.Ends (installLeaf (.file content) (site.destination ++ (relative ++ [name]))) disk
      (fun _ after => site.Preserved after ∧
        after (site.destination ++ (relative ++ [name])) = some (.file content) ∧
        forall path, path ≠ relative ++ [name] ->
          after (site.destination ++ path) = disk (site.destination ++ path)) := by
  have parent : (site.destination ++ (relative ++ [name])).dropLast =
      site.destination ++ relative := by
    rw [← List.append_assoc, List.dropLast_concat]
  have written : forall after, Disk.Writes (site.destination ++ (relative ++ [name])) disk after ->
      site.Preserved after := by
    intro after writes
    apply preserved.update free writes.elsewhere
    rcases writes.written with same | changed
    · exact Or.inl same
    · exact Or.inr (Or.inr changed)
  unfold installLeaf
  rw [parent]
  apply Ensures.call
  · intro after failed
    have creates := (failed fun _ same => Option.some.inj same ▸ preserved.straight relative).1
    rw [creates.eq_of_rooted rooted]
    exact preserved
  · intro reply between answered
    have creates := (answered fun _ same => Option.some.inj same ▸ preserved.straight relative).1
    rw [creates.eq_of_rooted rooted]
    apply Ensures.call
    · intro after failed
      exact written after (failed fun _ same =>
        Option.some.inj same ▸ preserved.straight (relative ++ [name])).1
    · intro reply after copied
      rcases copied fun _ same => Option.some.inj same ▸ preserved.straight (relative ++ [name])
          with ⟨writes, done⟩
      refine Ensures.pure ⟨written after writes, done rfl, ?_⟩
      intro path different
      exact writes.elsewhere _ fun same => different (List.append_cancel_left same)

end Calls

/-! ## The loop -/

/-- Where the loop of a directory starts. -/
structure Site.Ready (site : Site) (relative : Path) (names : List Name) (disk : Disk) :
    Prop where
  preserved : site.Preserved disk
  free : ¬ site.Kept relative
  rooted : disk.Rooted (site.destination ++ relative)
  untouched : forall name, name ∈ names -> forall path, relative ++ [name] <+: path ->
    disk (site.destination ++ path) = site.initial (site.destination ++ path)

/-- One entry was copied, or skipped. -/
structure Site.Done (site : Site) (relative : Path) (name : Name)
    (holds : Path -> List UInt8 -> Prop) (before after : Disk) : Prop where
  preserved : site.Preserved after
  elsewhere : forall path, ¬ relative ++ [name] <+: path ->
    after (site.destination ++ path) = before (site.destination ++ path)
  installed : forall inner content, holds inner content ->
    ¬ site.Kept (relative ++ name :: inner) ->
      after (site.destination ++ (relative ++ name :: inner)) = some (.file content)

section Loop

variable {site : Site} {disk after : Disk} {relative : Path} {name : Name} {names : List Name}
  {holds : Path -> List UInt8 -> Prop}

/-- After one entry the loop is ready for the others. -/
theorem Site.Ready.next (ready : site.Ready relative (name :: names) disk)
    (fresh : name ∉ names) (done : site.Done relative name holds disk after) :
    site.Ready relative names after where
  preserved := done.preserved
  free := ready.free
  rooted := rooted_elsewhere ready.rooted done.preserved done.elsewhere
  untouched := by
    intro other member path below
    rw [done.elsewhere path]
    · exact ready.untouched other (List.mem_cons_of_mem name member) path below
    · intro same
      rw [name_unique same below] at fresh
      exact fresh member

/-- An entry and the others after it. -/
theorem Site.Done.copied {rest : Listing} {between : Disk}
    (done : site.Done relative name holds disk between) (fresh : name ∉ rest.names)
    (copied : site.Copied relative rest between after) :
    (forall path, (forall other, other ∈ name :: rest.names -> ¬ relative ++ [other] <+: path) ->
      after (site.destination ++ path) = disk (site.destination ++ path)) ∧
    forall inner content, holds inner content -> ¬ site.Kept (relative ++ name :: inner) ->
      after (site.destination ++ (relative ++ name :: inner)) = some (.file content) := by
  constructor
  · intro path apart
    rw [copied.elsewhere path fun other member => apart other (List.mem_cons_of_mem name member),
      done.elsewhere path (apart name List.mem_cons_self)]
  · intro inner content held free
    rw [copied.elsewhere]
    · exact done.installed inner content held free
    · intro other member below
      have own : relative ++ [name] <+: relative ++ name :: inner :=
        ⟨inner, by rw [List.append_assoc, List.singleton_append]⟩
      rw [name_unique own below] at fresh
      exact fresh member

/-- A skipped entry is kept with all that is below it. -/
theorem Site.Ready.skipped (ready : site.Ready relative (name :: names) disk)
    (isProtected : site.Protected disk (relative ++ [name])) :
    site.Done relative name holds disk disk where
  preserved := ready.preserved
  elsewhere := fun _ _ => rfl
  installed := by
    intro inner content held free
    have before : site.Protected site.initial (relative ++ [name]) := by
      unfold Site.Protected at isProtected ⊢
      rwa [← ready.untouched name List.mem_cons_self _ (List.prefix_refl _)]
    refine absurd ⟨relative ++ [name], ?_, by simp, before⟩ free
    exact ⟨inner, by rw [List.append_assoc, List.singleton_append]⟩

/-- An entry that is visited is not kept. -/
theorem Site.Ready.visited (ready : site.Ready relative (name :: names) disk)
    (free : ¬ site.Protected disk (relative ++ [name])) : ¬ site.Kept (relative ++ [name]) := by
  intro isKept
  rcases kept_concat isKept with above | here
  · exact ready.free above
  · apply free
    unfold Site.Protected at here ⊢
    rwa [ready.untouched name List.mem_cons_self _ (List.prefix_refl _)]

theorem ends_leaf {kind : Leaf} (ready : site.Ready relative (name :: names) disk) :
    site.Ends (visit site.destination (relative ++ [name]) (installLeaf kind)) disk
      (fun _ => site.Done relative name
        (fun inner content => inner = [] ∧ kind = .file content) disk) := by
  apply ends_visit ready.preserved ready.skipped
  intro free
  cases kind with
  | file content =>
      apply (ends_installFile ready.preserved (ready.visited free) ready.rooted).mono
      rintro _ after ⟨preserved, written, elsewhere⟩
      constructor
      · exact preserved
      · intro path apart
        apply elsewhere
        rintro rfl
        exact apart (List.prefix_refl _)
      · rintro inner other ⟨rfl, same⟩ -
        cases same
        exact written
  | link => exact Ensures.pure ⟨ready.preserved, fun _ _ => rfl, nofun⟩
  | special => exact Ensures.pure ⟨ready.preserved, fun _ _ => rfl, nofun⟩

/-- A directory of the release, when the loop over its entries is known to copy them. -/
theorem ends_directory {entries : Listing} (ready : site.Ready relative (name :: names) disk)
    (copies : forall between, site.Ready (relative ++ [name]) entries.names between ->
      site.Ends (copyEntries site.destination (relative ++ [name]) entries) between
        (fun _ => site.Copied (relative ++ [name]) entries between)) :
    site.Ends (visit site.destination (relative ++ [name]) fun target => do
        call (.createDirAll target)
        call .readDir
        copyEntries site.destination (relative ++ [name]) entries) disk
      (fun _ => site.Done relative name entries.Holds disk) := by
  apply ends_visit ready.preserved ready.skipped
  intro free
  apply ends_createDirAll ready.preserved (ready.visited free) ready.rooted
  intro between preserved rooted elsewhere
  apply ends_read (Or.inr rfl) preserved
  intro _
  have inside : site.Ready (relative ++ [name]) entries.names between := by
    refine ⟨preserved, ready.visited free, rooted, ?_⟩
    intro other _ path below
    rw [elsewhere]
    · exact ready.untouched name List.mem_cons_self path
        ((List.prefix_append _ [other]).trans below)
    · rintro rfl
      have long := below.length_le
      simp at long
  apply (copies between inside).mono
  intro _ after copied
  constructor
  · exact copied.preserved
  · intro path apart
    rw [copied.elsewhere path fun other _ below =>
      apart ((List.prefix_append _ [other]).trans below), elsewhere]
    rintro rfl
    exact apart (List.prefix_refl _)
  · intro inner content held kept
    have split : relative ++ name :: inner = relative ++ [name] ++ inner := by
      rw [List.append_assoc, List.singleton_append]
    rw [split] at kept ⊢
    exact copied.installed inner content held kept

/-- The loop copies what is not kept, and preserves the rest. -/
theorem ends_copyEntries (listing : Listing) (distinct : listing.Distinct) :
    forall {relative : Path} {disk : Disk}, site.Ready relative listing.names disk ->
      site.Ends (copyEntries site.destination relative listing) disk
        (fun _ => site.Copied relative listing disk) := by
  induction listing with
  | nil =>
      intro relative disk ready
      exact Ensures.pure ⟨ready.preserved, fun _ _ => rfl, fun _ _ held => held.elim⟩
  | leaf name kind rest inductionHypothesis =>
      intro relative disk ready
      apply ends_read (Or.inl rfl) ready.preserved
      intro _
      split
      · exact ends_bail _ ready.preserved
      · apply (ends_leaf ready).bind
        intro _ between done
        apply (inductionHypothesis distinct.2 (ready.next distinct.1 done)).mono
        intro _ after copied
        rcases done.copied distinct.1 copied with ⟨elsewhere, installed⟩
        refine ⟨copied.preserved, elsewhere, ?_⟩
        rintro path content (⟨rfl, same⟩ | held) free
        · exact installed [] content ⟨rfl, same⟩ free
        · exact copied.installed path content held free
  | directory name entries rest insideHypothesis inductionHypothesis =>
      intro relative disk ready
      apply ends_read (Or.inl rfl) ready.preserved
      intro _
      apply (ends_directory ready fun between inside =>
        insideHypothesis distinct.2.1 inside).bind
      intro _ between done
      apply (inductionHypothesis distinct.2.2 (ready.next distinct.1 done)).mono
      intro _ after copied
      rcases done.copied distinct.1 copied with ⟨elsewhere, installed⟩
      refine ⟨copied.preserved, elsewhere, ?_⟩
      rintro path content (⟨inner, rfl, held⟩ | held) free
      · exact installed inner content held free
      · exact copied.installed path content held free

end Loop

/-! ## The result -/

/-- Every file of the release that is not protected by itself is in place. -/
def Site.Installed (site : Site) (listing : Listing) (disk : Disk) : Prop :=
  forall path content, listing.Holds path content -> ¬ site.Protected site.initial path ->
    disk (site.destination ++ path) = some (.file content)

/-- The same of the files that are protected only by a directory above them,
before the release was copied. -/
def Site.Unshadowed (site : Site) (listing : Listing) : Prop :=
  forall path content, listing.Holds path content -> ¬ site.Protected site.initial path ->
    site.Kept path -> site.initial (site.destination ++ path) = some (.file content)

/-- A copy preserves what is protected and loses nothing.  When it succeeds, it
has installed all other files exactly if the directories that it skipped did not
hide any. -/
theorem update_preserves_local_state (site : Site) (listing : Listing) (after : Disk)
    (outcome : Option Unit) (distinct : listing.Distinct)
    (run : Completes effect (copyReleaseSource listing site.destination) site.initial outcome
      after) :
    (forall relative, underProtectedRoot relative = true ->
      after (site.destination ++ relative) = site.initial (site.destination ++ relative)) ∧
    (forall relative content,
      site.initial (site.destination ++ relative) = some (.file content) ->
        hasProtectedExtension relative = true ->
          after (site.destination ++ relative) = some (.file content)) ∧
    (forall path content, site.initial path = some (.file content) ->
      Exists fun content => after path = some (.file content)) ∧
    (outcome = some () -> (site.Installed listing after ↔ site.Unshadowed listing)) := by
  have ready : site.Ready [] listing.names site.initial := by
    refine ⟨preserved_initial site, ?_, ?_, fun _ _ _ _ => rfl⟩
    · rintro ⟨part, isPart, nonempty, -⟩
      exact nonempty (List.prefix_nil.mp isPart)
    · rw [List.append_nil]
      exact site.rooted
  have ends : site.Ends (copyReleaseSource listing site.destination) site.initial
      (fun _ => site.Copied [] listing site.initial) := by
    apply ends_read (Or.inr rfl) ready.preserved
    intro _
    exact ends_copyEntries listing distinct ready
  have result := ends outcome after run
  have preserved : site.Preserved after := by
    cases outcome with
    | none => exact result
    | some value => exact Site.Copied.preserved result
  have own : forall relative, relative ≠ [] -> site.Protected site.initial relative ->
      site.Kept relative := fun relative nonempty isProtected =>
    ⟨relative, List.prefix_refl relative, nonempty, isProtected⟩
  refine ⟨?_, ?_, preserved.files, ?_⟩
  · intro relative root
    apply preserved.kept relative (own relative _ (Or.inl root))
    rintro rfl
    cases root
  · intro relative content found ends
    rw [← found]
    apply preserved.kept relative (own relative _ (Or.inr ⟨_, ends⟩))
    · rintro rfl
      cases ends
    · rw [found]
      exact nofun
  · rintro rfl
    have copied : site.Copied [] listing site.initial after := result
    constructor
    · intro installed path content held free isKept
      rw [← preserved.kept path isKept]
      exact installed path content held free
    · intro unshadowed path content held free
      by_cases isKept : site.Kept path
      · rw [preserved.kept path isKept]
        exact unshadowed path content held free isKept
      · exact copied.installed path content held isKept

end SourceUpdate

namespace Sample

open FileSystem Interaction SourceUpdate

def srv : Name := ⟨ascii "srv", by decide, by decide, by decide, by decide⟩

def mainRs : Name := ⟨ascii "main.rs", by decide, by decide, by decide, by decide⟩

def setupYaml : Name := ⟨ascii "setup.yaml", by decide, by decide, by decide, by decide⟩

def siteConf : Name := ⟨ascii "site.conf", by decide, by decide, by decide, by decide⟩

/-- A deployment with a source file, its configuration and a directory `site.conf`. -/
def deployed : Disk := fun path =>
  if path = [] ∨ path = [srv] ∨ path = [srv, siteConf] then some .directory
  else if path = [srv, mainRs] ∨ path = [srv, setupYaml] then some (.file (ascii "old"))
  else none

def deployment : Site where
  destination := [srv]
  initial := deployed
  rooted := by
    intro part isPart
    rcases (@List.prefix_concat_iff _ part [] srv).mp isPart with rfl | above
    · decide
    · rw [List.prefix_nil.mp above]
      decide
  linkFree := by
    intro path _ target
    unfold deployed
    split
    · exact nofun
    · split <;> exact nofun

def release : Listing :=
  .leaf mainRs (.file (ascii "new")) (.leaf setupYaml (.file (ascii "new")) .nil)

/-- A source file below a directory that ends in `.conf`. -/
def hidden : Listing :=
  .directory siteConf (.leaf mainRs (.file (ascii "new")) .nil) .nil

set_option maxRecDepth 10000 in
theorem update_preserves_local_state_release :
    Exists fun after : Disk =>
      Completes effect (copyReleaseSource release [srv]) deployed (some ()) after ∧
        after [srv, mainRs] = some (.file (ascii "new")) ∧
        after [srv, setupYaml] = some (.file (ascii "old")) := by
  have played := play_completes (copyReleaseSource release [srv]) deployed
  have done : (play (copyReleaseSource release [srv]) deployed).1 = some () := by decide
  rw [done] at played
  have result := update_preserves_local_state deployment release _ _
    ⟨by decide, by decide, True.intro⟩ played
  refine ⟨_, played, by decide, ?_⟩
  exact result.2.1 [setupYaml] (ascii "old") (by decide) (by decide)

set_option maxRecDepth 10000 in
/-- The copy succeeds without the file. -/
theorem file_hidden :
    ¬ forall (site : Site) (listing : Listing) (after : Disk), listing.Distinct ->
      Completes effect (copyReleaseSource listing site.destination) site.initial (some ()) after ->
        site.Installed listing after := by
  intro installs
  have played := play_completes (copyReleaseSource hidden [srv]) deployed
  have done : (play (copyReleaseSource hidden [srv]) deployed).1 = some () := by decide
  rw [done] at played
  have found := installs deployment hidden _
    ⟨by decide, ⟨by decide, True.intro⟩, True.intro⟩ played [siteConf, mainRs] (ascii "new")
    (Or.inl ⟨[mainRs], rfl, Or.inl ⟨rfl, rfl⟩⟩)
  have free : ¬ deployment.Protected deployment.initial [siteConf, mainRs] := by
    rintro (root | ⟨present, -⟩)
    · revert root
      decide
    · exact present (by decide)
  have missing : (play (copyReleaseSource hidden [srv]) deployed).2 [srv, siteConf, mainRs] =
      none := by decide
  have here := found free
  change (play (copyReleaseSource hidden [srv]) deployed).2 [srv, siteConf, mainRs] = _ at here
  rw [missing] at here
  cases here

end Sample
end KrakenUi
