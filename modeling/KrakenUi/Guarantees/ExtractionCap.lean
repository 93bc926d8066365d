import KrakenUi.Guarantees.Installation

namespace KrakenUi
namespace SourceUpdate

open FileSystem Interaction

/-!
# How much an archive is allowed to write

The cap adds up the sizes in the headers of the entries.  An extended header can
give an entry another size, and that is the one by which the content is read and
written.  So the cap bounds what is written only as far as the two agree.
-/

/-- An entry of an archive that may come with a size record of its own. -/
structure PaxEntry extends TarEntry where
  paxSize : Option UInt64
  sized : ((paxSize.or toTarEntry.size).map UInt64.toNat) = some toTarEntry.content.length

namespace PaxEntry

/-- The size by which the content is read. -/
def effectiveSize (entry : PaxEntry) : Nat :=
  ((entry.paxSize.or entry.size).map UInt64.toNat).getD 0

/-- The size that is counted. -/
def headerSize (entry : PaxEntry) : Nat :=
  (entry.size.map UInt64.toNat).getD (2 ^ 64 - 1)

theorem length_content (entry : PaxEntry) : entry.content.length = entry.effectiveSize := by
  unfold effectiveSize
  rw [entry.sized]
  rfl

end PaxEntry

/-- The files that are written when no call fails: the regular entries before the
first one that is refused. -/
def granted : List PaxEntry -> Nat -> List PaxEntry
  | [], _ => []
  | entry :: rest, totalSize =>
      match stripArchiveRoot entry.path with
      | .error _ => []
      | .ok relative =>
          if relative = [] then granted rest totalSize
          else if maxExtractedBytes < addSize totalSize entry.headerSize then []
          else match entry.entryType with
            | .directory => granted rest (addSize totalSize entry.headerSize)
            | .regular => entry :: granted rest (addSize totalSize entry.headerSize)
            | .other => []

def totalOf (size : PaxEntry -> Nat) (entries : List PaxEntry) : Nat :=
  (entries.map size).sum

/-- What a call adds to the bytes that have been written. -/
def tallies : Effect calls Nat := fun before command reply after =>
  match command with
  | .unpack entry _ => before ≤ after ∧ after ≤ before + entry.content.length ∧
      (reply.isSome = true -> after = before + entry.content.length)
  | .copy content _ => before ≤ after ∧ after ≤ before + content.length ∧
      (reply.isSome = true -> after = before + content.length)
  | _ => after = before

section Totals

variable {entries rest : List PaxEntry} {entry : PaxEntry} {totalSize : Nat}

@[simp] theorem totalOf_nil (size : PaxEntry -> Nat) : totalOf size [] = 0 := rfl

@[simp] theorem totalOf_cons (size : PaxEntry -> Nat) :
    totalOf size (entry :: rest) = size entry + totalOf size rest := List.sum_cons

theorem totalOf_le {size other : PaxEntry -> Nat}
    (smaller : forall entry, entry ∈ entries -> size entry ≤ other entry) :
    totalOf size entries ≤ totalOf other entries := by
  induction entries with
  | nil => exact le_refl 0
  | cons entry rest inductionHypothesis =>
      rw [totalOf_cons, totalOf_cons]
      exact Nat.add_le_add (smaller entry List.mem_cons_self)
        (inductionHypothesis fun other member => smaller other (List.mem_cons_of_mem _ member))

theorem granted_subset (entries : List PaxEntry) (totalSize : Nat) :
    forall entry, entry ∈ granted entries totalSize -> entry ∈ entries := by
  induction entries generalizing totalSize with
  | nil => exact fun _ member => member
  | cons entry rest inductionHypothesis =>
      intro other member
      unfold granted at member
      split at member
      · cases member
      · split at member
        · exact List.mem_cons_of_mem _ (inductionHypothesis _ other member)
        · split at member
          · cases member
          · split at member
            · exact List.mem_cons_of_mem _ (inductionHypothesis _ other member)
            · rcases List.mem_cons.mp member with rfl | later
              · exact List.mem_cons_self
              · exact List.mem_cons_of_mem _ (inductionHypothesis _ other later)
            · cases member

/-- The headers of what is written stay below the cap. -/
theorem granted_headers (entries : List PaxEntry) {totalSize : Nat}
    (below : totalSize ≤ maxExtractedBytes) :
    totalSize + totalOf PaxEntry.headerSize (granted entries totalSize) ≤ maxExtractedBytes := by
  induction entries generalizing totalSize with
  | nil => exact below
  | cons entry rest inductionHypothesis =>
      unfold granted
      split
      · exact below
      · split
        · exact inductionHypothesis below
        · split
          · exact below
          · rename_i small
            have exactly : addSize totalSize entry.headerSize = totalSize + entry.headerSize := by
              unfold addSize maxExtractedBytes at *
              omega
            rw [exactly] at small ⊢
            have later := inductionHypothesis (Nat.le_of_not_lt small)
            split
            · omega
            · rw [totalOf_cons]
              omega
            · exact below

end Totals

section Runs

variable {destination : Path} {totalSize written bound : Nat}

/-- A call that writes no content. -/
def Silent : Command -> Prop
  | .unpack _ _ | .copy _ _ => False
  | _ => True

theorem Silent.same {command : Command} {reply : Option command.Reply} {after : Nat}
    (silent : Silent command) (acted : tallies written command reply after) : after = written := by
  cases command with
  | unpack entry path => exact silent.elim
  | copy content path => exact silent.elim
  | bail message => exact acted
  | readEntry => exact acted
  | readDir => exact acted
  | pathExists path => exact acted
  | isSymlink path => exact acted
  | createDirAll path => exact acted

theorem ensures_silent {α : Type} {command : Command} {next : command.Reply -> Task α}
    {post : α -> Nat -> Prop} (silent : Silent command) (below : written ≤ bound)
    (later : forall reply, Ensures tallies (fun after => after ≤ bound) (next reply) written post) :
    Ensures tallies (fun after => after ≤ bound) (call command >>= next) written post := by
  apply Ensures.call
  · intro after failed
    rw [silent.same failed]
    exact below
  · intro reply after answered
    rw [silent.same answered]
    exact later reply

theorem ensures_bail {α : Type} {post : α -> Nat -> Prop} (message : String)
    (below : written ≤ bound) :
    Ensures tallies (fun after => after ≤ bound) (bail message : Task α) written post := by
  apply ensures_silent
  · exact True.intro
  · exact below
  · exact fun reply => Empty.elim reply

theorem ensures_unpack {entry : TarEntry} {path : Path}
    (below : written + entry.content.length ≤ bound) :
    Ensures tallies (fun after => after ≤ bound) (call (.unpack entry path)) written
      (fun _ after => after = written + entry.content.length) := by
  apply Ensures.call
  · rintro after ⟨-, most, -⟩
    omega
  · rintro reply after ⟨-, -, exactly⟩
    exact Ensures.pure (exactly rfl)

/-- No run writes more than the files that are granted. -/
theorem ensures_unpackEntries (entries : List PaxEntry)
    (below : written + totalOf PaxEntry.effectiveSize (granted entries totalSize) ≤ bound) :
    Ensures tallies (fun after => after ≤ bound)
      (unpackEntries destination (entries.map PaxEntry.toTarEntry) totalSize) written
      (fun _ after => after ≤ bound) := by
  induction entries generalizing totalSize written with
  | nil => exact Ensures.pure below
  | cons entry rest inductionHypothesis =>
      have counted : (entry.size.map UInt64.toNat).getD (2 ^ 64 - 1) = entry.headerSize := rfl
      rw [List.map_cons]
      unfold unpackEntries
      apply ensures_silent
      · exact True.intro
      · omega
      intro _
      unfold granted at below
      cases stripped : stripArchiveRoot entry.path with
      | error message => exact ensures_bail message (by omega)
      | ok relative =>
          rw [stripped] at below
          dsimp only at below ⊢
          rw [counted]
          by_cases top : relative = []
          · rw [if_pos top] at below ⊢
            exact inductionHypothesis below
          rw [if_neg top] at below ⊢
          by_cases large : maxExtractedBytes < addSize totalSize entry.headerSize
          · rw [if_pos large]
            exact ensures_bail _ (by omega)
          rw [if_neg large] at below ⊢
          unfold unpackEntry
          cases kind : entry.entryType with
          | directory =>
              rw [kind] at below
              apply ensures_silent
              · exact True.intro
              · omega
              · exact fun _ => inductionHypothesis below
          | regular =>
              rw [kind] at below
              dsimp only at below ⊢
              rw [totalOf_cons, ← entry.length_content] at below
              rw [Program.bind_assoc]
              apply ensures_silent
              · exact True.intro
              · omega
              intro _
              apply (ensures_unpack (by omega)).bind
              rintro _ after rfl
              exact inductionHypothesis (by omega)
          | other =>
              have refused : Ensures tallies (fun after => after ≤ bound)
                  (bail "release archive contains an unsupported link or special file" : Task Unit)
                  written (fun _ _ => False) := ensures_bail _ (by omega)
              exact refused.bind fun _ _ impossible => impossible.elim

/-- A call that writes no content may answer anything. -/
theorem completes_silent {α : Type} {command : Command} {next : command.Reply -> Task α}
    {outcome : Option α} {after : Nat} (silent : Silent command) (reply : command.Reply)
    (later : Completes tallies (next reply) written outcome after) :
    Completes tallies (call command >>= next) written outcome after := by
  refine Completes.step ?_ later
  cases command with
  | unpack entry path => exact silent.elim
  | copy content path => exact silent.elim
  | bail message => rfl
  | readEntry => rfl
  | readDir => rfl
  | pathExists path => rfl
  | isSymlink path => rfl
  | createDirAll path => rfl

/-- When no call fails, all the files that are granted are written. -/
theorem exists_unpackEntries (entries : List PaxEntry) (totalSize written : Nat) :
    Exists fun outcome => Completes tallies
      (unpackEntries destination (entries.map PaxEntry.toTarEntry) totalSize) written outcome
      (written + totalOf PaxEntry.effectiveSize (granted entries totalSize)) := by
  induction entries generalizing totalSize written with
  | nil => exact ⟨some (), Completes.done () written⟩
  | cons entry rest inductionHypothesis =>
      have counted : (entry.size.map UInt64.toNat).getD (2 ^ 64 - 1) = entry.headerSize := rfl
      have read : forall {outcome after} {next : Unit -> Task Unit},
          Completes tallies (next ()) written outcome after ->
            Completes tallies (call .readEntry >>= next) written outcome after :=
        fun later => @completes_silent _ _ .readEntry _ _ _ True.intro () later
      rw [List.map_cons]
      unfold unpackEntries granted
      cases stripped : stripArchiveRoot entry.path with
      | error message => exact ⟨none, read (Completes.fails rfl)⟩
      | ok relative =>
          dsimp only
          rw [counted]
          by_cases top : relative = []
          · rw [if_pos top, if_pos top]
            rcases inductionHypothesis totalSize written with ⟨outcome, later⟩
            exact ⟨outcome, read later⟩
          rw [if_neg top, if_neg top]
          by_cases large : maxExtractedBytes < addSize totalSize entry.headerSize
          · rw [if_pos large, if_pos large]
            exact ⟨none, read (Completes.fails rfl)⟩
          rw [if_neg large, if_neg large]
          unfold unpackEntry
          cases kind : entry.entryType with
          | directory =>
              rcases inductionHypothesis (addSize totalSize entry.headerSize) written with
                  ⟨outcome, later⟩
              refine ⟨outcome, read ?_⟩
              exact @completes_silent _ _ (.createDirAll _) _ _ _ True.intro () later
          | regular =>
              rcases inductionHypothesis (addSize totalSize entry.headerSize)
                  (written + entry.content.length) with ⟨outcome, later⟩
              dsimp only
              rw [totalOf_cons, ← entry.length_content, ← Nat.add_assoc]
              refine ⟨outcome, read ?_⟩
              rw [Program.bind_assoc]
              apply @completes_silent _ _ (.createDirAll _) _ _ _ True.intro ()
              have wrote : tallies written (.unpack entry.toTarEntry (destination ++ relative))
                  (some ()) (written + entry.content.length) :=
                ⟨Nat.le_add_right _ _, le_refl _, fun _ => rfl⟩
              exact Completes.step wrote later
          | other => exact ⟨none, read (Completes.fails rfl)⟩

end Runs

/-- Everything that an extraction writes stays below the cap, in every run. -/
def Capped (archive : List PaxEntry) (destination : Path) : Prop :=
  forall outcome written,
    Completes tallies (unpackReleaseArchive (archive.map PaxEntry.toTarEntry) destination) 0
      outcome written -> written ≤ maxExtractedBytes

theorem capped_iff_granted {archive : List PaxEntry} {destination : Path} :
    Capped archive destination ↔
      totalOf PaxEntry.effectiveSize (granted archive 0) ≤ maxExtractedBytes := by
  constructor
  · intro capped
    rcases @exists_unpackEntries destination archive 0 0 with ⟨outcome, later⟩
    rw [Nat.zero_add] at later
    apply capped outcome
    apply @completes_silent _ _ (.createDirAll destination) _ _ _ True.intro ()
    exact @completes_silent _ _ .readDir _ _ _ True.intro () later
  · intro small outcome written completed
    have ensures : Ensures tallies (fun after => after ≤ maxExtractedBytes)
        (unpackReleaseArchive (archive.map PaxEntry.toTarEntry) destination) 0
        (fun _ after => after ≤ maxExtractedBytes) := by
      apply ensures_silent
      · exact True.intro
      · exact Nat.zero_le _
      intro _
      apply ensures_silent
      · exact True.intro
      · exact Nat.zero_le _
      intro _
      apply ensures_unpackEntries
      rw [Nat.zero_add]
      exact small
    have ends := ensures outcome written completed
    cases outcome with
    | none => exact ends
    | some value => exact ends

/-- The cap is respected exactly if the effective sizes of the files that are
granted stay below it, which the headers of these files always do.  So it is
respected where no size record says more than the header. -/
theorem extraction_capped_iff (archive : List PaxEntry) (destination : Path) :
    (Capped archive destination ↔
      totalOf PaxEntry.effectiveSize (granted archive 0) ≤ maxExtractedBytes) ∧
    ((forall entry, entry ∈ granted archive 0 -> entry.effectiveSize ≤ entry.headerSize) ->
      Capped archive destination) := by
  refine ⟨capped_iff_granted, ?_⟩
  intro honest
  rw [capped_iff_granted]
  have headers := granted_headers archive (Nat.zero_le maxExtractedBytes)
  rw [Nat.zero_add] at headers
  exact le_trans (totalOf_le honest) headers

end SourceUpdate

namespace Sample

open FileSystem Interaction SourceUpdate

/-- A file of three bytes, as its header says. -/
def note : PaxEntry where
  path := ascii "kraken-ui/note"
  size := some 3
  entryType := .regular
  content := ascii "new"
  paxSize := none
  sized := rfl

theorem extraction_capped_iff_note : Capped [note] [] := by
  apply (extraction_capped_iff [note] []).2
  intro entry member
  rw [List.mem_singleton.mp (granted_subset [note] 0 entry member)]
  exact le_of_eq note.length_content.symm

/-- A file whose header says nothing and whose size record says one byte more
than the cap. -/
def bomb : PaxEntry where
  path := ascii "kraken-ui/bomb"
  size := some 0
  entryType := .regular
  content := List.replicate 524288001 0
  paxSize := some 524288001
  sized := by
    rw [List.length_replicate]
    rfl

theorem granted_bomb : granted [bomb] 0 = [bomb] := by
  have stripped : stripArchiveRoot bomb.path =
      .ok [⟨ascii "bomb", by decide, by decide, by decide, by decide⟩] := by decide
  have header : bomb.headerSize = 0 := rfl
  have small : ¬ maxExtractedBytes < addSize 0 0 := by decide
  unfold granted
  rw [stripped]
  dsimp only
  rw [if_neg (List.cons_ne_nil _ _), header, if_neg small]
  rfl

/-- The one file is written. -/
theorem extraction_exceeds_cap :
    ¬ forall (archive : List PaxEntry) (destination : Path) (outcome : Option Unit) (written : Nat),
      Completes tallies (unpackReleaseArchive (archive.map PaxEntry.toTarEntry) destination) 0
        outcome written -> written ≤ maxExtractedBytes := by
  intro claimed
  have small := capped_iff_granted.mp (claimed [bomb] [])
  rw [granted_bomb, totalOf_cons, ← bomb.length_content] at small
  have long : bomb.content.length = 524288001 := List.length_replicate
  rw [long, totalOf_nil] at small
  exact absurd small (by decide)

end Sample
end KrakenUi
