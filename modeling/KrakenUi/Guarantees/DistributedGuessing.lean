import KrakenUi.Security.AccountFailureMonitor
import Mathlib.Data.List.Induction

namespace KrakenUi

open Metering

/-!
# Guessing from many addresses

The failures of an account are seen by the monitor whatever address they come
from, and whatever happens to other accounts in between.  It says so at the
failure that fills a window of the account, and at no other; and an interval as
long as a window cannot have many failures without one of them filling a window.
-/

/-- A call of `note_failure_at`. -/
structure FailureNote where
  account : String
  now : Int

namespace AccountFailureMonitor

/-- The entries after the calls, oldest first. -/
def run (monitor : AccountFailureMonitor) (notes : List FailureNote) : AccountEntries :=
  notes.foldl (fun entries note => (monitor.noteFailure note.now note.account entries).2)
    fun _ => none

/-- What the next call returns. -/
def answer (monitor : AccountFailureMonitor) (before : List FailureNote) (note : FailureNote) :
    Bool :=
  (monitor.noteFailure note.now note.account (monitor.run before)).1

/-- When the calls noted a failure of the account, newest first. -/
def failures (account : String) (notes : List FailureNote) : List Int :=
  ((notes.filter fun note => decide (note.account = account)).map FailureNote.now).reverse

section Runs

variable {monitor : AccountFailureMonitor} {account : String} {notes before : List FailureNote}
  {note : FailureNote}

theorem run_append : monitor.run (before ++ [note]) =
    (monitor.noteFailure note.now note.account (monitor.run before)).2 := by
  unfold run
  rw [List.foldl_append]
  rfl

theorem failures_append (before after : List FailureNote) :
    failures account (before ++ after) = failures account after ++ failures account before := by
  unfold failures
  rw [List.filter_append, List.map_append, List.reverse_append]

theorem failures_same : failures note.account (before ++ [note]) =
    note.now :: failures note.account before := by
  have own : failures note.account [note] = [note.now] := by
    unfold failures
    rw [List.filter_cons_of_pos (by simp)]
    rfl
  rw [failures_append, own]
  rfl

theorem failures_other (different : note.account ≠ account) :
    failures account (before ++ [note]) = failures account before := by
  have none : failures account [note] = [] := by
    unfold failures
    rw [List.filter_cons_of_neg (by simpa using different)]
    rfl
  rw [failures_append, none]
  rfl

/-- The failures of an account in an interval, counted by the calls. -/
theorem countP_failures (asked : Int -> Prop) [DecidablePred asked] :
    (failures account notes).countP (fun time => decide (asked time)) =
      notes.countP fun note => decide (note.account = account ∧ asked note.now) := by
  unfold failures
  rw [List.countP_reverse, List.countP_map, List.countP_filter]
  apply List.countP_congr
  intro note _
  simp only [Function.comp_apply, Bool.and_eq_true, decide_eq_true_iff]
  exact and_comm

theorem sorted_failures
    (ordered : notes.Pairwise fun first second => first.now ≤ second.now) :
    Sorted (failures account notes) := by
  unfold Sorted failures
  rw [List.pairwise_reverse, List.pairwise_map]
  exact ordered.sublist List.filter_sublist

/-- A failure of the account is a call for it, with the older failures before. -/
theorem split_failures {newer older : List Int} {time : Int}
    (split : failures account notes = newer ++ time :: older) :
    Exists fun before => Exists fun note => Exists fun after =>
      notes = before ++ note :: after ∧ note.account = account ∧ note.now = time ∧
        failures account before = older := by
  unfold failures at split
  have forward := congrArg List.reverse split
  rw [List.reverse_reverse, List.reverse_append, List.reverse_cons, List.append_assoc] at forward
  rcases List.map_eq_append_iff.mp forward with ⟨first, second, kept, olderEq, restEq⟩
  rcases List.map_eq_cons_iff.mp restEq with ⟨note, others, rfl, nowEq, -⟩
  rcases List.filter_eq_append_iff.mp kept with ⟨front, back, rfl, frontEq, backEq⟩
  rcases List.filter_eq_cons_iff.mp backEq with ⟨skipped, after, rfl, skippedNone, own, -⟩
  refine ⟨front ++ skipped, note, after, by rw [List.append_assoc], of_decide_eq_true own, nowEq, ?_⟩
  have nothing : skipped.filter (fun note => decide (note.account = account)) = [] :=
    List.filter_eq_nil_iff.mpr skippedNone
  unfold failures
  rw [List.filter_append, frontEq, nothing, List.append_nil, olderEq, List.reverse_reverse]

/-- After every run the entries stand for the windows in force. -/
theorem tracks_run (positive : 1 ≤ monitor.alertThreshold.toNat) {now : Int}
    (ordered : notes.Pairwise fun first second => first.now ≤ second.now)
    (past : forall note, note ∈ notes -> note.now ≤ now) (account : String) :
    monitor.Tracks now (failures account notes) (monitor.run notes account) := by
  induction notes using List.reverseRecOn generalizing now with
  | nil => exact tracks_nil
  | append_singleton notes note inductionHypothesis =>
      rcases List.pairwise_append.mp ordered with ⟨older, -, newest⟩
      have sofar := inductionHypothesis older fun earlier member =>
        newest earlier member note (List.mem_singleton.mpr rfl)
      apply Tracks.aged (past note (List.mem_append_right _ (List.mem_singleton.mpr rfl)))
      rw [run_append]
      by_cases same : note.account = account
      · subst same
        rw [failures_same]
        exact (noteFailure_spec positive sofar).2
      · rw [failures_other same]
        exact noteFailure_other (Ne.symm same) sofar

/-- A call returns true exactly when its failure fills the window in force. -/
theorem answer_iff (positive : 1 ≤ monitor.alertThreshold.toNat)
    (ordered : (before ++ [note]).Pairwise fun first second => first.now ≤ second.now) :
    monitor.answer before note = true ↔
      (current monitor.window (failures note.account (before ++ [note]))).length =
        monitor.alertThreshold.toNat := by
  rcases List.pairwise_append.mp ordered with ⟨older, -, newest⟩
  have tracks := tracks_run positive older (fun earlier member =>
    newest earlier member note (List.mem_singleton.mpr rfl)) note.account
  rw [failures_same]
  unfold answer
  rw [(noteFailure_spec positive tracks).1, decide_eq_true_iff]

end Runs
end AccountFailureMonitor

open AccountFailureMonitor in
/-- Distributed guessing does not stay silent.  Twice as many failures of an
account as the threshold, less one, within one window's length come with an
alert for the account that is not much older.  An alert is the failure that
brings the window in force to the threshold, and of two alerts for an account
the second one's window began after the first. -/
theorem distributed_guessing_is_seen (monitor : AccountFailureMonitor)
    (positive : 1 ≤ monitor.alertThreshold.toNat) (notes : List FailureNote)
    (ordered : notes.Pairwise fun first second => first.now ≤ second.now) :
    (forall (account : String) (first : Int),
      2 * monitor.alertThreshold.toNat - 1 ≤ (notes.countP fun note =>
        decide (note.account = account ∧ first ≤ note.now ∧ note.now ≤ first + monitor.window)) ->
      Exists fun before => Exists fun note => Exists fun after =>
        notes = before ++ note :: after ∧ note.account = account ∧
          first - monitor.window ≤ note.now ∧ note.now ≤ first + monitor.window ∧
            monitor.answer before note = true) ∧
    (forall before note after, notes = before ++ note :: after ->
      (monitor.answer before note = true ↔
        (current monitor.window (failures note.account (before ++ [note]))).length =
          monitor.alertThreshold.toNat)) ∧
    forall before first between second after,
      notes = before ++ first :: (between ++ second :: after) -> second.account = first.account ->
      monitor.answer before first = true ->
      monitor.answer (before ++ first :: between) second = true ->
      (current monitor.window
          (failures second.account (before ++ first :: (between ++ [second])))).length ≤
        (failures second.account (between ++ [second])).length := by
  have upTo : forall {before note after}, notes = before ++ note :: after ->
      (before ++ [note]).Pairwise fun first second => first.now ≤ second.now := by
    rintro before note after rfl
    exact List.Pairwise.sublist
      (List.Sublist.append_left (List.singleton_sublist.mpr List.mem_cons_self) before) ordered
  refine ⟨?_, fun before note after split => answer_iff positive (upTo split), ?_⟩
  · intro account first many
    rw [← countP_failures fun time => first ≤ time ∧ time ≤ first + monitor.window] at many
    rcases @full_interval _ first _ _ monitor.wide (sorted_failures ordered) positive
        (Nat.sub_le_iff_le_add.mp many) with ⟨newer, filling, older, split, after, ends, length⟩
    rcases split_failures split with ⟨before, note, rest, notesEq, rfl, rfl, rfl⟩
    refine ⟨before, note, rest, notesEq, rfl, after, ends, ?_⟩
    rw [answer_iff positive (upTo notesEq), failures_same]
    exact length
  · intro before first between second after split same firstAlert secondAlert
    have whole : notes = (before ++ first :: between) ++ second :: after := by
      rw [split, List.append_assoc]
      rfl
    have firstFull := (answer_iff positive (upTo split)).mp firstAlert
    have secondFull := (answer_iff positive (upTo whole)).mp secondAlert
    have parts : before ++ first :: (between ++ [second]) =
        (before ++ [first]) ++ (between ++ [second]) := by
      simp only [List.append_assoc, List.cons_append, List.nil_append]
    have secondParts : (before ++ first :: between) ++ [second] =
        (before ++ [first]) ++ (between ++ [second]) := by
      simp only [List.append_assoc, List.cons_append, List.nil_append]
    rw [parts]
    rw [secondParts, failures_append] at secondFull
    rw [← same] at firstFull
    rw [failures_append, secondFull]
    apply reached_again _ firstFull secondFull
    rw [failures_same]
    exact List.cons_ne_nil _ _

namespace Sample

/-- An alert at three failures within ten minutes. -/
def watchful : AccountFailureMonitor := ⟨600000000000, 3, by decide⟩

/-- Six failures of one account, and one of another between them. -/
def attack : List FailureNote :=
  [⟨"admin", 0⟩, ⟨"admin", 400000000000⟩, ⟨"auditor", 500000000000⟩, ⟨"admin", 700000000000⟩,
    ⟨"admin", 800000000000⟩, ⟨"admin", 900000000000⟩, ⟨"admin", 950000000000⟩]

theorem distributed_guessing_is_seen_attack :
    Exists fun before => Exists fun note => Exists fun after =>
      attack = before ++ note :: after ∧ note.account = "admin" ∧ -200000000000 ≤ note.now ∧
        note.now ≤ 1000000000000 ∧ watchful.answer before note = true := by
  have seen := distributed_guessing_is_seen watchful (by decide) attack (by decide)
  exact seen.1 "admin" 400000000000 (by decide)

end Sample
end KrakenUi
