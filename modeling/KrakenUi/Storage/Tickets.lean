import Mathlib.Data.List.Count

namespace Tickets

/-!
# Books of single-use tickets

A book holds tickets, some of them perhaps more than once.  A ticket that is
presented is accepted if the book has it, and one copy of it is taken out.  A
whole sequence of presentations accepts each ticket as often as the book has it,
in whatever order they come.
-/

variable {α : Type} [DecidableEq α]

/-- The answers to the tickets in turn, and the book that is left. -/
def present (book : List α) : List α -> List Bool × List α
  | [] => ([], book)
  | ticket :: rest =>
      let later := present (book.erase ticket) rest
      (decide (ticket ∈ book) :: later.1, later.2)

/-- How often a ticket was accepted. -/
def accepted (ticket : α) (presented : List α) (answers : List Bool) : Nat :=
  (presented.zip answers).count (ticket, true)

example : present [1, 2, 2] [2, 3, 2, 2] = ([true, false, true, false], [1]) := by decide

variable {book presented : List α}

theorem length_present (book presented : List α) :
    (present book presented).1.length = presented.length := by
  induction presented generalizing book with
  | nil => rfl
  | cons ticket rest inductionHypothesis =>
      rw [present, List.length_cons, List.length_cons, inductionHypothesis]

/-- Each ticket is accepted as often as it is in the book, and as it is presented. -/
theorem accepted_present (book presented : List α) (ticket : α) :
    accepted ticket presented (present book presented).1 =
      min (book.count ticket) (presented.count ticket) := by
  unfold accepted
  induction presented generalizing book with
  | nil =>
      rw [List.zip_nil_left, List.count_nil, List.count_nil, Nat.min_zero]
  | cons first rest inductionHypothesis =>
      rw [present, List.zip_cons_cons, List.count_cons, inductionHypothesis, List.count_cons]
      by_cases same : first = ticket
      · subst same
        by_cases member : first ∈ book
        · have positive := List.count_pos_iff.mpr member
          rw [List.count_erase_self, if_pos (by simp [member]), if_pos (by simp)]
          omega
        · have absent := List.count_eq_zero_of_not_mem member
          rw [List.erase_of_not_mem member, if_neg (by simp [member]), absent]
          omega
      · rw [List.count_erase_of_ne (Ne.symm same), if_neg (by simp [same]), if_neg (by simp [same])]
        omega

/-- Presenting the tickets of a book, in any order, uses them all. -/
theorem present_perm (same : presented.Perm book) :
    (forall answer, answer ∈ (present book presented).1 -> answer = true) ∧
      (present book presented).2 = [] := by
  induction presented generalizing book with
  | nil =>
      rw [List.nil_perm.mp same]
      exact ⟨fun _ member => absurd member List.not_mem_nil, rfl⟩
  | cons ticket rest inductionHypothesis =>
      rcases List.cons_perm_iff_perm_erase.mp same with ⟨member, others⟩
      rcases inductionHypothesis others with ⟨answers, left⟩
      refine ⟨?_, left⟩
      intro answer listed
      rcases List.mem_cons.mp listed with rfl | later
      · exact decide_eq_true member
      · exact answers answer later

end Tickets
