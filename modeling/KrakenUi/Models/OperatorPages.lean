import KrakenUi.Models.Operator
import KrakenUi.Models.VulnerabilityRepository

namespace KrakenUi

open Text Sql VulnerabilityRepository

/-!
# The pages of the operators

The list of operators is searched and cut into pages like the list of attacks.
A search text may also be the number of an operator.
-/

structure OperatorPage where
  recordsTotal : Nat
  recordsFiltered : Nat
  operators : List Operator

namespace OperatorPage

/-- The upper bound on the offset of a page. -/
def maxOffset : Nat := 100000

/-- The condition on an operator.  Without a search text there is none. -/
def isListed (search : String) (operator : Operator) : Bool :=
  isEmpty search ||
    (isLike (likeContains search) operator.username ||
      isLike (likeContains search) operator.email ||
      decide (parseI32 search = some operator.idUser))

/-- `OperatorRepository::page` on the rows of the table. -/
def page (rows : List Operator) (start length : Nat) (search : String) : OperatorPage :=
  let listed := rows.filter (isListed search)
  { recordsTotal := rows.length
    recordsFiltered := listed.length
    operators := slice (listed.mergeSort fun first second => decide (first.idUser ≤ second.idUser))
      (min start maxOffset) length }

/-- A page shows operators that the condition lets through, in the order of their numbers. -/
theorem page_operators (rows : List Operator) (start length : Nat) (search : String) :
    (forall operator, operator ∈ (page rows start length search).operators ->
      operator ∈ rows ∧ isListed search operator = true) ∧
    (page rows start length search).operators.Pairwise fun first second =>
      first.idUser ≤ second.idUser := by
  constructor
  · intro operator member
    have listed := List.mem_of_mem_drop (List.mem_of_mem_take member)
    exact List.mem_filter.mp ((List.mergeSort_perm _ _).subset listed)
  · have sorted := @List.pairwise_mergeSort Operator
      (fun first second => decide (first.idUser ≤ second.idUser))
      (fun first second third earlier later =>
        decide_eq_true (le_trans (of_decide_eq_true earlier) (of_decide_eq_true later)))
      (fun first second => by
        rw [Bool.or_eq_true, decide_eq_true_eq, decide_eq_true_eq]
        exact le_total _ _)
      (rows.filter (isListed search))
    have slices : (page rows start length search).operators.Sublist
        ((rows.filter (isListed search)).mergeSort fun first second =>
          decide (first.idUser ≤ second.idUser)) :=
      (List.take_sublist _ _).trans (List.drop_sublist _ _)
    exact (List.Pairwise.sublist slices sorted).imp fun ordered => of_decide_eq_true ordered

end OperatorPage
end KrakenUi
