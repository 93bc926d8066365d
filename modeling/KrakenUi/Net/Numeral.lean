import Mathlib.Data.List.Basic

namespace Net

/-!
# Written numbers

The digits of a number in a base up to sixteen, least surprising facts first:
they are hexadecimal digits, there is at least one, and different numbers are
written differently.
-/

namespace Numeral

def IsHexDigit (c : Char) : Prop :=
  c ∈ ['0', '1', '2', '3', '4', '5', '6', '7', '8', '9', 'a', 'b', 'c', 'd', 'e', 'f']

instance (c : Char) : Decidable (IsHexDigit c) :=
  inferInstanceAs (Decidable (c ∈ _))

theorem isHexDigit_digitChar {digit : Nat} (small : digit < 16) :
    IsHexDigit (Nat.digitChar digit) := by
  revert digit
  decide

theorem digitChar_injective {left right : Nat} (leftSmall : left < 16) (rightSmall : right < 16)
    (same : Nat.digitChar left = Nat.digitChar right) : left = right := by
  have apart : forall left, left < 16 -> forall right, right < 16 ->
      Nat.digitChar left = Nat.digitChar right -> left = right := by decide
  exact apart left leftSmall right rightSmall same

variable {base : Nat}

/-- Every character of a written number is a hexadecimal digit. -/
theorem isHexDigit_of_mem (least : 1 < base) (small : base ≤ 16) (number : Nat) :
    forall c, c ∈ Nat.toDigits base number -> IsHexDigit c := by
  induction number using Nat.strongRecOn with
  | ind number inductionHypothesis =>
      intro c member
      rw [Nat.toDigits_eq_if least] at member
      split at member
      · rename_i single
        rw [List.mem_singleton.mp member]
        exact isHexDigit_digitChar (by omega)
      · rename_i several
        rcases List.mem_append.mp member with before | last
        · have smaller : number / base < number := Nat.div_lt_self (by omega) least
          exact inductionHypothesis _ smaller c before
        · rw [List.mem_singleton.mp last]
          have bound := Nat.mod_lt number (show 0 < base by omega)
          exact isHexDigit_digitChar (by omega)

/-- Different numbers have different digits. -/
theorem toDigits_injective (least : 1 < base) (small : base ≤ 16) {left right : Nat}
    (same : Nat.toDigits base left = Nat.toDigits base right) : left = right := by
  induction left using Nat.strongRecOn generalizing right with
  | ind left inductionHypothesis =>
      have leftBound := Nat.mod_lt left (show 0 < base by omega)
      have rightBound := Nat.mod_lt right (show 0 < base by omega)
      rw [Nat.toDigits_eq_if least, @Nat.toDigits_eq_if base right least] at same
      by_cases leftSingle : left < base
      · by_cases rightSingle : right < base
        · rw [if_pos leftSingle, if_pos rightSingle] at same
          exact digitChar_injective (by omega) (by omega) (List.singleton_inj.mp same)
        · rw [if_pos leftSingle, if_neg rightSingle] at same
          have lengths := congrArg List.length same
          have several := @Nat.length_toDigits_pos base (right / base)
          simp only [List.length_cons, List.length_nil, List.length_append] at lengths
          omega
      · by_cases rightSingle : right < base
        · rw [if_neg leftSingle, if_pos rightSingle] at same
          have lengths := congrArg List.length same
          have several := @Nat.length_toDigits_pos base (left / base)
          simp only [List.length_cons, List.length_nil, List.length_append] at lengths
          omega
        · rw [if_neg leftSingle, if_neg rightSingle] at same
          rcases List.append_inj' same rfl with ⟨before, last⟩
          have smaller : left / base < left := Nat.div_lt_self (by omega) least
          have quotients := inductionHypothesis _ smaller before
          have remainders := digitChar_injective (by omega) (by omega) (List.singleton_inj.mp last)
          rw [← Nat.div_add_mod left base, ← Nat.div_add_mod right base, quotients, remainders]

/-- An integer is printed with digits and a sign. -/
theorem isHexDigit_of_mem_toString {number : Int} {c : Char}
    (member : c ∈ (toString number).toList) : IsHexDigit c ∨ c = '-' := by
  have digits : forall {magnitude : Nat}, c ∈ (Nat.repr magnitude).toList -> IsHexDigit c := by
    intro magnitude among
    rw [Nat.toList_repr] at among
    exact isHexDigit_of_mem (by decide) (by decide) magnitude c among
  cases number with
  | ofNat magnitude => exact Or.inl (digits member)
  | negSucc magnitude =>
      change c ∈ ("-" ++ Nat.repr (magnitude + 1)).toList at member
      rw [String.toList_append] at member
      rcases List.mem_append.mp member with sign | later
      · exact Or.inr (List.mem_singleton.mp sign)
      · exact Or.inl (digits later)

/-- Different integers are printed differently. -/
theorem toString_injective {left right : Int} (same : toString left = toString right) :
    left = right := by
  have nonnegative : forall (number : Nat) (other : Nat),
      Nat.repr number ≠ "-" ++ Nat.repr other := by
    intro number other equal
    have texts := congrArg String.toList equal
    rw [String.toList_append, Nat.toList_repr, Nat.toList_repr] at texts
    have signed : '-' ∈ Nat.toDigits 10 number := by
      rw [texts]
      exact List.mem_append_left _ (by decide)
    exact absurd (isHexDigit_of_mem (by decide) (by decide) number _ signed) (by decide)
  have digits : forall {number other : Nat}, Nat.repr number = Nat.repr other ->
      number = other := by
    intro number other equal
    have texts := congrArg String.toList equal
    rw [Nat.toList_repr, Nat.toList_repr] at texts
    exact toDigits_injective (by decide) (by decide) texts
  cases left with
  | ofNat number =>
      cases right with
      | ofNat other => exact congrArg Int.ofNat (digits same)
      | negSucc other => exact absurd same (nonnegative _ _)
  | negSucc number =>
      cases right with
      | ofNat other => exact absurd same.symm (nonnegative _ _)
      | negSucc other =>
          have texts := congrArg String.toList same
          have positives : Nat.repr (number + 1) = Nat.repr (other + 1) := by
            apply String.toList_inj.mp
            change ("-" ++ Nat.repr (number + 1)).toList = ("-" ++ Nat.repr (other + 1)).toList
              at texts
            rw [String.toList_append, String.toList_append] at texts
            exact List.append_cancel_left texts
          have equal := digits positives
          exact congrArg Int.negSucc (by omega)

end Numeral
end Net
