import Mathlib.Data.List.Basic

namespace Utf8

/-!
# Byte offsets in a text

A text is stored in UTF-8 and offsets count its bytes.  It can be cut where a
character begins or the text ends, and nowhere else.  The first such place that
is not before an offset is at most three bytes behind it.
-/

def byteLength : List Char -> Nat
  | [] => 0
  | character :: text => character.utf8Size + byteLength text

@[simp] theorem byteLength_nil : byteLength [] = 0 := rfl

@[simp] theorem byteLength_cons (character : Char) (text : List Char) :
    byteLength (character :: text) = character.utf8Size + byteLength text := rfl

theorem byteLength_append (front rest : List Char) :
    byteLength (front ++ rest) = byteLength front + byteLength rest := by
  induction front with
  | nil => exact (Nat.zero_add _).symm
  | cons character front inductionHypothesis =>
      rw [List.cons_append, byteLength_cons, byteLength_cons, inductionHypothesis, Nat.add_assoc]

theorem utf8ByteSize_ofList (text : List Char) :
    (String.ofList text).utf8ByteSize = byteLength text := by
  induction text with
  | nil => rfl
  | cons character text inductionHypothesis =>
      rw [← List.singleton_append, String.ofList_append, String.utf8ByteSize_append,
        inductionHypothesis, ← String.singleton_eq_ofList, String.utf8ByteSize_singleton,
        List.singleton_append, byteLength_cons]

theorem utf8ByteSize_eq (text : String) : text.utf8ByteSize = byteLength text.toList := by
  rw [← utf8ByteSize_ofList, String.ofList_toList]

/-! ## Cutting -/

/-- `String::drain(..offset)`; nothing for an offset at which it panics. -/
def drain : Nat -> List Char -> Option (List Char)
  | 0, text => some text
  | _ + 1, [] => none
  | offset + 1, character :: text =>
      if character.utf8Size ≤ offset + 1 then drain (offset + 1 - character.utf8Size) text
      else none

theorem drain_cons {offset : Nat} {character : Char} (text : List Char)
    (room : character.utf8Size ≤ offset) :
    drain offset (character :: text) = drain (offset - character.utf8Size) text := by
  cases offset with
  | zero => exact absurd room (Nat.not_le_of_lt character.utf8Size_pos)
  | succ offset => exact if_pos room

/-- The boundaries are the lengths of what stands in front. -/
theorem drain_eq_some {offset : Nat} {text rest : List Char} :
    drain offset text = some rest ↔
      Exists fun front => text = front ++ rest ∧ byteLength front = offset := by
  constructor
  · intro drained
    induction text generalizing offset with
    | nil =>
        cases offset with
        | zero =>
            cases drained
            exact ⟨[], rfl, rfl⟩
        | succ offset => cases drained
    | cons character text inductionHypothesis =>
        by_cases room : character.utf8Size ≤ offset
        · rw [drain_cons text room] at drained
          rcases inductionHypothesis drained with ⟨front, rfl, counted⟩
          refine ⟨character :: front, rfl, ?_⟩
          rw [byteLength_cons, counted]
          omega
        · cases offset with
          | zero =>
              cases drained
              exact ⟨[], rfl, rfl⟩
          | succ offset =>
              rw [drain, if_neg room] at drained
              cases drained
  · rintro ⟨front, rfl, rfl⟩
    induction front with
    | nil =>
        cases rest with
        | nil => rfl
        | cons => rfl
    | cons character front inductionHypothesis =>
        rw [byteLength_cons, List.cons_append, drain_cons _ (Nat.le_add_right _ _),
          Nat.add_sub_cancel_left, inductionHypothesis]

/-! ## Searching a boundary -/

def charIndicesFrom (start : Nat) : List Char -> List (Nat × Char)
  | [] => []
  | character :: text =>
      (start, character) :: charIndicesFrom (start + character.utf8Size) text

/-- `str::char_indices`. -/
def charIndices (text : List Char) : List (Nat × Char) :=
  charIndicesFrom 0 text

/-- The first index that is not before an offset. -/
def indexFrom (offset : Nat) (indices : List (Nat × Char)) : Option Nat :=
  indices.findSome? fun entry => if offset ≤ entry.1 then some entry.1 else none

example : indexFrom 2 (charIndices ['a', 'é', '\n']) = some 3 := by decide

theorem indexFrom_reached {offset start : Nat} (reached : offset ≤ start) (character : Char)
    (text : List Char) :
    indexFrom offset (charIndicesFrom start (character :: text)) = some start := by
  rw [indexFrom, charIndicesFrom, List.findSome?_cons, if_pos reached]

theorem indexFrom_before {offset start : Nat} (before : ¬ offset ≤ start) (character : Char)
    (text : List Char) :
    indexFrom offset (charIndicesFrom start (character :: text)) =
      indexFrom offset (charIndicesFrom (start + character.utf8Size) text) := by
  rw [indexFrom, charIndicesFrom, List.findSome?_cons, if_neg before]
  rfl

/-- A text whose last character is not before the offset has a boundary there. -/
theorem indexFrom_charIndicesFrom {offset start : Nat} {front : List Char} (last : Char)
    (behind : offset ≤ start + byteLength front) :
    Exists fun before => Exists fun after => front ++ [last] = before ++ after ∧
      indexFrom offset (charIndicesFrom start (front ++ [last])) =
        some (start + byteLength before) ∧
      offset ≤ start + byteLength before ∧
      start + byteLength before ≤ max start (offset + 3) := by
  induction front generalizing start with
  | nil =>
      exact ⟨[], [last], rfl, indexFrom_reached behind last [], behind, Nat.le_max_left _ _⟩
  | cons character front inductionHypothesis =>
      by_cases reached : offset ≤ start
      · exact ⟨[], _, rfl, indexFrom_reached reached character (front ++ [last]), reached,
          Nat.le_max_left _ _⟩
      · rw [byteLength_cons, ← Nat.add_assoc] at behind
        rcases inductionHypothesis behind with ⟨before, after, whole, found, least, most⟩
        have width := character.utf8Size_le_four
        refine ⟨character :: before, after, by rw [List.cons_append, whole, List.cons_append],
          ?_, ?_, ?_⟩
        · rw [List.cons_append, indexFrom_before reached, found, byteLength_cons, Nat.add_assoc]
        · rw [byteLength_cons]
          omega
        · rw [byteLength_cons]
          omega

theorem indexFrom_charIndices {offset : Nat} {front : List Char} (last : Char)
    (behind : offset ≤ byteLength front) :
    Exists fun before => Exists fun after => front ++ [last] = before ++ after ∧
      indexFrom offset (charIndices (front ++ [last])) = some (byteLength before) ∧
      offset ≤ byteLength before ∧ byteLength before ≤ offset + 3 := by
  rcases @indexFrom_charIndicesFrom offset 0 front last (by omega) with
    ⟨before, after, whole, found, least, most⟩
  rw [Nat.zero_add] at found least most
  rw [Nat.zero_max] at most
  exact ⟨before, after, whole, found, least, most⟩

end Utf8
