import Mathlib.Data.List.Infix

namespace Sql

/-!
# The operator `LIKE`

Patterns with two wildcards and an escape character, matched without regard to
the case of ASCII letters.  A pattern that quotes a text between two percent
signs finds the text wherever it occurs.
-/

/-- A letter of the pattern and one of the text. -/
def sameLetter (letter other : Char) : Bool :=
  letter.toLower == other.toLower

/-- One letter of the text, and what is behind it. -/
def letterThen (fits : Char -> Bool) (later : List Char -> Bool) : List Char -> Bool
  | [] => false
  | other :: rest => fits other && later rest

/-- The rest of a pattern, directly behind the escape character or not, on the rest of a text. -/
def like (escape : Char) : Bool -> List Char -> List Char -> Bool
  | true, [], _ => false
  | false, [], text => text.isEmpty
  | true, letter :: pattern, text => letterThen (sameLetter letter) (like escape false pattern) text
  | false, letter :: pattern, text =>
      if letter = '%' then text.tails.any (like escape false pattern)
      else if letter = escape then like escape true pattern text
      else if letter = '_' then letterThen (fun _ => true) (like escape false pattern) text
      else letterThen (sameLetter letter) (like escape false pattern) text

/-- Quote a text, so that nothing in it is a wildcard. -/
def quote (escape : Char) (text : List Char) : List Char :=
  text.flatMap fun letter =>
    if letter = escape ∨ letter = '%' ∨ letter = '_' then [escape, letter] else [letter]

theorem quote_cons (escape letter : Char) (text : List Char) :
    quote escape (letter :: text) =
      (if letter = escape ∨ letter = '%' ∨ letter = '_' then [escape, letter] else [letter]) ++
        quote escape text :=
  List.flatMap_cons

/-- A text that occurs in another one, up to the case of ASCII letters. -/
def Occurs (needle text : List Char) : Prop :=
  needle.map Char.toLower <:+: text.map Char.toLower

instance (needle text : List Char) : Decidable (Occurs needle text) :=
  inferInstanceAs (Decidable (_ <:+: _))

variable {escape : Char}

theorem letterThen_same {letter : Char} {later : List Char -> Bool} {text : List Char} :
    letterThen (sameLetter letter) later text = true ↔
      Exists fun other => Exists fun rest => text = other :: rest ∧
        letter.toLower = other.toLower ∧ later rest = true := by
  cases text with
  | nil =>
      constructor
      · intro impossible
        cases impossible
      · rintro ⟨other, rest, impossible, -⟩
        cases impossible
  | cons other rest =>
      rw [letterThen, Bool.and_eq_true, sameLetter, beq_iff_eq]
      constructor
      · intro both
        exact ⟨other, rest, rfl, both⟩
      · rintro ⟨first, later, same, both⟩
        cases same
        exact both

/-- One quoted letter is matched by itself. -/
theorem like_quote_letter (plain : escape ≠ '%') (letter : Char) (pattern text : List Char) :
    like escape false ((if letter = escape ∨ letter = '%' ∨ letter = '_' then [escape, letter]
        else [letter]) ++ pattern) text = true ↔
      Exists fun other => Exists fun rest => text = other :: rest ∧
        letter.toLower = other.toLower ∧ like escape false pattern rest = true := by
  by_cases wild : letter = escape ∨ letter = '%' ∨ letter = '_'
  · rw [if_pos wild, List.cons_append, List.cons_append, List.nil_append, like, if_neg plain,
      if_pos rfl, like]
    exact letterThen_same
  · rw [if_neg wild, List.cons_append, List.nil_append, like,
      if_neg fun percent => wild (Or.inr (Or.inl percent)), if_neg fun same => wild (Or.inl same),
      if_neg fun any => wild (Or.inr (Or.inr any))]
    exact letterThen_same

/-- A quoted text is matched by itself, up to case. -/
theorem like_quote (plain : escape ≠ '%') (needle pattern text : List Char) :
    like escape false (quote escape needle ++ pattern) text = true ↔
      Exists fun front => Exists fun rest => text = front ++ rest ∧
        needle.map Char.toLower = front.map Char.toLower ∧
          like escape false pattern rest = true := by
  induction needle generalizing text with
  | nil =>
      constructor
      · intro matched
        exact ⟨[], text, rfl, rfl, matched⟩
      · rintro ⟨front, rest, rfl, same, matched⟩
        have empty : front = [] := List.map_eq_nil_iff.mp same.symm
        rw [empty]
        exact matched
  | cons letter needle inductionHypothesis =>
      rw [quote_cons, List.append_assoc, like_quote_letter plain]
      constructor
      · rintro ⟨other, rest, rfl, first, matched⟩
        rcases (inductionHypothesis rest).mp matched with ⟨front, behind, rfl, later, found⟩
        refine ⟨other :: front, behind, rfl, ?_, found⟩
        rw [List.map_cons, List.map_cons, first, later]
      · rintro ⟨front, rest, rfl, same, matched⟩
        cases front with
        | nil => cases same
        | cons other front =>
            rw [List.map_cons, List.map_cons] at same
            have heads := (List.cons.inj same).1
            have tails := (List.cons.inj same).2
            exact ⟨other, front ++ rest, rfl, heads,
              (inductionHypothesis _).mpr ⟨front, rest, rfl, tails, matched⟩⟩

theorem like_percent (text : List Char) (pattern : List Char) :
    like escape false ('%' :: pattern) text = true ↔
      Exists fun rest => rest <:+ text ∧ like escape false pattern rest = true := by
  rw [like, if_pos rfl, List.any_eq_true]
  constructor
  · rintro ⟨rest, suffix, matched⟩
    exact ⟨rest, (List.mem_tails rest text).mp suffix, matched⟩
  · rintro ⟨rest, suffix, matched⟩
    exact ⟨rest, (List.mem_tails rest text).mpr suffix, matched⟩

theorem like_any (text : List Char) : like escape false ['%'] text = true := by
  apply (like_percent text []).mpr
  exact ⟨[], List.nil_suffix, rfl⟩

/-- Quoted between two percent signs, a text is found wherever it occurs. -/
theorem like_contains (plain : escape ≠ '%') (needle text : List Char) :
    like escape false ('%' :: (quote escape needle ++ ['%'])) text = true ↔ Occurs needle text := by
  rw [like_percent]
  constructor
  · rintro ⟨rest, ⟨before, rfl⟩, matched⟩
    rcases (like_quote plain needle ['%'] rest).mp matched with ⟨front, behind, rfl, same, -⟩
    unfold Occurs
    rw [same, List.map_append, List.map_append]
    exact ⟨before.map Char.toLower, behind.map Char.toLower, (List.append_assoc _ _ _)⟩
  · rintro ⟨before, behind, whole⟩
    rw [List.append_assoc] at whole
    rcases List.map_eq_append_iff.mp whole.symm with ⟨front, rest, rfl, same, others⟩
    rcases List.map_eq_append_iff.mp others with ⟨found, later, rfl, needleSame, -⟩
    exact ⟨found ++ later, List.suffix_append _ _,
      (like_quote plain needle ['%'] _).mpr ⟨found, later, rfl, needleSame.symm, like_any later⟩⟩

/-- Texts that occur in each other are the same up to case. -/
theorem occurs_antisymm {left right : List Char} (first : Occurs left right)
    (second : Occurs right left) : left.map Char.toLower = right.map Char.toLower := by
  apply first.eq_of_length
  have there := first.length_le
  have back := second.length_le
  exact Nat.le_antisymm there back

theorem occurs_self (text : List Char) : Occurs text text := List.infix_refl _

end Sql
