import KrakenUi.Json.Flat

namespace Json

/-!
# Values that are read from a text

What a parser makes of a text: a tree with the members of its objects by name.
Strings are read back from their quotes as they were before they were escaped,
so that a list of strings can be written and read.
-/

/-- A number is kept as it is written. -/
inductive Tree where
  | null
  | bool (value : Bool)
  | number (written : String)
  | string (text : String)
  | array (elements : List Tree)
  | object (members : List (String × Tree))

namespace Tree

def asObject : Tree -> Option (List (String × Tree))
  | object members => some members
  | _ => none

def asArray : Tree -> Option (List Tree)
  | array elements => some elements
  | _ => none

@[simp] theorem asObject_eq_some {tree : Tree} {members : List (String × Tree)} :
    tree.asObject = some members ↔ tree = .object members := by
  cases tree <;> simp [asObject]

@[simp] theorem asArray_eq_some {tree : Tree} {elements : List Tree} :
    tree.asArray = some elements ↔ tree = .array elements := by
  cases tree <;> simp [asArray]

end Tree

/-! ## Strings in their quotes -/

/-- What a character after a backslash stands for. -/
def unescape (character : Char) : Option Char :=
  if character = '"' ∨ character = '\\' ∨ character = '/' then some character
  else if character = 'b' then some (Char.ofNat 8)
  else if character = 'f' then some (Char.ofNat 12)
  else if character = 'n' then some '\n'
  else if character = 'r' then some '\r'
  else if character = 't' then some '\t'
  else none

def hexDigit (character : Char) : Option Nat :=
  (List.range 16).find? fun value => Nat.digitChar value = character

/-- The text of a string up to its quote, and what follows.  Code points are
read in the form in which they are written, with two digits. -/
def readString : List Char -> Option (List Char × List Char)
  | [] => none
  | '"' :: rest => some ([], rest)
  | '\\' :: 'u' :: '0' :: '0' :: high :: low :: rest =>
      match hexDigit high, hexDigit low, readString rest with
      | some sixteens, some ones, some (text, behind) =>
          some (Char.ofNat (16 * sixteens + ones) :: text, behind)
      | _, _, _ => none
  | '\\' :: named :: rest =>
      match unescape named, readString rest with
      | some character, some (text, behind) => some (character :: text, behind)
      | _, _ => none
  | character :: rest =>
      if character.toNat < 32 then none
      else (readString rest).map fun found => (character :: found.1, found.2)

def quoted (text : List Char) : List Char := '"' :: (escape text ++ ['"'])

theorem readString_named {name character : Char} {rest text behind : List Char}
    (named : unescape name = some character) (plain : name ≠ 'u')
    (later : readString rest = some (text, behind)) :
    readString ('\\' :: name :: rest) = some (character :: text, behind) := by
  unfold readString
  split
  · rename_i same
    cases same
  · rename_i same
    exact absurd (List.cons.inj same).1 (by decide)
  · rename_i same
    exact absurd (List.cons.inj (List.cons.inj same).2).1 plain
  · rename_i same
    cases same
    rw [named, later]
  · rename_i other same
    cases same
    exact absurd rfl (other name rest rfl)

/-- An escaped character is read as itself. -/
theorem readString_escapeChar (character : Char) {rest text behind : List Char}
    (later : readString rest = some (text, behind)) :
    readString (escapeChar character ++ rest) = some (character :: text, behind) := by
  unfold escapeChar
  split
  · rename_i same
    subst same
    exact readString_named rfl (by decide) later
  rename_i quote
  split
  · rename_i same
    subst same
    exact readString_named rfl (by decide) later
  rename_i backslash
  have ofCode : forall code, character.toNat = code -> character = Char.ofNat code := by
    rintro code rfl
    exact (Char.ofNat_toNat character).symm
  split
  · rename_i code
    rw [ofCode 8 code]
    exact readString_named rfl (by decide) later
  split
  · rename_i code
    rw [ofCode 12 code]
    exact readString_named rfl (by decide) later
  split
  · rename_i same
    subst same
    exact readString_named rfl (by decide) later
  split
  · rename_i same
    subst same
    exact readString_named rfl (by decide) later
  split
  · rename_i same
    subst same
    exact readString_named rfl (by decide) later
  split
  · rename_i control
    have digits : forall value, value < 16 -> hexDigit (Nat.digitChar value) = some value := by
      decide
    have high := digits (character.toNat / 16) (by omega)
    have low := digits (character.toNat % 16) (by omega)
    simp only [List.cons_append, List.nil_append]
    rw [readString, high, low, later]
    dsimp only
    rw [Nat.div_add_mod, Char.ofNat_toNat]
  · rename_i printable
    rw [List.singleton_append]
    unfold readString
    split
    · contradiction
    · rename_i same
      exact absurd (List.cons.inj same).1 quote
    · rename_i same
      exact absurd (List.cons.inj same).1 backslash
    · rename_i same
      exact absurd (List.cons.inj same).1 backslash
    · rename_i same
      cases same
      rw [if_neg printable, later]
      rfl

/-- A string is read back from its quotes. -/
theorem readString_escape (text behind : List Char) :
    readString (escape text ++ '"' :: behind) = some (text, behind) := by
  induction text with
  | nil => rfl
  | cons character text inductionHypothesis =>
      unfold escape at inductionHypothesis ⊢
      rw [List.flatMap_cons, List.append_assoc]
      exact readString_escapeChar character inductionHypothesis

/-! ## Lists of strings -/

/-- Strings with commas between them, up to the bracket.  The first argument
bounds how many are read. -/
def readStrings : Nat -> List Char -> Option (List (List Char) × List Char)
  | bound + 1, '"' :: rest =>
      match readString rest with
      | some (text, ',' :: behind) =>
          (readStrings bound behind).map fun found => (text :: found.1, found.2)
      | some (text, ']' :: behind) => some ([text], behind)
      | _ => none
  | _, _ => none

theorem readStrings_quoted {texts : List (List Char)} (nonempty : texts ≠ []) {bound : Nat}
    (enough : texts.length ≤ bound) (behind : List Char) :
    readStrings bound ([','].intercalate (texts.map quoted) ++ ']' :: behind) =
      some (texts, behind) := by
  induction texts generalizing bound with
  | nil => exact absurd rfl nonempty
  | cons text texts inductionHypothesis =>
      rcases Nat.exists_eq_add_one_of_ne_zero
          (Nat.ne_of_gt (Nat.lt_of_lt_of_le (Nat.succ_pos _) enough)) with ⟨fuel, rfl⟩
      have fewer : texts.length ≤ fuel := Nat.le_of_succ_le_succ enough
      cases texts with
      | nil =>
          simp only [List.map_cons, List.map_nil, List.intercalate_singleton, quoted,
            List.cons_append, List.append_assoc, List.nil_append]
          rw [readStrings, readString_escape]
          rfl
      | cons second texts =>
          have later := inductionHypothesis (List.cons_ne_nil _ _) fewer
          simp only [List.map_cons] at later ⊢
          rw [List.intercalate_cons_cons]
          simp only [quoted, List.cons_append, List.append_assoc, List.nil_append] at later ⊢
          rw [readStrings, readString_escape]
          change Option.map _ (readStrings fuel _) = _
          rw [later]
          rfl

/-- There are no more strings than characters. -/
theorem length_le_quoted (texts : List (List Char)) :
    texts.length ≤ ([','].intercalate (texts.map quoted)).length := by
  induction texts with
  | nil => exact Nat.zero_le _
  | cons text texts inductionHypothesis =>
      cases texts with
      | nil => simp [quoted, List.intercalate_singleton]
      | cons second texts =>
          simp only [List.map_cons] at inductionHypothesis ⊢
          rw [List.intercalate_cons_cons]
          simp only [List.length_append, List.length_cons, List.length_nil] at *
          omega

end Json
