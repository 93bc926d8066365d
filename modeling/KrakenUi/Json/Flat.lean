import Mathlib.Data.List.Basic

namespace Json

/-!
# Flat objects, written compactly

An object whose values are strings, numbers, booleans or null, written without
any space.  Inside a string the quote, the backslash and the control characters
are escaped and every other character stands for itself.

The text of a string has no quote in it that does not follow a backslash, so it
never starts with one.
-/

/-- One character of a string. -/
def escapeChar (character : Char) : List Char :=
  if character = '"' then ['\\', '"']
  else if character = '\\' then ['\\', '\\']
  else if character.toNat = 8 then ['\\', 'b']
  else if character.toNat = 12 then ['\\', 'f']
  else if character = '\n' then ['\\', 'n']
  else if character = '\r' then ['\\', 'r']
  else if character = '\t' then ['\\', 't']
  else if character.toNat < 32 then
    ['\\', 'u', '0', '0', Nat.digitChar (character.toNat / 16),
      Nat.digitChar (character.toNat % 16)]
  else [character]

def escape (text : List Char) : List Char :=
  text.flatMap escapeChar

/-- What numbers, booleans and null are written with. -/
def isLiteralChar (character : Char) : Bool :=
  character.isAlphanum || character == '+' || character == '-' || character == '.'

inductive Value where
  | string (text : String)
  /-- A number, a boolean or null. -/
  | literal (text : String) (plain : forall character, character ∈ text.toList ->
      isLiteralChar character = true)

namespace Value

def chars : Value -> List Char
  | string text => '"' :: (escape text.toList ++ ['"'])
  | literal text _ => text.toList

end Value

structure Member where
  key : String
  value : Value

namespace Member

/-- The key in its quotes, and the colon. -/
def lead (key : String) : List Char :=
  '"' :: (escape key.toList ++ ['"', ':'])

def chars (member : Member) : List Char :=
  lead member.key ++ member.value.chars

end Member

def objectChars (members : List Member) : List Char :=
  '{' :: ([','].intercalate (members.map Member.chars) ++ ['}'])

/-- The text of an object. -/
def object (members : List Member) : String :=
  String.ofList (objectChars members)

/-- A character stands for itself, or a backslash and what names it are written. -/
theorem escapeChar_cases (character : Char) :
    (escapeChar character = [character] ∧ character ≠ '"') ∨
      Exists fun rest => escapeChar character = '\\' :: rest ∧
        ('"' ∈ rest -> character = '"') ∧ '\'' ∉ rest := by
  unfold escapeChar
  split
  · rename_i quote
    exact Or.inr ⟨_, rfl, fun _ => quote, by decide⟩
  rename_i quote
  have named : forall name : Char, name ≠ '"' -> name ≠ '\'' -> Exists fun rest =>
      ['\\', name] = '\\' :: rest ∧ ('"' ∈ rest -> character = '"') ∧ '\'' ∉ rest := by
    intro name double single
    refine ⟨[name], rfl, ?_, ?_⟩
    · intro member
      exact absurd (List.mem_singleton.mp member).symm double
    · intro member
      exact single (List.mem_singleton.mp member).symm
  split
  · exact Or.inr (named '\\' (by decide) (by decide))
  split
  · exact Or.inr (named 'b' (by decide) (by decide))
  split
  · exact Or.inr (named 'f' (by decide) (by decide))
  split
  · exact Or.inr (named 'n' (by decide) (by decide))
  split
  · exact Or.inr (named 'r' (by decide) (by decide))
  split
  · exact Or.inr (named 't' (by decide) (by decide))
  split
  · have digits : forall digit, digit < 16 -> Nat.digitChar digit ≠ '"' ∧
        Nat.digitChar digit ≠ '\'' := by decide
    have high := digits (character.toNat / 16) (by omega)
    have low := digits (character.toNat % 16) (by omega)
    refine Or.inr ⟨_, rfl, ?_, ?_⟩
    · intro member
      simp [high.1.symm, low.1.symm] at member
    · simp [high.2.symm, low.2.symm]
  · exact Or.inl ⟨rfl, quote⟩

/-- The text of a nonempty string starts with something else than a quote. -/
theorem escape_starts {text : List Char} (some : text ≠ []) :
    Exists fun first => Exists fun rest => escape text = first :: rest ∧ first ≠ '"' := by
  rcases List.exists_cons_of_ne_nil some with ⟨character, others, rfl⟩
  unfold escape
  rw [List.flatMap_cons]
  rcases escapeChar_cases character with ⟨plain, other⟩ | ⟨rest, escaped, -⟩
  · rw [plain]
    exact ⟨character, _, rfl, other⟩
  · rw [escaped]
    exact ⟨'\\', _, rfl, by decide⟩

/-- Escaping brings in no quotes of either kind. -/
theorem mem_escape_quote {text : List Char} {quote : Char} (quotes : quote = '"' ∨ quote = '\'')
    (member : quote ∈ escape text) : quote ∈ text := by
  rcases List.mem_flatMap.mp member with ⟨character, among, inside⟩
  rcases escapeChar_cases character with ⟨plain, -⟩ | ⟨rest, escaped, double, single⟩
  · rw [plain] at inside
    rw [List.mem_singleton.mp inside]
    exact among
  · rw [escaped] at inside
    rcases List.mem_cons.mp inside with backslash | later
    · rcases quotes with rfl | rfl <;> cases backslash
    · rcases quotes with rfl | rfl
      · rw [← double later]
        exact among
      · exact absurd later single

/-- A text without anything to escape stands for itself. -/
theorem escape_plain {text : List Char} (plain : forall character, character ∈ text ->
    character ≠ '"' ∧ character ≠ '\\' ∧ 32 ≤ character.toNat) : escape text = text := by
  induction text with
  | nil => rfl
  | cons character rest inductionHypothesis =>
      rcases plain character List.mem_cons_self with ⟨quote, backslash, printable⟩
      have controls : forall control : Char, control.toNat < 32 -> character ≠ control := by
        rintro control small rfl
        omega
      have same : escapeChar character = [character] := by
        unfold escapeChar
        rw [if_neg quote, if_neg backslash, if_neg (by omega), if_neg (by omega),
          if_neg (controls '\n' (by decide)), if_neg (controls '\r' (by decide)),
          if_neg (controls '\t' (by decide)), if_neg (by omega)]
      have later := inductionHypothesis fun other among =>
        plain other (List.mem_cons_of_mem character among)
      unfold escape at later ⊢
      rw [List.flatMap_cons, same, later]
      rfl

end Json
