import Mathlib.Data.List.Basic

namespace Exposition

/-!
# The text format of metrics

A sample is a name, labels in braces, a value and perhaps a timestamp, with
blanks or tabs before the last two.  In the value of a label a backslash, a
quote and a line feed are escaped.  A line may also be blank or a comment.
What a number means is not said here: `parse` gives the value of its text.
-/

def isBlank (character : Char) : Bool := character = ' ' || character = '\t'

/-- A character of a number, in decimal or exponential notation or as a word. -/
def isNumeral (character : Char) : Bool :=
  character.isAlphanum || character = '+' || character = '-' || character = '.'

def isNameStart (character : Char) : Bool :=
  character.isAlpha || character = '_' || character = ':'

def isNameCharacter (character : Char) : Bool := isNameStart character || character.isDigit

structure Gap where
  text : List Char
  nonempty : text ≠ []
  blank : forall character, character ∈ text -> isBlank character = true

structure Token where
  text : List Char
  nonempty : text ≠ []
  numeral : forall character, character ∈ text -> isNumeral character = true

structure Name where
  text : List Char
  nonempty : text ≠ []
  start : forall character, text.head? = some character -> isNameStart character = true
  plain : forall character, character ∈ text -> isNameCharacter character = true

/-- What stands behind the name and the labels of a sample. -/
structure Reading {F : Type} (parse : List Char -> Option F) where
  gap : Gap
  token : Token
  value : F
  parsed : parse token.text = some value
  timestamp : Option (Gap × Token)

def escapeChar (character : Char) : List Char :=
  if character = '\\' then ['\\', '\\']
  else if character = '"' then ['\\', '"']
  else if character = '\n' then ['\\', 'n']
  else [character]

def escape (value : List Char) : List Char := value.flatMap escapeChar

def Reading.text {F : Type} {parse : List Char -> Option F} (reading : Reading parse) : List Char :=
  reading.gap.text ++ (reading.token.text ++
    match reading.timestamp with
    | none => []
    | some (gap, token) => gap.text ++ token.text)

def labelText (name : List Char) (value : List Char) : List Char :=
  name ++ '=' :: '"' :: (escape value ++ ['"'])

def labelsText (labels : List (List Char × List Char)) : List Char :=
  if labels.isEmpty then []
  else '{' :: ([','].intercalate (labels.map fun label => labelText label.1 label.2) ++ ['}'])

def sampleText {F : Type} {parse : List Char -> Option F} (name : Name)
    (labels : List (List Char × List Char)) (reading : Reading parse) : List Char :=
  name.text ++ (labelsText labels ++ reading.text)

/-- Every line ends with a line feed. -/
def document (lines : List (List Char)) : List Char := lines.flatMap (· ++ ['\n'])

/-! ## Escaped values -/

/-- A character that is written as it is. -/
def Plain (character : Char) : Prop :=
  character ≠ '\\' ∧ character ≠ '"' ∧ character ≠ '\n'

theorem escapeChar_plain {character : Char} (plain : Plain character) :
    escapeChar character = [character] := by
  rw [escapeChar, if_neg plain.1, if_neg plain.2.1, if_neg plain.2.2]

theorem escapeChar_cases (character : Char) :
    escapeChar character = [character] ∧ Plain character ∨
      Exists fun second => escapeChar character = ['\\', second] ∧
        (second = '"' ↔ character = '"') ∧ second ≠ ',' ∧ second ≠ '\n' := by
  by_cases backslash : character = '\\'
  · refine Or.inr ⟨'\\', by rw [backslash]; rfl, ?_, by decide, by decide⟩
    rw [backslash]
  · by_cases quote : character = '"'
    · refine Or.inr ⟨'"', by rw [quote]; rfl, ?_, by decide, by decide⟩
      rw [quote]
    · by_cases feed : character = '\n'
      · refine Or.inr ⟨'n', by rw [feed]; rfl, ?_, by decide, by decide⟩
        rw [feed]
        decide
      · exact Or.inl ⟨escapeChar_plain ⟨backslash, quote, feed⟩, backslash, quote, feed⟩

theorem escape_append (front back : List Char) : escape (front ++ back) = escape front ++
    escape back :=
  List.flatMap_append

theorem escape_plain {value : List Char}
    (plain : forall character, character ∈ value -> Plain character) :
    escape value = value := by
  induction value with
  | nil => rfl
  | cons character value inductionHypothesis =>
      have each := List.forall_mem_cons.mp plain
      rw [escape, List.flatMap_cons, escapeChar_plain each.1, List.singleton_append]
      exact congrArg _ (inductionHypothesis each.2)

theorem length_le_escape (value : List Char) : value.length ≤ (escape value).length := by
  induction value with
  | nil => exact Nat.le_refl 0
  | cons character value inductionHypothesis =>
      rw [escape, List.flatMap_cons, List.length_append, List.length_cons]
      change value.length ≤ (value.flatMap escapeChar).length at inductionHypothesis
      rcases escapeChar_cases character with ⟨same, -⟩ | ⟨second, same, -⟩
      · rw [same, List.length_singleton]
        omega
      · rw [same, List.length_cons, List.length_singleton]
        omega

/-- Only plain characters are not longer when they are escaped. -/
theorem plain_of_length {value : List Char} (same : (escape value).length = value.length) :
    forall character, character ∈ value -> Plain character := by
  induction value with
  | nil => exact fun _ member => absurd member List.not_mem_nil
  | cons character value inductionHypothesis =>
      have least := length_le_escape value
      rw [escape, List.flatMap_cons, List.length_append, List.length_cons] at same
      change _ + (escape value).length = _ at same
      rcases escapeChar_cases character with ⟨written, plain⟩ | ⟨second, written, -⟩
      · rw [written, List.length_singleton] at same
        exact List.forall_mem_cons.mpr ⟨plain, inductionHypothesis (by omega)⟩
      · rw [written, List.length_cons, List.length_singleton] at same
        omega

theorem feed_not_mem_escape (value : List Char) : '\n' ∉ escape value := by
  intro member
  rcases List.mem_flatMap.mp member with ⟨character, -, inside⟩
  rcases escapeChar_cases character with ⟨same, plain⟩ | ⟨second, same, -, -, other⟩
  · rw [same] at inside
    exact plain.2.2 (List.mem_singleton.mp inside).symm
  · rw [same] at inside
    rcases List.mem_cons.mp inside with first | last
    · exact absurd first (by decide)
    · exact other (List.mem_singleton.mp last).symm

theorem comma_mem_escape {value : List Char} : ',' ∈ escape value ↔ ',' ∈ value := by
  constructor
  · intro member
    rcases List.mem_flatMap.mp member with ⟨character, inside, written⟩
    rcases escapeChar_cases character with ⟨same, -⟩ | ⟨second, same, -, other, -⟩
    · rw [same] at written
      rwa [List.mem_singleton.mp written]
    · rw [same] at written
      rcases List.mem_cons.mp written with first | last
      · exact absurd first (by decide)
      · exact absurd (List.mem_singleton.mp last).symm other
  · intro member
    exact List.mem_flatMap.mpr ⟨',', member, by decide⟩

/-- No escaped value begins with a quote. -/
theorem head?_escape (value : List Char) : (escape value).head? ≠ some '"' := by
  cases value with
  | nil => exact (Option.some_ne_none _).symm
  | cons character value =>
      intro first
      rw [escape, List.flatMap_cons] at first
      rcases escapeChar_cases character with ⟨same, plain⟩ | ⟨second, same, -⟩
      · rw [same] at first
        exact plain.2.1 (Option.some.inj first)
      · rw [same] at first
        exact absurd (Option.some.inj first) (by decide)

/-! ## The value behind a sample -/

variable {F : Type} {parse : List Char -> Option F}

/-- A character of what stands behind the name and the labels. -/
theorem Reading.mem_text {reading : Reading parse} {character : Char}
    (member : character ∈ reading.text) :
    isBlank character = true ∨ isNumeral character = true := by
  rcases List.mem_append.mp member with gap | member
  · exact Or.inl (reading.gap.blank character gap)
  · rcases List.mem_append.mp member with token | member
    · exact Or.inr (reading.token.numeral character token)
    · cases timestamp : reading.timestamp with
      | none =>
          rw [timestamp] at member
          exact absurd member List.not_mem_nil
      | some stamp =>
          rw [timestamp] at member
          rcases List.mem_append.mp member with gap | token
          · exact Or.inl (stamp.1.blank character gap)
          · exact Or.inr (stamp.2.numeral character token)

/-- One blank or tab before the value, and nothing behind it. -/
def Reading.simple (reading : Reading parse) : Bool :=
  decide (reading.gap.text.length = 1) && reading.timestamp.isNone

/-- What stands before the last blank or tab, and the token behind it. -/
structure Reading.LastSplit (reading : Reading parse) (lead : List Char) (blank : Char)
    (last : Token) : Prop where
  whole : reading.text = lead ++ blank :: last.text
  separates : isBlank blank = true
  simple : reading.simple = true -> lead = [] ∧ last = reading.token
  otherwise : reading.simple = false ->
    Exists fun character => character ∈ lead ∧ isBlank character = true

theorem Gap.exists_last (gap : Gap) : Exists fun front => Exists fun last =>
    gap.text = front ++ [last] :=
  ⟨_, _, (List.dropLast_append_getLast gap.nonempty).symm⟩

theorem Reading.LastSplit.unbraced {reading : Reading parse} {lead : List Char} {blank : Char}
    {last : Token} (split : reading.LastSplit lead blank last) : '}' ∉ lead := by
  intro member
  have inside : '}' ∈ reading.text := by
    rw [split.whole]
    exact List.mem_append_left _ member
  rcases reading.mem_text inside with blank | numeral
  · exact absurd blank (by decide)
  · exact absurd numeral (by decide)

theorem Reading.exists_lastSplit (reading : Reading parse) : Exists fun lead =>
    Exists fun blank => Exists fun last => reading.LastSplit lead blank last := by
  rcases reading.gap.exists_last with ⟨front, blank, gap⟩
  have blanks := reading.gap.blank
  rw [gap] at blanks
  cases timestamp : reading.timestamp with
  | none =>
      have whole : reading.text = front ++ blank :: reading.token.text := by
        rw [Reading.text, timestamp, gap, List.append_nil, List.append_assoc]
        rfl
      refine ⟨front, blank, reading.token, whole, blanks blank (by simp), ?_, ?_⟩
      · intro simple
        rw [Reading.simple, Bool.and_eq_true, decide_eq_true_eq] at simple
        have counted := simple.1
        rw [gap, List.length_append, List.length_singleton] at counted
        exact ⟨List.length_eq_zero_iff.mp (by omega), rfl⟩
      · intro other
        cases front with
        | nil =>
            rw [Reading.simple, gap, timestamp] at other
            exact absurd other (by simp)
        | cons character front => exact ⟨character, List.mem_cons_self, blanks character (by simp)⟩
  | some stamp =>
      rcases stamp with ⟨gap', token⟩
      rcases gap'.exists_last with ⟨front', blank', split⟩
      have blanks' := gap'.blank
      rw [split] at blanks'
      refine ⟨reading.gap.text ++ (reading.token.text ++ front'), blank', token, ?_,
        blanks' blank' (by simp), ?_, ?_⟩
      · rw [Reading.text, timestamp]
        dsimp only
        rw [split]
        simp only [List.append_assoc, List.singleton_append]
      · intro simple
        rw [Reading.simple, timestamp, Bool.and_eq_true] at simple
        exact absurd simple.2 Bool.false_ne_true
      · intro _
        refine ⟨blank, ?_, blanks blank (by simp)⟩
        rw [gap]
        simp

end Exposition
