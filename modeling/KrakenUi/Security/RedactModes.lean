import KrakenUi.Automata.Transducer
import KrakenUi.Security.Redact
import Mathlib.Data.List.TakeWhile

namespace KrakenUi
namespace Redact

open Automata

/-!
# The scanner as a transducer

The scanner looks ahead for a delimiter, but writes what it looks at unchanged.
So it does the same as a machine that reads every character once, writes it, and
remembers in its mode whether a value is to be masked.

The mode at the end of a text is what the text does to whatever follows it.
-/

inductive Mode where
  /-- Between names. -/
  | names
  /-- Inside a name. -/
  | token (key : List Char)
  /-- After a name, where a delimiter may follow. -/
  | gap (key : List Char)
  /-- After the delimiter of a sensitive name. -/
  | padding
  /-- Inside a masked value. -/
  | bare
  /-- After the quote that opens a masked value. -/
  | opened (quote : Char)
  /-- Inside a masked value between quotes. -/
  | quoted (quote : Char)
  deriving DecidableEq

section Machine

variable (unicode : Unicode)

def startName (character : Char) : List Char × Mode :=
  ([character], if isKeyChar unicode character then .token [character] else .names)

def afterName (key : List Char) (character : Char) : List Char × Mode :=
  if isGap character then ([character], .gap key)
  else if isDelimiter character && isSensitiveKey unicode key then ([character], .padding)
  else startName unicode character

/-- Inside quotes. -/
def untilQuote (quote character : Char) (written : List Char) : List Char × Mode :=
  if character == quote then ([character], .names) else (written, .quoted quote)

def step : Mode -> Char -> List Char × Mode
  | .names, character => startName unicode character
  | .token key, character =>
      if isKeyChar unicode character then ([character], .token (key ++ [character]))
      else afterName unicode key character
  | .gap key, character => afterName unicode key character
  | .padding, character =>
      if isBlank character then ([character], .padding)
      else if isQuote character then ([character], .opened character)
      else if isValueTerminator character then ([character], .names)
      else (redacted.toList, .bare)
  | .bare, character =>
      if isValueTerminator character then ([character], .names) else ([], .bare)
  | .opened quote, character => untilQuote quote character redacted.toList
  | .quoted quote, character => untilQuote quote character []

def scanner : Transducer Mode Char Char := ⟨step unicode⟩

end Machine

section Characters

variable {unicode : Unicode} {character : Char}

/-- The characters by which texts are taken apart. -/
def structural : List Char :=
  ['&', ';', ',', '\n', '\r', '\t', ' ', '"', '\'', '}', ']', ')', '<', '>', '#', '=', ':', '/',
    '?']

theorem not_key_of_structural (member : character ∈ structural) :
    isKeyChar unicode character = false := by
  have plain : forall other, other ∈ structural -> other.toNat < 128 ∧
      Text.isAsciiAlphanumeric other = false ∧ other ≠ '_' ∧ other ≠ '-' := by decide
  rcases plain character member with ⟨ascii, other, underscore, hyphen⟩
  unfold isKeyChar
  rw [unicode.alphanumeric_ascii character ascii, other]
  simp [underscore, hyphen]

theorem structural_of_terminator (terminates : isValueTerminator character = true) :
    character ∈ structural := by
  have all : forall other, other ∈ ['&', ';', ',', '\n', '\r', '\t', ' ', '"', '\'', '}', ']',
      ')', '<', '>', '#'] -> other ∈ structural := by decide
  exact all character (List.contains_iff_mem.mp terminates)

theorem terminator_of_gap (gap : isGap character = true) :
    isValueTerminator character = true := by
  have all : forall other, other ∈ [' ', '\t', '"', '\''] -> isValueTerminator other = true := by
    decide
  exact all character (List.contains_iff_mem.mp gap)

theorem gap_of_blank (blank : isBlank character = true) : isGap character = true := by
  have all : forall other, other ∈ [' ', '\t'] -> isGap other = true := by decide
  exact all character (List.contains_iff_mem.mp blank)

theorem gap_of_quote (quote : isQuote character = true) : isGap character = true := by
  unfold isQuote at quote
  simp only [Bool.or_eq_true, beq_iff_eq] at quote
  rcases quote with rfl | rfl <;> rfl

theorem not_gap_of_inside (inside : isValueTerminator character = false) :
    isGap character = false := by
  rw [Bool.eq_false_iff] at inside ⊢
  exact fun gap => inside (terminator_of_gap gap)

theorem not_blank_of_not_gap (other : isGap character = false) : isBlank character = false := by
  rw [Bool.eq_false_iff] at other ⊢
  exact fun blank => other (gap_of_blank blank)

theorem not_quote_of_not_gap (other : isGap character = false) : isQuote character = false := by
  rw [Bool.eq_false_iff] at other ⊢
  exact fun quote => other (gap_of_quote quote)

theorem structural_of_delimiter (delimiter : isDelimiter character = true) :
    character ∈ structural := by
  unfold isDelimiter at delimiter
  simp only [Bool.or_eq_true, beq_iff_eq] at delimiter
  rcases delimiter with rfl | rfl <;> decide

theorem not_terminator_of_delimiter (delimiter : isDelimiter character = true) :
    isValueTerminator character = false := by
  unfold isDelimiter at delimiter
  simp only [Bool.or_eq_true, beq_iff_eq] at delimiter
  rcases delimiter with rfl | rfl <;> rfl

theorem not_key_of_terminator (terminates : isValueTerminator character = true) :
    isKeyChar unicode character = false :=
  not_key_of_structural (structural_of_terminator terminates)

theorem not_key_of_gap (gap : isGap character = true) : isKeyChar unicode character = false :=
  not_key_of_terminator (terminator_of_gap gap)

/-- A character of a name belongs to no gap and ends no value. -/
theorem inside_of_key (key : isKeyChar unicode character = true) :
    isValueTerminator character = false := by
  rw [Bool.eq_false_iff]
  intro terminates
  rw [not_key_of_terminator terminates] at key
  cases key

theorem not_key_of_delimiter (delimiter : isDelimiter character = true) :
    isKeyChar unicode character = false :=
  not_key_of_structural (structural_of_delimiter delimiter)

end Characters

section Scanning

variable {unicode : Unicode} {character : Char} {key text : List Char}

theorem step_names (other : isKeyChar unicode character = false) :
    step unicode .names character = ([character], .names) := by
  simp [step, startName, other]

/-- Text without a name is copied. -/
theorem copies_names (others : forall other, other ∈ text -> isKeyChar unicode other = false) :
    (scanner unicode).write .names text = text ∧ (scanner unicode).after .names text = .names :=
  Transducer.copies fun other among => step_names (others other among)

/-- A name is copied and remembered. -/
theorem copies_token (name : forall other, other ∈ text -> isKeyChar unicode other = true) :
    (scanner unicode).write (.token key) text = text ∧
      (scanner unicode).after (.token key) text = .token (key ++ text) := by
  induction text generalizing key with
  | nil => exact ⟨rfl, congrArg Mode.token (List.append_nil key).symm⟩
  | cons first rest inductionHypothesis =>
      have moved : (scanner unicode).step (.token key) first =
          ([first], .token (key ++ [first])) := if_pos (name first List.mem_cons_self)
      rcases @inductionHypothesis (key ++ [first]) fun other among => name other
          (List.mem_cons_of_mem first among) with ⟨written, reached⟩
      rw [Transducer.write_cons, Transducer.after_cons, moved, reached]
      exact ⟨congrArg (first :: ·) written, congrArg Mode.token (List.append_assoc _ _ _)⟩

theorem copies_gap (gap : forall other, other ∈ text -> isGap other = true) :
    (scanner unicode).write (.gap key) text = text ∧
      (scanner unicode).after (.gap key) text = .gap key :=
  Transducer.copies fun other among => if_pos (gap other among)

theorem copies_padding (blank : forall other, other ∈ text -> isBlank other = true) :
    (scanner unicode).write .padding text = text ∧
      (scanner unicode).after .padding text = .padding :=
  Transducer.copies fun other among => if_pos (blank other among)

theorem skips_bare (value : forall other, other ∈ text -> isValueTerminator other = false) :
    (scanner unicode).write .bare text = [] ∧ (scanner unicode).after .bare text = .bare := by
  apply Transducer.skips
  intro other among
  change step unicode .bare other = ([], .bare)
  simp [step, value other among]

theorem skips_quoted {quote : Char} (value : forall other, other ∈ text -> other ≠ quote) :
    (scanner unicode).write (.quoted quote) text = [] ∧
      (scanner unicode).after (.quoted quote) text = .quoted quote := by
  apply Transducer.skips
  intro other among
  change step unicode (.quoted quote) other = ([], .quoted quote)
  simp [step, untilQuote, value other among]

/-- After the last character of a name it does not matter that it was one. -/
theorem write_token_gap (ends : forall first, text.head? = some first ->
    isKeyChar unicode first = false) :
    (scanner unicode).write (.token key) text = (scanner unicode).write (.gap key) text := by
  cases text with
  | nil => rfl
  | cons first rest =>
      have other := ends first rfl
      have same : (scanner unicode).step (.token key) first =
          (scanner unicode).step (.gap key) first := by
        change step unicode (.token key) first = step unicode (.gap key) first
        simp [step, other]
      rw [Transducer.write_cons, Transducer.write_cons, same]

/-- Without a delimiter after a sensitive name, the name is forgotten. -/
theorem write_gap_names
    (plain : ((text.dropWhile isGap).head?.any isDelimiter && isSensitiveKey unicode key) = false) :
    (scanner unicode).write (.gap key) text = (scanner unicode).write .names text := by
  have gap : forall other, other ∈ text.takeWhile isGap -> isGap other = true :=
    fun other among => List.mem_takeWhile_imp among
  have rest : (scanner unicode).write (.gap key) (text.dropWhile isGap) =
      (scanner unicode).write .names (text.dropWhile isGap) := by
    cases ahead : text.dropWhile isGap with
    | nil => rfl
    | cons first rest =>
        have stops : isGap first = false := stops_dropWhile (congrArg List.head? ahead)
        rw [ahead] at plain
        have same : (scanner unicode).step (.gap key) first =
            (scanner unicode).step .names first := by
          change afterName unicode key first = startName unicode first
          unfold afterName
          simp only [List.head?_cons, Option.any_some] at plain
          simp [stops, plain]
        rw [Transducer.write_cons, Transducer.write_cons, same]
  rcases @copies_gap unicode key _ gap with ⟨first, reached⟩
  rcases @copies_names unicode _ fun other among => not_key_of_gap (gap other among) with
      ⟨second, reached'⟩
  rw [← @List.takeWhile_append_dropWhile _ isGap text, Transducer.write_append,
    Transducer.write_append, first, second, reached, reached', rest]

/-- The quote that ends a masked value, or the end of the text. -/
theorem write_closing {quote : Char} {mode : Mode}
    (inside : mode = .opened quote ∨ mode = .quoted quote)
    (closes : forall first, text.head? = some first -> first = quote) :
    (scanner unicode).write mode text =
      text.take 1 ++ (scanner unicode).write .names (text.drop 1) := by
  cases text with
  | nil => rfl
  | cons first rest =>
      have same := closes first rfl
      subst same
      have closed : (scanner unicode).step mode first = ([first], .names) := by
        rcases inside with rfl | rfl
        · exact if_pos (beq_self_eq_true first)
        · exact if_pos (beq_self_eq_true first)
      rw [Transducer.write_cons, closed]
      rfl

theorem write_masked {quote : Char} {masked closing : List Char}
    (value : forall other, other ∈ masked -> other ≠ quote)
    (closes : forall first, closing.head? = some first -> first = quote) :
    (scanner unicode).write (.opened quote) (masked ++ closing) =
      mask masked ++ closing.take 1 ++ (scanner unicode).write .names (closing.drop 1) := by
  cases masked with
  | nil => exact write_closing (Or.inl rfl) closes
  | cons first rest =>
      have begun : (scanner unicode).step (.opened quote) first =
          (redacted.toList, .quoted quote) := by
        apply if_neg
        simpa using value first List.mem_cons_self
      rcases @skips_quoted unicode rest quote fun other among => value other
          (List.mem_cons_of_mem first among) with ⟨written, reached⟩
      rw [List.cons_append, Transducer.write_cons, begun, Transducer.write_append, written,
        reached, write_closing (Or.inr rfl) closes]
      simp [mask]

/-- A value between quotes is masked. -/
theorem write_opened (quote : Char) :
    (scanner unicode).write (.opened quote) text =
      mask (text.takeWhile (· != quote)) ++ (text.dropWhile (· != quote)).take 1 ++
        (scanner unicode).write .names ((text.dropWhile (· != quote)).drop 1) := by
  have closes : forall first, (text.dropWhile (· != quote)).head? = some first ->
      first = quote := by
    intro first head
    simpa using stops_dropWhile head
  have value : forall other, other ∈ text.takeWhile (· != quote) -> other ≠ quote := by
    intro other among
    simpa using List.mem_takeWhile_imp among
  conv => lhs; rw [← @List.takeWhile_append_dropWhile _ (· != quote) text]
  exact write_masked value closes

/-- The terminator of a value without quotes belongs to what follows. -/
theorem write_bare_names
    (ends : forall first, text.head? = some first -> isValueTerminator first = true) :
    (scanner unicode).write .bare text = (scanner unicode).write .names text := by
  cases text with
  | nil => rfl
  | cons first rest =>
      have terminates := ends first rfl
      have same : (scanner unicode).step .bare first = (scanner unicode).step .names first := by
        change step unicode .bare first = step unicode .names first
        rw [step_names (not_key_of_terminator terminates)]
        exact if_pos terminates
      rw [Transducer.write_cons, Transducer.write_cons, same]

/-- A value is masked up to its end. -/
theorem write_value (starts : forall first, text.head? = some first -> isBlank first = false) :
    (scanner unicode).write .padding text =
      (redactValue text).1 ++ (scanner unicode).write .names (redactValue text).2 := by
  cases text with
  | nil => rfl
  | cons opening rest =>
      have blank := starts opening rfl
      by_cases quoted : isQuote opening = true
      · have begun : (scanner unicode).step .padding opening = ([opening], .opened opening) := by
          change step unicode .padding opening = ([opening], .opened opening)
          simp [step, blank, quoted]
        rw [Transducer.write_cons, begun, write_opened]
        simp [redactValue, quoted]
      · by_cases empty : isValueTerminator opening = true
        · have begun : (scanner unicode).step .padding opening =
              (scanner unicode).step .names opening := by
            change step unicode .padding opening = step unicode .names opening
            rw [step_names (not_key_of_terminator empty)]
            simp [step, blank, quoted, empty]
          rw [Transducer.write_cons, begun, ← Transducer.write_cons]
          simp [redactValue, quoted, empty, mask]
        · have begun : (scanner unicode).step .padding opening = (redacted.toList, .bare) := by
            change step unicode .padding opening = (redacted.toList, .bare)
            simp [step, blank, quoted, empty]
          have value : forall other, other ∈ rest.takeWhile (!isValueTerminator ·) ->
              isValueTerminator other = false := by
            intro other among
            simpa using List.mem_takeWhile_imp among
          have ends : forall first, (rest.dropWhile (!isValueTerminator ·)).head? = some first ->
              isValueTerminator first = true := by
            intro first head
            simpa using stops_dropWhile head
          rcases @skips_bare unicode _ value with ⟨written, reached⟩
          rw [Transducer.write_cons, begun]
          have rest' : (scanner unicode).write .bare rest =
              (scanner unicode).write .names (rest.dropWhile (!isValueTerminator ·)) := by
            rw [← write_bare_names ends]
            conv => lhs; rw [← @List.takeWhile_append_dropWhile _ (!isValueTerminator ·) rest]
            rw [Transducer.write_append, written, reached, List.nil_append]
          rw [rest']
          simp [redactValue, quoted, empty, mask]

/-- A name is copied up to its end. -/
theorem write_names (name : isKeyChar unicode character = true) :
    (scanner unicode).write .names (character :: text) =
      character :: text.takeWhile (isKeyChar unicode) ++
        (scanner unicode).write (.gap (character :: text.takeWhile (isKeyChar unicode)))
          (text.dropWhile (isKeyChar unicode)) := by
  have begun : (scanner unicode).step .names character = ([character], .token [character]) := by
    change startName unicode character = _
    simp [startName, name]
  rcases @copies_token unicode [character] (text.takeWhile (isKeyChar unicode)) fun other among =>
      List.mem_takeWhile_imp among with ⟨written, reached⟩
  have ends : forall first, (text.dropWhile (isKeyChar unicode)).head? = some first ->
      isKeyChar unicode first = false := fun first head => stops_dropWhile head
  rw [Transducer.write_cons, begun]
  conv => lhs; rw [← @List.takeWhile_append_dropWhile _ (isKeyChar unicode) text]
  rw [Transducer.write_append, written, reached, write_token_gap ends]
  rfl

/-- After the delimiter of a sensitive name the value is masked. -/
theorem write_sensitive (sensitive :
      ((text.dropWhile isGap).head?.any isDelimiter && isSensitiveKey unicode key) = true) :
    (scanner unicode).write (.gap key) text =
      text.takeWhile isGap ++ (text.dropWhile isGap).take 1 ++
        ((text.dropWhile isGap).drop 1).takeWhile isBlank ++
        (redactValue (((text.dropWhile isGap).drop 1).dropWhile isBlank)).1 ++
        (scanner unicode).write .names
          (redactValue (((text.dropWhile isGap).drop 1).dropWhile isBlank)).2 := by
  rcases @copies_gap unicode key (text.takeWhile isGap) fun other among => List.mem_takeWhile_imp
      among with ⟨written, reached⟩
  conv => lhs; rw [← @List.takeWhile_append_dropWhile _ isGap text]
  rw [Transducer.write_append, written, reached]
  cases ahead : text.dropWhile isGap with
  | nil =>
      rw [ahead] at sensitive
      cases sensitive
  | cons delimiter padded =>
      rw [ahead] at sensitive
      have stops : isGap delimiter = false := stops_dropWhile (congrArg List.head? ahead)
      have begun : (scanner unicode).step (.gap key) delimiter = ([delimiter], .padding) := by
        change afterName unicode key delimiter = _
        simp only [List.head?_cons, Option.any_some] at sensitive
        simp [afterName, stops, sensitive]
      rcases @copies_padding unicode (padded.takeWhile isBlank) fun other among =>
          List.mem_takeWhile_imp among with ⟨blanks, reached'⟩
      have starts : forall first, (padded.dropWhile isBlank).head? = some first ->
          isBlank first = false := fun first head => stops_dropWhile head
      rw [Transducer.write_cons, begun]
      conv => lhs; rw [← @List.takeWhile_append_dropWhile _ isBlank padded]
      rw [Transducer.write_append, blanks, reached', write_value starts]
      simp

end Scanning

/-- The scanner that looks ahead and the one that does not write the same. -/
theorem redactChars_eq_write (unicode : Unicode) (text : List Char) :
    redactChars unicode text = (scanner unicode).write .names text := by
  induction text using redactChars.induct unicode with
  | case1 => rw [redactChars, Transducer.write_nil]
  | case2 first rest other inductionHypothesis =>
      have plain : isKeyChar unicode first = false := by simpa using other
      have moved : (scanner unicode).step .names first = ([first], .names) := step_names plain
      rw [redactChars, if_pos other, inductionHypothesis, Transducer.write_cons, moved]
      rfl
  | case3 first rest name key after ahead sensitive padded value inductionHypothesis =>
      have key' : isKeyChar unicode first = true := by simpa using name
      rw [redactChars, if_neg name, if_pos sensitive]
      change key ++ after.takeWhile isGap ++ ahead.take 1 ++ padded.takeWhile isBlank ++ value.1 ++
        redactChars unicode value.2 = _
      rw [inductionHypothesis, write_names key', write_sensitive sensitive]
      simp only [List.append_assoc]
      rfl
  | case4 first rest name key after ahead plain inductionHypothesis =>
      have key' : isKeyChar unicode first = true := by simpa using name
      rw [redactChars, if_neg name, if_neg plain, inductionHypothesis, write_names key',
        write_gap_names (Bool.eq_false_iff.mpr plain)]

end Redact
end KrakenUi
