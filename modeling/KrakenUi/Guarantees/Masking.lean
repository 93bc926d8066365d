import KrakenUi.Guarantees.Redaction

namespace KrakenUi
namespace Redact

open Automata

/-!
# What the redaction changes

Redacting a second time changes nothing.  Of a query string exactly the values of
the sensitive names are lost.  In any text only values are replaced that a
sensitive key has announced, and everything between them stays.
-/

section Twice

variable {unicode : Unicode}

theorem redacted_nonempty : redacted.toList ≠ [] := by decide

/-- The placeholder is read as a value without quotes. -/
theorem redacted_inside : forall character, character ∈ redacted.toList ->
    isValueTerminator character = false := by
  decide

theorem redacted_unquoted {quote : Char} (quotes : isQuote quote = true) :
    forall character, character ∈ redacted.toList -> character ≠ quote := by
  intro character among same
  have terminates := terminator_of_gap (gap_of_quote quotes)
  rw [← same, redacted_inside character among] at terminates
  cases terminates

/-- A character that is copied is read the same way again. -/
theorem stable_copy {mode next : Mode} {character : Char}
    (copied : step unicode mode character = ([character], next)) :
    (scanner unicode).write mode [character] = [character] ∧
      (scanner unicode).after mode [character] = next := by
  have moved : (scanner unicode).step mode character = ([character], next) := copied
  rw [Transducer.write_cons, Transducer.after_cons, moved]
  exact ⟨rfl, rfl⟩

theorem startName_copies (character : Char) :
    startName unicode character = ([character], (startName unicode character).2) := rfl

theorem afterName_copies (key : List Char) (character : Char) :
    afterName unicode key character = ([character], (afterName unicode key character).2) := by
  unfold afterName
  split
  · rfl
  · split
    · rfl
    · exact startName_copies character

/-- What a step writes is read in the same mode as what it was written for. -/
theorem stable_step (mode : Mode) (character : Char) (quoting : Quoting mode) :
    (scanner unicode).write mode (step unicode mode character).1 = (step unicode mode character).1 ∧
      (scanner unicode).after mode (step unicode mode character).1 =
        (step unicode mode character).2 := by
  have copies : forall next, step unicode mode character = ([character], next) ->
      (scanner unicode).write mode (step unicode mode character).1 =
          (step unicode mode character).1 ∧
        (scanner unicode).after mode (step unicode mode character).1 =
          (step unicode mode character).2 := by
    intro next copied
    rw [copied]
    exact stable_copy copied
  cases mode with
  | names => exact copies _ (startName_copies character)
  | token key =>
      by_cases name : isKeyChar unicode character = true
      · exact copies (.token (key ++ [character])) (if_pos name)
      · have plain : step unicode (.token key) character = afterName unicode key character :=
          if_neg name
        exact copies _ (plain.trans (afterName_copies key character))
  | gap key => exact copies _ (afterName_copies key character)
  | padding =>
      by_cases blank : isBlank character = true
      · exact copies .padding (if_pos blank)
      · by_cases quoted : isQuote character = true
        · exact copies (.opened character) (by simp [step, blank, quoted])
        · by_cases empty : isValueTerminator character = true
          · exact copies .names (by simp [step, blank, quoted, empty])
          · have begun : step unicode .padding character = (redacted.toList, .bare) := by
              simp [step, blank, quoted, empty]
            rw [begun]
            exact masks_bare redacted_nonempty redacted_inside
  | bare =>
      by_cases terminates : isValueTerminator character = true
      · exact copies .names (if_pos terminates)
      · have skipped : step unicode .bare character = ([], .bare) := if_neg terminates
        rw [skipped]
        exact ⟨rfl, rfl⟩
  | opened quote =>
      by_cases closes : character = quote
      · exact copies .names (if_pos (by simpa using closes))
      · have begun : step unicode (.opened quote) character = (redacted.toList, .quoted quote) :=
          if_neg (by simpa using closes)
        have quotes : isQuote quote = true := quoting
        rw [begun]
        exact masks_quoted redacted_nonempty (redacted_unquoted quotes)
  | quoted quote =>
      by_cases closes : character = quote
      · exact copies .names (if_pos (by simpa using closes))
      · have skipped : step unicode (.quoted quote) character = ([], .quoted quote) :=
          if_neg (by simpa using closes)
        rw [skipped]
        exact ⟨rfl, rfl⟩

/-- Redaction is idempotent. -/
theorem redactSensitiveValues_idempotent (unicode : Unicode) (input : String) :
    redactSensitiveValues unicode (redactSensitiveValues unicode input) =
      redactSensitiveValues unicode input := by
  have start : Quoting .names := True.intro
  have twice := (@Transducer.write_write Mode Char (scanner unicode) Quoting quoting_step
    stable_step .names start input.toList).1
  unfold redactSensitiveValues
  rw [String.toList_ofList, redactChars_eq_write, redactChars_eq_write, twice]

end Twice

section Query

variable {unicode : Unicode}

/-- A parameter of a query string.  Only the value of a sensitive name may have
delimiters in it. -/
structure QueryPair (unicode : Unicode) where
  name : String
  value : String
  named : name.toList ≠ []
  keys : forall character, character ∈ name.toList -> isKeyChar unicode character = true
  inside : forall character, character ∈ value.toList -> isValueTerminator character = false
  plain : isSensitiveKey unicode name.toList = false ->
    forall character, character ∈ value.toList -> isDelimiter character = false

namespace QueryPair

def rendered (pair : QueryPair unicode) : String :=
  pair.name ++ "=" ++ pair.value

/-- The pair as everyone may see it. -/
def shown (pair : QueryPair unicode) : String :=
  if isSensitiveKey unicode pair.name.toList = true ∧ pair.value ≠ "" then
    pair.name ++ "=" ++ redacted
  else pair.rendered

end QueryPair

def queryString (pairs : List String) : String :=
  "&".intercalate pairs

theorem delimits_equals : isDelimiter '=' = true := rfl

/-- A name is copied and remembered, whatever follows it. -/
theorem reads_name {name : List Char} (named : name ≠ [])
    (keys : forall character, character ∈ name -> isKeyChar unicode character = true) :
    (scanner unicode).write .names name = name ∧
      (scanner unicode).after .names name = .token name := by
  rcases List.exists_cons_of_ne_nil named with ⟨first, rest, rfl⟩
  have begun : (scanner unicode).step .names first = ([first], .token [first]) := by
    change startName unicode first = _
    simp [startName, keys first List.mem_cons_self]
  rcases @copies_token unicode [first] rest fun other among => keys other
      (List.mem_cons_of_mem first among) with ⟨written, reached⟩
  rw [Transducer.write_cons, Transducer.after_cons, begun, written, reached]
  exact ⟨rfl, rfl⟩

/-- A value without delimiters, of a name that is not sensitive, is copied. -/
theorem copies_value {mode : Mode} {value : List Char}
    (plainly : mode = .names ∨ Exists fun key => mode = .token key)
    (inside : forall character, character ∈ value -> isValueTerminator character = false)
    (plain : forall character, character ∈ value -> isDelimiter character = false) :
    (scanner unicode).write mode value = value ∧
      ((scanner unicode).after mode value = .names ∨
        Exists fun key => (scanner unicode).after mode value = .token key) := by
  induction value generalizing mode with
  | nil => exact ⟨rfl, plainly⟩
  | cons first rest inductionHypothesis =>
      have outside := not_gap_of_inside (inside first List.mem_cons_self)
      have other := plain first List.mem_cons_self
      have moved : Exists fun next => step unicode mode first = ([first], next) ∧
          (next = .names ∨ Exists fun key => next = .token key) := by
        have started : (startName unicode first).2 = .names ∨
            Exists fun key => (startName unicode first).2 = .token key := by
          unfold startName
          split
          · exact Or.inr ⟨[first], rfl⟩
          · exact Or.inl rfl
        rcases plainly with rfl | ⟨key, rfl⟩
        · exact ⟨_, startName_copies first, started⟩
        · by_cases name : isKeyChar unicode first = true
          · exact ⟨.token (key ++ [first]), if_pos name, Or.inr ⟨_, rfl⟩⟩
          · refine ⟨_, ?_, started⟩
            rw [← startName_copies first]
            simp [step, name, afterName, outside, other]
      rcases moved with ⟨next, copied, ready⟩
      rcases inductionHypothesis ready (fun character among => inside character
          (List.mem_cons_of_mem first among))
          (fun character among => plain character (List.mem_cons_of_mem first among)) with
          ⟨written, reached⟩
      have begun : (scanner unicode).step mode first = ([first], next) := copied
      rw [Transducer.write_cons, Transducer.after_cons, begun]
      exact ⟨congrArg (first :: ·) written, reached⟩

/-- What a pair leaves behind: the ampersand ends it. -/
def Parted (mode : Mode) : Prop :=
  mode = .names ∨ mode = .padding ∨ mode = .bare ∨ Exists fun key => mode = .token key

theorem ampersand_parts {mode : Mode} (parted : Parted mode) :
    (scanner unicode).write mode ['&'] = ['&'] ∧ (scanner unicode).after mode ['&'] = .names := by
  have other : isKeyChar unicode '&' = false := not_key_of_structural (by decide)
  have plain : isGap '&' = false ∧ isDelimiter '&' = false ∧ isBlank '&' = false ∧
      isQuote '&' = false ∧ isValueTerminator '&' = true := by decide
  rcases plain with ⟨gap, delimiter, blank, quote, terminates⟩
  have copied : step unicode mode '&' = (['&'], .names) := by
    rcases parted with rfl | rfl | rfl | ⟨key, rfl⟩
    · exact step_names other
    · simp [step, blank, quote, terminates]
    · simp [step, terminates]
    · simp [step, other, afterName, gap, delimiter, startName]
  exact stable_copy copied

/-- A pair is read from one separator to the next. -/
theorem reads_pair (pair : QueryPair unicode) :
    (scanner unicode).write .names pair.rendered.toList = pair.shown.toList ∧
      Parted ((scanner unicode).after .names pair.rendered.toList) := by
  rcases reads_name pair.named pair.keys with ⟨name, token⟩
  have split : pair.rendered.toList = pair.name.toList ++ '=' :: pair.value.toList := by
    simp [QueryPair.rendered, String.toList_append]
  have other : isKeyChar unicode '=' = false := not_key_of_delimiter delimits_equals
  have gap : isGap '=' = false := rfl
  rw [split, Transducer.write_append, Transducer.after_append, name, token]
  by_cases sensitive : isSensitiveKey unicode pair.name.toList = true
  · have delimited : (scanner unicode).step (.token pair.name.toList) '=' = (['='], .padding) := by
      change step unicode (.token pair.name.toList) '=' = _
      simp [step, other, afterName, gap, delimits_equals, sensitive]
    rw [Transducer.write_cons, Transducer.after_cons, delimited]
    by_cases empty : pair.value = ""
    · have shown : pair.shown = pair.rendered := if_neg fun both => both.2 empty
      rw [shown, split, empty]
      exact ⟨rfl, Or.inr (Or.inl rfl)⟩
    · have shown : pair.shown = pair.name ++ "=" ++ redacted := if_pos ⟨sensitive, empty⟩
      have some : pair.value.toList ≠ [] := fun none => empty (String.toList_eq_nil_iff.mp none)
      rcases @masks_bare unicode _ some pair.inside with ⟨written, reached⟩
      rw [shown, written, reached]
      constructor
      · simp [String.toList_append]
      · exact Or.inr (Or.inr (Or.inl rfl))
  · have shown : pair.shown = pair.rendered := if_neg fun both => sensitive both.1
    have delimited : (scanner unicode).step (.token pair.name.toList) '=' = (['='], .names) := by
      change step unicode (.token pair.name.toList) '=' = _
      simp [step, other, afterName, gap, sensitive, startName]
    rcases @copies_value unicode .names _ (Or.inl rfl) pair.inside
        (pair.plain (Bool.eq_false_iff.mpr sensitive)) with ⟨written, reached⟩
    rw [Transducer.write_cons, Transducer.after_cons, delimited, shown, split]
    constructor
    · rw [written]
      rfl
    · rcases reached with names | ⟨key, inName⟩
      · exact Or.inl names
      · exact Or.inr (Or.inr (Or.inr ⟨key, inName⟩))

/-- A query string is shown pair by pair, with the sensitive values masked. -/
theorem redact_queryString (pairs : List (QueryPair unicode)) :
    redactSensitiveValues unicode (queryString (pairs.map QueryPair.rendered)) =
      queryString (pairs.map QueryPair.shown) := by
  have read := @Transducer.write_intercalate Mode Char Char (scanner unicode) _ .names ['&'] ['&']
    (fun pair : QueryPair unicode => pair.rendered.toList) (fun pair => pair.shown.toList) pairs
    (fun pair _ => (reads_pair pair).1) (fun pair _ => ampersand_parts (reads_pair pair).2)
  unfold redactSensitiveValues queryString
  rw [redactChars_eq_write, String.toList_intercalate, List.map_map]
  apply String.toList_inj.mp
  rw [String.toList_ofList, String.toList_intercalate, List.map_map]
  exact read

end Query

section Alignment

variable {unicode : Unicode} {before text shown value rest : List Char}

/-- A text that ends with a sensitive name, a gap, a delimiter and blanks.  The
name is a maximal run: no character of a name stands in front of it, and what
comes behind it belongs to no name. -/
structure Announces (unicode : Unicode) (lead : List Char) : Prop where
  split : Exists fun outer => Exists fun name => Exists fun gap => Exists fun delimiter =>
    Exists fun padding =>
      lead = outer ++ name ++ gap ++ [delimiter] ++ padding ∧
      (forall last, outer.getLast? = some last -> isKeyChar unicode last = false) ∧
      name ≠ [] ∧
      (forall character, character ∈ name -> isKeyChar unicode character = true) ∧
      isSensitiveKey unicode name = true ∧
      (forall character, character ∈ gap -> isGap character = true) ∧
      isDelimiter delimiter = true ∧
      (forall character, character ∈ padding -> isBlank character = true)

/-- A value without quotes goes up to a terminator or the end of the text. -/
def EndsBare (value rest : List Char) : Prop :=
  (forall character, character ∈ value -> isValueTerminator character = false) ∧
    forall first, rest.head? = some first -> isValueTerminator first = true

/-- A value after a quote goes up to the same quote or the end of the text. -/
def EndsQuoted (quote : Char) (value rest : List Char) : Prop :=
  (forall character, character ∈ value -> character ≠ quote) ∧
    forall first, rest.head? = some first -> first = quote

/-- The part of a text that may be masked, between what is before and after it. -/
def Maskable (unicode : Unicode) (before value rest : List Char) : Prop :=
  value ≠ [] ∧
    ((Announces unicode before ∧ EndsBare value rest) ∨
      Exists fun lead => Exists fun quote => before = lead ++ [quote] ∧ isQuote quote = true ∧
        Announces unicode lead ∧ EndsQuoted quote value rest)

/-- The shown text is the text with some parts replaced by the placeholder and
every other character kept, in order. -/
inductive Aligned (unicode : Unicode) : List Char -> List Char -> List Char -> Prop
  | done (before : List Char) : Aligned unicode before [] []
  | keep {before text shown : List Char} (character : Char)
      (later : Aligned unicode (before ++ [character]) text shown) :
      Aligned unicode before (character :: text) (character :: shown)
  | mask {before value rest shown : List Char} (maskable : Maskable unicode before value rest)
      (later : Aligned unicode (before ++ value) rest shown) :
      Aligned unicode before (value ++ rest) (redacted.toList ++ shown)

theorem Aligned.keeps {part : List Char} (later : Aligned unicode (before ++ part) text shown) :
    Aligned unicode before (part ++ text) (part ++ shown) := by
  induction part generalizing before with
  | nil =>
      rw [List.append_nil] at later
      exact later
  | cons character part inductionHypothesis =>
      apply Aligned.keep
      apply inductionHypothesis
      rw [List.append_assoc]
      exact later

/-- Where nothing may be masked, nothing is changed. -/
theorem Aligned.unchanged (aligned : Aligned unicode before text shown)
    (silent : forall lead, lead <+: before ++ text -> ¬ Announces unicode lead) :
    shown = text := by
  induction aligned with
  | done before => rfl
  | @keep before text shown character later inductionHypothesis =>
      rw [List.append_assoc] at inductionHypothesis
      rw [inductionHypothesis silent]
  | @mask before value rest shown maskable later inductionHypothesis =>
      rcases maskable.2 with ⟨announced, -⟩ | ⟨lead, quote, split, -, announced, -⟩
      · exact absurd announced (silent before (List.prefix_append before _))
      · apply absurd announced (silent lead _)
        rw [split, List.append_assoc]
        exact List.prefix_append lead _

/-- A name that starts here is not the rest of a longer one. -/
def Fresh (unicode : Unicode) (before text : List Char) : Prop :=
  forall first, text.head? = some first -> isKeyChar unicode first = true ->
    forall last, before.getLast? = some last -> isKeyChar unicode last = false

theorem fresh_of_other
    (other : forall first, text.head? = some first -> isKeyChar unicode first = false) :
    Fresh unicode before text := by
  intro first head name
  rw [other first head] at name
  cases name

theorem fresh_after {character : Char} (other : isKeyChar unicode character = false) :
    Fresh unicode (before ++ [character]) text := by
  intro first head name last found
  rw [List.getLast?_concat] at found
  cases found
  exact other

/-- An empty value is left as it is, any other one is masked. -/
theorem Aligned.masks (maskable : value ≠ [] -> Maskable unicode before value rest)
    (later : Aligned unicode (before ++ value) rest shown) :
    Aligned unicode before (value ++ rest) (Redact.mask value ++ shown) := by
  cases value with
  | nil =>
      rw [List.append_nil] at later
      exact later
  | cons first others =>
      have some : first :: others ≠ [] := List.cons_ne_nil first others
      exact Aligned.mask (maskable some) later

/-- The scanner masks a value between quotes and goes on behind the quote. -/
theorem aligned_quoted {quote : Char} (announced : Announces unicode before)
    (quotes : isQuote quote = true)
    (later : forall before', Fresh unicode before' ((text.dropWhile (· != quote)).drop 1) ->
      Aligned unicode before' ((text.dropWhile (· != quote)).drop 1) shown) :
    Aligned unicode before (quote :: text)
      (quote :: (Redact.mask (text.takeWhile (· != quote)) ++
        (text.dropWhile (· != quote)).take 1 ++ shown)) := by
  have inside : forall character, character ∈ text.takeWhile (· != quote) ->
      character ≠ quote := by
    intro character among
    simpa using List.mem_takeWhile_imp among
  have closes : forall first, (text.dropWhile (· != quote)).head? = some first ->
      first = quote := by
    intro first head
    simpa using stops_dropWhile head
  have behind : forall before', Aligned unicode before' (text.dropWhile (· != quote))
      ((text.dropWhile (· != quote)).take 1 ++ shown) := by
    intro before'
    cases closing : text.dropWhile (· != quote) with
    | nil =>
        rw [closing] at later
        exact later before' (fresh_of_other nofun)
    | cons first others =>
        rw [closing] at later closes
        apply Aligned.keep
        apply later
        rw [closes first rfl]
        exact fresh_after (not_key_of_gap (gap_of_quote quotes))
  apply Aligned.keep
  rw [List.append_assoc]
  conv => arg 3; rw [← @List.takeWhile_append_dropWhile _ (· != quote) text]
  apply Aligned.masks
  · intro some
    exact ⟨some, Or.inr ⟨before, quote, rfl, quotes, announced, inside, closes⟩⟩
  · exact behind _

/-- The scanner masks a value without quotes and goes on at its terminator. -/
theorem aligned_bare (announced : Announces unicode before)
    (later : forall before', Fresh unicode before' (text.dropWhile (!isValueTerminator ·)) ->
      Aligned unicode before' (text.dropWhile (!isValueTerminator ·)) shown) :
    Aligned unicode before text
      (Redact.mask (text.takeWhile (!isValueTerminator ·)) ++ shown) := by
  have inside : forall character, character ∈ text.takeWhile (!isValueTerminator ·) ->
      isValueTerminator character = false := by
    intro character among
    simpa using List.mem_takeWhile_imp among
  have ends : forall first, (text.dropWhile (!isValueTerminator ·)).head? = some first ->
      isValueTerminator first = true := by
    intro first head
    simpa using stops_dropWhile head
  conv => arg 3; rw [← @List.takeWhile_append_dropWhile _ (!isValueTerminator ·) text]
  apply Aligned.masks
  · intro some
    exact ⟨some, Or.inl ⟨announced, inside, ends⟩⟩
  · apply later
    apply fresh_of_other
    exact fun first head => not_key_of_terminator (ends first head)

theorem aligned_value (announced : Announces unicode before)
    (later : forall before', Fresh unicode before' (redactValue text).2 ->
      Aligned unicode before' (redactValue text).2 shown) :
    Aligned unicode before text ((redactValue text).1 ++ shown) := by
  cases text with
  | nil => exact later before (fresh_of_other nofun)
  | cons opening rest =>
      by_cases quoted : isQuote opening = true
      · simp only [redactValue, quoted, if_true] at later ⊢
        exact aligned_quoted announced quoted later
      · simp only [redactValue, quoted] at later ⊢
        exact aligned_bare announced later

/-- The name, the gap, the delimiter and the blanks in front of a value. -/
theorem announces_lead {first : Char} {rest : List Char} {outer : List Char}
    (fresh : Fresh unicode outer (first :: rest)) (named : isKeyChar unicode first = true)
    (sensitive : (((rest.dropWhile (isKeyChar unicode)).dropWhile isGap).head?.any isDelimiter &&
      isSensitiveKey unicode (first :: rest.takeWhile (isKeyChar unicode))) = true) :
    Announces unicode (outer ++ ((first :: rest.takeWhile (isKeyChar unicode)) ++
      (rest.dropWhile (isKeyChar unicode)).takeWhile isGap ++
      ((rest.dropWhile (isKeyChar unicode)).dropWhile isGap).take 1 ++
      (((rest.dropWhile (isKeyChar unicode)).dropWhile isGap).drop 1).takeWhile isBlank)) := by
  rcases Bool.and_eq_true_iff.mp sensitive with ⟨delimits, secret⟩
  cases ahead : (rest.dropWhile (isKeyChar unicode)).dropWhile isGap with
  | nil =>
      rw [ahead] at delimits
      cases delimits
  | cons delimiter padded =>
      rw [ahead] at delimits
      refine ⟨outer, first :: rest.takeWhile (isKeyChar unicode),
        (rest.dropWhile (isKeyChar unicode)).takeWhile isGap, delimiter, padded.takeWhile isBlank,
        ?_, ?_, List.cons_ne_nil _ _, ?_, secret, ?_, delimits, ?_⟩
      · simp only [List.append_assoc]
        rfl
      · exact fresh first rfl named
      · intro character among
        rcases List.mem_cons.mp among with rfl | later
        · exact named
        · exact List.mem_takeWhile_imp later
      · exact fun character among => List.mem_takeWhile_imp among
      · exact fun character among => List.mem_takeWhile_imp among

/-- The redaction of the rest of a text, wherever the text is cut between names. -/
theorem aligned_redactChars (unicode : Unicode) (text : List Char) : forall before,
    Fresh unicode before text -> Aligned unicode before text (redactChars unicode text) := by
  induction text using redactChars.induct unicode with
  | case1 =>
      intro before fresh
      rw [redactChars]
      exact Aligned.done before
  | case2 first rest other inductionHypothesis =>
      intro before fresh
      have plain : isKeyChar unicode first = false := by simpa using other
      rw [redactChars, if_pos other]
      exact Aligned.keep first (inductionHypothesis _ (fresh_after plain))
  | case3 first rest name key after ahead sensitive padded value inductionHypothesis =>
      intro before fresh
      have named : isKeyChar unicode first = true := by simpa using name
      have parts : first :: rest = (key ++ after.takeWhile isGap ++ ahead.take 1 ++
          padded.takeWhile isBlank) ++ padded.dropWhile isBlank := by
        simp only [key, after, ahead, padded, List.append_assoc,
          List.takeWhile_append_dropWhile, List.take_append_drop, List.cons_append]
      rw [redactChars, if_neg name, if_pos sensitive]
      change Aligned unicode before (first :: rest) (key ++ after.takeWhile isGap ++
        ahead.take 1 ++ padded.takeWhile isBlank ++ value.1 ++ redactChars unicode value.2)
      rw [List.append_assoc _ value.1, parts]
      apply Aligned.keeps
      exact aligned_value (announces_lead fresh named sensitive) inductionHypothesis
  | case4 first rest name key after ahead plain inductionHypothesis =>
      intro before fresh
      have parts : first :: rest = key ++ after := by
        simp only [key, after, List.cons_append, List.takeWhile_append_dropWhile]
      rw [redactChars, if_neg name, if_neg plain]
      change Aligned unicode before (first :: rest) (key ++ redactChars unicode after)
      rw [parts]
      apply Aligned.keeps
      apply inductionHypothesis
      apply fresh_of_other
      exact fun next head => stops_dropWhile head

/-- Redaction replaces values of sensitive names, and changes nothing else. -/
theorem redactSensitiveValues_aligned (unicode : Unicode) (input : String) :
    Aligned unicode [] input.toList (redactSensitiveValues unicode input).toList ∧
      ((forall lead, lead <+: input.toList -> ¬ Announces unicode lead) ->
        redactSensitiveValues unicode input = input) := by
  have aligned : Aligned unicode [] input.toList (redactSensitiveValues unicode input).toList := by
    unfold redactSensitiveValues
    rw [String.toList_ofList]
    exact aligned_redactChars unicode input.toList [] fun _ _ _ _ => nofun
  refine ⟨aligned, ?_⟩
  intro silent
  exact String.toList_inj.mp (aligned.unchanged silent)

end Alignment

end Redact
end KrakenUi
