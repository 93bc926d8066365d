import KrakenUi.Guarantees.Masking
import KrakenUi.Json.Flat

namespace KrakenUi
namespace Redact

open Automata Json

/-!
# Redaction of JSON evidence

The scanner knows quotes but no escapes.  A quote inside a string of a sensitive
key is written with a backslash, and the scanner takes it for the end of the
value: what follows it is read as plain text.  So two objects that differ in
sensitive strings only are shown alike when these strings agree from their first
quote on, in particular when they have none.

Everything else of an object keeps the scanner in step.  When it comes to the
next member it is between names, or inside a value of an earlier string that an
apostrophe opened and nothing has closed.
-/

variable {unicode : Unicode}

/-- A member of two objects that differ in sensitive strings only. -/
inductive Change (unicode : Unicode) where
  | same (key : String)
      (keys : forall character, character ∈ key.toList -> isKeyChar unicode character = true)
      (value : Value)
  | changed (key : String)
      (keys : forall character, character ∈ key.toList -> isKeyChar unicode character = true)
      (sensitive : isSensitiveKey unicode key.toList = true)
      (first second : String) (firstSome : first ≠ "") (secondSome : second ≠ "")

namespace Change

def left : Change unicode -> Member
  | same key _ value => ⟨key, value⟩
  | changed key _ _ first _ _ _ => ⟨key, .string first⟩

def right : Change unicode -> Member
  | same key _ value => ⟨key, value⟩
  | changed key _ _ _ second _ _ => ⟨key, .string second⟩

/-- The quote that ends the value of a member, for a scanner at the comma before
it: an apostrophe, if the value is inside one that an apostrophe opened. -/
def endingQuote (mode : Mode) : Char :=
  if mode = .quoted '\'' then '\'' else '"'

/-- The two strings agree from the first quote on that would end them. -/
def Sealed (mode : Mode) : Change unicode -> Prop
  | same _ _ _ => True
  | changed _ _ _ first second _ _ =>
      (escape first.toList).dropWhile (· != endingQuote mode) =
        (escape second.toList).dropWhile (· != endingQuote mode)

end Change

/-- Every change is sealed for a scanner that comes from the left. -/
def SealedFrom (mode : Mode) : List (Change unicode) -> Prop
  | [] => True
  | change :: rest => change.Sealed mode ∧
      SealedFrom ((scanner unicode).after mode (change.left.chars ++ [','])) rest

section Members

variable {mode : Mode}

/-- Where the scanner is when a member begins. -/
def Starting (mode : Mode) : Prop :=
  mode = .names ∨ mode = .quoted '"' ∨ mode = .quoted '\''

/-- Outside of values. -/
def Plain : Mode -> Prop
  | .names | .token _ | .gap _ => True
  | _ => False

theorem step_quoted {quote character : Char} (other : character ≠ quote) :
    (scanner unicode).step (.quoted quote) character = ([], .quoted quote) :=
  if_neg (by simpa using other)

theorem plain_cases (plain : Plain mode) :
    mode = .names ∨ (Exists fun key => mode = .token key) ∨ Exists fun key => mode = .gap key := by
  cases mode with
  | names => exact Or.inl rfl
  | token key => exact Or.inr (Or.inl ⟨key, rfl⟩)
  | gap key => exact Or.inr (Or.inr ⟨key, rfl⟩)
  | padding => cases plain
  | bare => cases plain
  | opened quote => cases plain
  | quoted quote => cases plain

theorem plain_startName (character : Char) : Plain (startName unicode character).2 := by
  unfold startName
  split <;> exact True.intro

/-- Outside of values only a delimiter begins one. -/
theorem plain_step {character : Char} (other : isDelimiter character = false) (plain : Plain mode) :
    Plain ((scanner unicode).step mode character).2 := by
  have afterwards : forall key, Plain (afterName unicode key character).2 := by
    intro key
    unfold afterName
    rw [other]
    split
    · exact True.intro
    · exact plain_startName character
  cases mode with
  | names => exact plain_startName character
  | token key =>
      by_cases name : isKeyChar unicode character = true
      · have moved : (scanner unicode).step (.token key) character =
            ([character], .token (key ++ [character])) := if_pos name
        rw [moved]
        exact True.intro
      · have moved : (scanner unicode).step (.token key) character =
            afterName unicode key character := if_neg name
        rw [moved]
        exact afterwards key
  | gap key => exact afterwards key
  | padding => cases plain
  | bare => cases plain
  | opened quote => cases plain
  | quoted quote => cases plain

theorem plain_after {text : List Char} (plain : Plain mode)
    (others : forall character, character ∈ text -> isDelimiter character = false) :
    Plain ((scanner unicode).after mode text) :=
  Transducer.after_along (fun character among _ holds => plain_step (others character among) holds)
    plain

/-- The comma between members is behind the value of a string. -/
theorem starts_string (quoting : Quoting mode) :
    Starting ((scanner unicode).after mode ['"', ',']) := by
  have quote : isKeyChar unicode '"' = false := not_key_of_structural (by decide)
  have comma : isKeyChar unicode ',' = false := not_key_of_structural (by decide)
  have quoteGap : isGap '"' = true := rfl
  have commaGap : isGap ',' = false := rfl
  have commaDelimiter : isDelimiter ',' = false := rfl
  have commaEnds : isValueTerminator ',' = true := rfl
  have quoteEnds : isValueTerminator '"' = true := rfl
  have quoteBlank : isBlank '"' = false := rfl
  have quoteQuotes : isQuote '"' = true := rfl
  change Starting (step unicode (step unicode mode '"').2 ',').2
  cases mode with
  | names => exact Or.inl (by simp [step, startName, quote, comma])
  | token key =>
      exact Or.inl (by simp [step, afterName, startName, quote, comma, quoteGap, commaGap,
        commaDelimiter])
  | gap key =>
      exact Or.inl (by simp [step, afterName, startName, comma, quoteGap, commaGap,
        commaDelimiter])
  | padding =>
      exact Or.inr (Or.inl (by simp [step, quoteBlank, quoteQuotes, untilQuote]))
  | bare => exact Or.inl (by simp [step, quoteEnds, startName, comma])
  | opened first =>
      have quotes : first = '"' ∨ first = '\'' := by
        simpa [Quoting, isQuote] using quoting
      rcases quotes with rfl | rfl
      · exact Or.inl (by simp [step, untilQuote, startName, comma])
      · exact Or.inr (Or.inr (by simp [step, untilQuote]))
  | quoted first =>
      have quotes : first = '"' ∨ first = '\'' := by
        simpa [Quoting, isQuote] using quoting
      rcases quotes with rfl | rfl
      · exact Or.inl (by simp [step, untilQuote, startName, comma])
      · exact Or.inr (Or.inr (by simp [step, untilQuote]))

/-- The comma between members is behind any value that is not a string. -/
theorem starts_literal {text : List Char}
    (plain : forall character, character ∈ text -> isLiteralChar character = true)
    (valued : mode = .names ∨ mode = .padding ∨ mode = .quoted '\'') :
    Starting ((scanner unicode).after mode (text ++ [','])) := by
  have literal : forall {character : Char}, isLiteralChar character = true ->
      isValueTerminator character = false ∧ isDelimiter character = false ∧ character ≠ '\'' := by
    intro character accepted
    refine ⟨?_, ?_, ?_⟩
    · rw [Bool.eq_false_iff]
      intro terminates
      have never : forall other, other ∈ structural -> isLiteralChar other = false := by decide
      rw [never character (structural_of_terminator terminates)] at accepted
      cases accepted
    · rw [Bool.eq_false_iff]
      intro delimits
      have never : forall other, other ∈ structural -> isLiteralChar other = false := by decide
      rw [never character (structural_of_delimiter delimits)] at accepted
      cases accepted
    · rintro rfl
      revert accepted
      decide
  have comma : isKeyChar unicode ',' = false := not_key_of_structural (by decide)
  have commaGap : isGap ',' = false := rfl
  have commaDelimiter : isDelimiter ',' = false := rfl
  have commaEnds : isValueTerminator ',' = true := rfl
  have commaBlank : isBlank ',' = false := rfl
  have commaQuote : isQuote ',' = false := rfl
  rw [Transducer.after_append]
  rcases valued with rfl | rfl | rfl
  · have start : Plain .names := True.intro
    have outside : Plain ((scanner unicode).after .names text) :=
      plain_after start fun character among => (literal (plain character among)).2.1
    change Starting (step unicode ((scanner unicode).after .names text) ',').2
    apply Or.inl
    rcases plain_cases outside with reached | ⟨key, reached⟩ | ⟨key, reached⟩
    · simp [reached, step, startName, comma]
    · simp [reached, step, afterName, startName, comma, commaGap, commaDelimiter]
    · simp [reached, step, afterName, startName, comma, commaGap, commaDelimiter]
  · apply Or.inl
    cases text with
    | nil =>
        change (step unicode .padding ',').2 = .names
        simp [step, commaBlank, commaQuote, commaEnds]
    | cons first rest =>
        have bare := (@masks_bare unicode _ (List.cons_ne_nil first rest) fun character among =>
          (literal (plain character among)).1).2
        rw [bare]
        change (step unicode .bare ',').2 = .names
        simp [step, commaEnds]
  · apply Or.inr
    apply Or.inr
    have kept := (@skips_quoted unicode text '\'' fun character among =>
      (literal (plain character among)).2.2).2
    rw [kept]
    exact congrArg Prod.snd (step_quoted (by decide))

theorem quoting_afterAny {text : List Char} (quoting : Quoting mode) :
    Quoting ((scanner unicode).after mode text) :=
  Transducer.after_keeps (fun state character => quoting_step state character) quoting text

/-- A key has nothing to escape. -/
theorem escape_key {key : List Char}
    (keys : forall character, character ∈ key -> isKeyChar unicode character = true) :
    escape key = key := by
  apply escape_plain
  intro character among
  have named := keys character among
  have ascii : character.toNat < 128 -> Text.isAsciiAlphanumeric character = true ∨
      character = '_' ∨ character = '-' := by
    intro small
    unfold isKeyChar at named
    rw [unicode.alphanumeric_ascii character small] at named
    simpa [or_assoc] using named
  refine ⟨?_, ?_, ?_⟩
  · rintro rfl
    exact absurd (ascii (by decide)) (by decide)
  · rintro rfl
    exact absurd (ascii (by decide)) (by decide)
  · by_contra control
    have codes : forall code, code < 32 ->
        Text.isAsciiAlphanumeric (Char.ofNat code) = false ∧ Char.ofNat code ≠ '_' ∧
          Char.ofNat code ≠ '-' := by decide
    rcases codes character.toNat (by omega) with ⟨other, underscore, hyphen⟩
    rw [Char.ofNat_toNat] at other underscore hyphen
    rcases ascii (by omega) with letter | same | same
    · rw [other] at letter
      cases letter
    · exact underscore same
    · exact hyphen same

/-- A character of a name is no delimiter and no apostrophe. -/
theorem key_apart {character : Char} (key : isKeyChar unicode character = true) :
    isDelimiter character = false ∧ character ≠ '\'' := by
  constructor
  · rw [Bool.eq_false_iff]
    intro delimits
    rw [not_key_of_delimiter delimits] at key
    cases key
  · rintro rfl
    rw [not_key_of_structural (by decide)] at key
    cases key

/-- Inside an apostrophe the scanner reads over the lead of a member. -/
theorem skips_lead {key : String}
    (keys : forall character, character ∈ key.toList -> isKeyChar unicode character = true) :
    (scanner unicode).write (.quoted '\'') (Member.lead key) = [] ∧
      (scanner unicode).after (.quoted '\'') (Member.lead key) = .quoted '\'' := by
  apply skips_quoted
  unfold Member.lead
  rw [escape_key keys]
  intro character among
  rcases List.mem_cons.mp among with rfl | later
  · decide
  · rcases List.mem_append.mp later with inKey | behind
    · exact (key_apart (keys character inKey)).2
    · have apart : forall other, other ∈ ['"', ':'] -> other ≠ '\'' := by decide
      exact apart character behind

/-- The quote in front of a key is read between names. -/
theorem enters_key (outside : mode = .names ∨ mode = .quoted '"') :
    (scanner unicode).step mode '"' = (['"'], .names) := by
  rcases outside with rfl | rfl
  · exact step_names (not_key_of_structural (by decide))
  · have closed : step unicode (.quoted '"') '"' = (['"'], .names) := by
      simp [step, untilQuote]
    exact closed

/-- Behind the colon the scanner is in front of a value. -/
theorem valued_lead {key : String}
    (keys : forall character, character ∈ key.toList -> isKeyChar unicode character = true)
    (starting : Starting mode) :
    (scanner unicode).after mode (Member.lead key) = .names ∨
      (scanner unicode).after mode (Member.lead key) = .padding ∨
      (scanner unicode).after mode (Member.lead key) = .quoted '\'' := by
  have outside : mode = .names ∨ mode = .quoted '"' ->
      (scanner unicode).after mode (Member.lead key) = .names ∨
        (scanner unicode).after mode (Member.lead key) = .padding := by
    intro entering
    have plain : Plain ((scanner unicode).after .names (key.toList ++ ['"'])) := by
      have start : Plain .names := True.intro
      apply plain_after start
      intro character among
      rcases List.mem_append.mp among with inKey | quote
      · exact (key_apart (keys character inKey)).1
      · rw [List.mem_singleton.mp quote]
        rfl
    have colon : isKeyChar unicode ':' = false := not_key_of_structural (by decide)
    have colonGap : isGap ':' = false := rfl
    have split : Member.lead key = '"' :: ((key.toList ++ ['"']) ++ [':']) := by
      unfold Member.lead
      rw [escape_key keys, List.append_assoc]
      rfl
    rw [split, Transducer.after_cons, enters_key entering, Transducer.after_append]
    change (step unicode _ ':').2 = .names ∨ (step unicode _ ':').2 = .padding
    have afterwards : forall name, (afterName unicode name ':').2 = .names ∨
        (afterName unicode name ':').2 = .padding := by
      intro name
      by_cases announced : (isDelimiter ':' && isSensitiveKey unicode name) = true
      · exact Or.inr (by simp [afterName, colonGap, announced])
      · exact Or.inl (by simp [afterName, colonGap, announced, startName, colon])
    rcases plain_cases plain with reached | ⟨name, reached⟩ | ⟨name, reached⟩
    · exact Or.inl (by simp [reached, step, startName, colon])
    · have moved : step unicode (.token name) ':' = afterName unicode name ':' := by
        simp [step, colon]
      rw [reached, moved]
      exact afterwards name
    · rw [reached]
      exact afterwards name
  rcases starting with names | quoted | apostrophe
  · exact (outside (Or.inl names)).imp id Or.inl
  · exact (outside (Or.inr quoted)).imp id Or.inl
  · rw [apostrophe]
    exact Or.inr (Or.inr (skips_lead keys).2)

/-- The scanner is in step again at the next member. -/
theorem starts_member {key : String} {value : Value}
    (keys : forall character, character ∈ key.toList -> isKeyChar unicode character = true)
    (starting : Starting mode) :
    Starting ((scanner unicode).after mode ((Member.mk key value).chars ++ [','])) := by
  have valued := valued_lead keys starting
  unfold Member.chars
  rw [List.append_assoc, Transducer.after_append]
  cases value with
  | literal text plain => exact starts_literal plain valued
  | string text =>
      have quoting : Quoting ((scanner unicode).after mode (Member.lead key)) := by
        rcases valued with names | padding | apostrophe
        · rw [names]
          exact True.intro
        · rw [padding]
          exact True.intro
        · rw [apostrophe]
          rfl
      have split : (Value.string text).chars ++ [','] =
          ('"' :: escape text.toList) ++ ['"', ','] := by
        simp [Value.chars]
      rw [split, Transducer.after_append]
      exact starts_string (quoting_afterAny quoting)

/-- In front of the string of a sensitive key, and behind its quote, the scanner
is inside a value that this quote or an earlier apostrophe has opened. -/
theorem enters_string {key : String}
    (keys : forall character, character ∈ key.toList -> isKeyChar unicode character = true)
    (sensitive : isSensitiveKey unicode key.toList = true) (starting : Starting mode) :
    (scanner unicode).after mode (Member.lead key ++ ['"']) =
      if mode = .quoted '\'' then .quoted '\'' else .opened '"' := by
  have outside : mode = .names ∨ mode = .quoted '"' ->
      (scanner unicode).after mode (Member.lead key ++ ['"']) = .opened '"' := by
    intro entering
    have named : key.toList ≠ [] := by
      intro empty
      have lower := unicode.lowercase_ascii [] nofun
      rw [empty] at sensitive
      unfold isSensitiveKey at sensitive
      change (let name := unicode.toLowercase []
        if name.isEmpty then false
        else sensitiveWords.any fun word => decide (word.toList <:+: name)) = true at sensitive
      rw [lower] at sensitive
      cases sensitive
    have quote : isKeyChar unicode '"' = false := not_key_of_structural (by decide)
    have colonGap : isGap ':' = false := rfl
    have colonDelimiter : isDelimiter ':' = true := rfl
    have quoteGap : isGap '"' = true := rfl
    have quoteBlank : isBlank '"' = false := rfl
    have quoteQuotes : isQuote '"' = true := rfl
    have split : Member.lead key ++ ['"'] = '"' :: (key.toList ++ ['"', ':', '"']) := by
      unfold Member.lead
      rw [escape_key keys, List.cons_append, List.append_assoc]
      rfl
    rw [split, Transducer.after_cons, enters_key entering, Transducer.after_append,
      (reads_name named keys).2]
    change (step unicode (step unicode (step unicode (.token key.toList) '"').2 ':').2 '"').2 =
      .opened '"'
    simp [step, afterName, quote, quoteGap, colonGap, colonDelimiter, sensitive, quoteBlank,
      quoteQuotes]
  rcases starting with rfl | rfl | rfl
  · exact outside (Or.inl rfl)
  · exact outside (Or.inr rfl)
  · rw [if_pos rfl, Transducer.after_append, (skips_lead keys).2]
    exact congrArg Prod.snd (step_quoted (by decide))

end Members

section Objects

variable {mode : Mode}

/-- Two values are masked alike if they agree from the quote on that ends them. -/
theorem masks_alike {quote : Char} {first second : List Char}
    (inside : mode = .quoted quote ∨ (mode = .opened quote ∧
      first.takeWhile (· != quote) ≠ [] ∧ second.takeWhile (· != quote) ≠ []))
    (same : first.dropWhile (· != quote) = second.dropWhile (· != quote)) :
    (scanner unicode).write mode first = (scanner unicode).write mode second ∧
      (scanner unicode).after mode first = (scanner unicode).after mode second := by
  have unquoted : forall text : List Char, forall character,
      character ∈ text.takeWhile (· != quote) -> character ≠ quote := by
    intro text character among
    simpa using List.mem_takeWhile_imp among
  have masked : Exists fun written => forall text, (text = first ∨ text = second) ->
      (scanner unicode).write mode (text.takeWhile (· != quote)) = written ∧
        (scanner unicode).after mode (text.takeWhile (· != quote)) = .quoted quote := by
    rcases inside with rfl | ⟨rfl, firstSome, secondSome⟩
    · exact ⟨[], fun text _ => skips_quoted (unquoted text)⟩
    · refine ⟨redacted.toList, ?_⟩
      rintro text (rfl | rfl)
      · exact masks_quoted firstSome (unquoted text)
      · exact masks_quoted secondSome (unquoted text)
  rcases masked with ⟨written, masked⟩
  have parts : forall text, (text = first ∨ text = second) ->
      (scanner unicode).write mode text =
          written ++ (scanner unicode).write (.quoted quote) (text.dropWhile (· != quote)) ∧
        (scanner unicode).after mode text =
          (scanner unicode).after (.quoted quote) (text.dropWhile (· != quote)) := by
    intro text either
    rcases masked text either with ⟨shown, reached⟩
    constructor
    · conv => lhs; rw [← @List.takeWhile_append_dropWhile _ (· != quote) text]
      rw [Transducer.write_append, shown, reached]
    · conv => lhs; rw [← @List.takeWhile_append_dropWhile _ (· != quote) text]
      rw [Transducer.after_append, reached]
  rcases parts first (Or.inl rfl) with ⟨firstWritten, firstReached⟩
  rcases parts second (Or.inr rfl) with ⟨secondWritten, secondReached⟩
  rw [firstWritten, firstReached, secondWritten, secondReached, same]
  exact ⟨rfl, rfl⟩

theorem escape_unquoted {text : String} (some : text ≠ "") :
    (escape text.toList).takeWhile (· != '"') ≠ [] := by
  have nonempty : text.toList ≠ [] := fun none => some (String.toList_eq_nil_iff.mp none)
  rcases escape_starts nonempty with ⟨first, rest, starts, other⟩
  rw [starts, List.takeWhile_cons, if_pos (by simpa using other)]
  exact List.cons_ne_nil _ _

/-- A sealed member is shown alike on both sides, and leaves the scanner alike. -/
theorem alike_member {change : Change unicode} (starting : Starting mode)
    (isSealed : change.Sealed mode) :
    (scanner unicode).write mode change.left.chars =
        (scanner unicode).write mode change.right.chars ∧
      (scanner unicode).after mode change.left.chars =
        (scanner unicode).after mode change.right.chars := by
  cases change with
  | same key keys value => exact ⟨rfl, rfl⟩
  | changed key keys sensitive first second firstSome secondSome =>
      have entered := enters_string keys sensitive starting
      have split : forall text : String, (Member.mk key (.string text)).chars =
          (Member.lead key ++ ['"']) ++ (escape text.toList ++ ['"']) := by
        intro text
        simp [Member.chars, Value.chars]
      have alike : (scanner unicode).write
            ((scanner unicode).after mode (Member.lead key ++ ['"'])) (escape first.toList) =
          (scanner unicode).write
            ((scanner unicode).after mode (Member.lead key ++ ['"'])) (escape second.toList) ∧
          (scanner unicode).after
            ((scanner unicode).after mode (Member.lead key ++ ['"'])) (escape first.toList) =
          (scanner unicode).after
            ((scanner unicode).after mode (Member.lead key ++ ['"'])) (escape second.toList) := by
        unfold Change.Sealed Change.endingQuote at isSealed
        by_cases apostrophe : mode = .quoted '\''
        · rw [if_pos apostrophe] at entered isSealed
          rw [entered]
          exact masks_alike (Or.inl rfl) isSealed
        · rw [if_neg apostrophe] at entered isSealed
          rw [entered]
          exact masks_alike (Or.inr ⟨rfl, escape_unquoted firstSome, escape_unquoted secondSome⟩)
            isSealed
      change (scanner unicode).write mode (Member.mk key (.string first)).chars =
          (scanner unicode).write mode (Member.mk key (.string second)).chars ∧
        (scanner unicode).after mode (Member.mk key (.string first)).chars =
          (scanner unicode).after mode (Member.mk key (.string second)).chars
      rw [split, split]
      constructor
      · rw [Transducer.write_append, Transducer.write_append _ mode (Member.lead key ++ ['"'])]
        exact congrArg _ (Transducer.exchange alike.1 alike.2 ['"'])
      · rw [Transducer.after_append, Transducer.after_append _ mode (Member.lead key ++ ['"']),
          Transducer.after_append, Transducer.after_append _ _ (escape second.toList), alike.2]

/-- Members that are sealed one after the other are shown alike. -/
theorem alike_members {changes : List (Change unicode)} (starting : Starting mode)
    (isSealed : SealedFrom mode changes) (rest : List Char) :
    (scanner unicode).write mode
        ([','].intercalate (changes.map fun change => change.left.chars) ++ rest) =
      (scanner unicode).write mode
        ([','].intercalate (changes.map fun change => change.right.chars) ++ rest) := by
  induction changes generalizing mode with
  | nil => rfl
  | cons change others inductionHypothesis =>
      rcases isSealed with ⟨first, later⟩
      rcases alike_member starting first with ⟨written, reached⟩
      cases others with
      | nil =>
          rw [List.map_singleton, List.map_singleton, List.intercalate_singleton,
            List.intercalate_singleton]
          exact Transducer.exchange written reached rest
      | cons next others =>
          have again : Starting ((scanner unicode).after mode (change.left.chars ++ [','])) := by
            cases change with
            | same key keys value => exact starts_member keys starting
            | changed key keys sensitive first second firstSome secondSome =>
                exact starts_member keys starting
          have behind := inductionHypothesis again later
          rw [List.map_cons, List.map_cons] at behind ⊢
          rw [List.map_cons, List.map_cons, List.intercalate_cons_cons,
            List.intercalate_cons_cons, List.append_assoc,
            List.append_assoc (change.right.chars ++ [',']), Transducer.write_append, behind,
            ← Transducer.write_append, List.append_assoc, List.append_assoc]
          exact Transducer.exchange written reached _

/-- Two objects that differ in sealed sensitive strings only are shown alike. -/
theorem redact_object_alike (changes : List (Change unicode))
    (isSealed : SealedFrom .names changes) :
    redactSensitiveValues unicode (object (changes.map Change.left)) =
      redactSensitiveValues unicode (object (changes.map Change.right)) := by
  have other : isKeyChar unicode '{' = false := by
    unfold isKeyChar
    rw [unicode.alphanumeric_ascii '{' (by decide)]
    decide
  have brace : (scanner unicode).step .names '{' = (['{'], .names) := step_names other
  unfold redactSensitiveValues object objectChars
  rw [String.toList_ofList, String.toList_ofList, redactChars_eq_write, redactChars_eq_write,
    Transducer.write_cons, Transducer.write_cons, brace, List.map_map, List.map_map]
  exact congrArg (fun shown => String.ofList ('{' :: shown))
    (alike_members (Or.inl rfl) isSealed ['}'])

/-- The strings of a change have quotes of neither kind. -/
def Change.Unquoted : Change unicode -> Prop
  | same _ _ _ => True
  | changed _ _ _ first second _ _ => forall quote, quote = '"' ∨ quote = '\'' ->
      quote ∉ first.toList ∧ quote ∉ second.toList

/-- Without quotes every change is sealed, wherever the scanner is. -/
theorem sealed_of_unquoted {changes : List (Change unicode)}
    (unquoted : forall change, change ∈ changes -> change.Unquoted) : SealedFrom mode changes := by
  induction changes generalizing mode with
  | nil => exact True.intro
  | cons change rest inductionHypothesis =>
      constructor
      · cases change with
        | same key keys value => exact True.intro
        | changed key keys sensitive first second firstSome secondSome =>
            have absent := unquoted _ List.mem_cons_self
            have quotes : Change.endingQuote mode = '"' ∨ Change.endingQuote mode = '\'' := by
              unfold Change.endingQuote
              split
              · exact Or.inr rfl
              · exact Or.inl rfl
            have dropped : forall text : List Char, Change.endingQuote mode ∉ text ->
                (escape text).dropWhile (· != Change.endingQuote mode) = [] := by
              intro text missing
              apply List.dropWhile_eq_nil_iff.mpr
              intro character among
              rw [bne_iff_ne]
              rintro rfl
              exact missing (mem_escape_quote quotes among)
            change (escape first.toList).dropWhile _ = (escape second.toList).dropWhile _
            rw [dropped _ (absent _ quotes).1, dropped _ (absent _ quotes).2]
      · apply inductionHypothesis
        exact fun other among => unquoted other (List.mem_cons_of_mem change among)

end Objects

end Redact

namespace Sample

open Redact Json

/-- The value of the member `token` becomes another one. -/
def tokenChange (first second : String) (firstSome : first ≠ "") (secondSome : second ≠ "") :
    Change ascii :=
  .changed "token" (by decide) (by decide) first second firstSome secondSome

/-- A name with an apostrophe, and a token without quotes. -/
def sealedChanges : List (Change ascii) :=
  [.same "user" (by decide) (.string "O'Neil"), tokenChange "hunter2" "let\\me" (by decide)
    (by decide)]

theorem redact_object_alike_sealed : SealedFrom .names sealedChanges ∧
    redactSensitiveValues ascii (object (sealedChanges.map Change.left)) =
      redactSensitiveValues ascii (object (sealedChanges.map Change.right)) := by
  have isSealed : SealedFrom .names sealedChanges := by
    apply sealed_of_unquoted
    intro change among
    rcases List.mem_cons.mp among with rfl | token
    · exact True.intro
    · rw [List.mem_singleton.mp token]
      rintro quote (rfl | rfl)
      · decide
      · decide
  exact ⟨isSealed, redact_object_alike sealedChanges isSealed⟩

/-- A token with a quote in it, and one without. -/
def escapedChange : Change ascii :=
  tokenChange "a\"b" "c" (by decide) (by decide)

set_option maxRecDepth 10000 in
/-- The part of the token behind the quote is shown. -/
theorem escaped_token_shown :
    redactSensitiveValues ascii (object [escapedChange.left]) = "\x7b\"token\":\"+++++\"b\"\x7d" ∧
      redactSensitiveValues ascii (object [escapedChange.left]) ≠
        redactSensitiveValues ascii (object [escapedChange.right]) := by
  have shown : redactSensitiveValues ascii (object [escapedChange.left]) =
      "\x7b\"token\":\"+++++\"b\"\x7d" := by
    unfold redactSensitiveValues
    rw [redactChars_eq_write]
    decide
  have hidden : redactSensitiveValues ascii (object [escapedChange.right]) =
      "\x7b\"token\":\"+++++\"\x7d" := by
    unfold redactSensitiveValues
    rw [redactChars_eq_write]
    decide
  refine ⟨shown, ?_⟩
  rw [shown, hidden]
  decide

end Sample
end KrakenUi
