import KrakenUi.Security.RedactModes

namespace KrakenUi
namespace Redact

open Automata

/-!
# When a sensitive value is hidden

The value of a sensitive parameter is hidden when the text that is shown does
not depend on it.  Before the parameter the scanner can be inside a masked value
of an earlier parameter.  That value then swallows the name, and if it ends
before the delimiter or right after it, the value that the name announces is
read as plain text.
-/

/-- A sensitive name with its delimiter, and the text around it. -/
structure Parameter (unicode : Unicode) where
  pre : String
  name : String
  gap : String
  delimiter : Char
  padding : String
  suffix : String
  separated : forall last, pre.toList.getLast? = some last -> isKeyChar unicode last = false
  named : name.toList ≠ []
  keys : forall character, character ∈ name.toList -> isKeyChar unicode character = true
  sensitive : isSensitiveKey unicode name.toList = true
  gaps : forall character, character ∈ gap.toList -> isGap character = true
  delimits : isDelimiter delimiter = true
  blanks : forall character, character ∈ padding.toList -> isBlank character = true
  ends : forall first, suffix.toList.head? = some first -> isValueTerminator first = true

/-- A value that ends nowhere by itself. -/
structure IsValue (value : String) : Prop where
  nonempty : value.toList ≠ []
  inside : forall character, character ∈ value.toList -> isValueTerminator character = false

namespace Parameter

variable {unicode : Unicode} (parameter : Parameter unicode)

def text (value : String) : String :=
  parameter.pre ++ parameter.name ++ parameter.gap ++ String.singleton parameter.delimiter ++
    parameter.padding ++ value ++ parameter.suffix

/-- What is shown does not depend on the value. -/
def Hides : Prop :=
  forall first second, IsValue first -> IsValue second ->
    redactSensitiveValues unicode (parameter.text first) =
      redactSensitiveValues unicode (parameter.text second)

/-- Before the name the scanner is inside no masked value, or the masked value
goes on up to the end of this one. -/
def Reached : Prop :=
  match (scanner unicode).after .names parameter.pre.toList with
  | .names | .token _ | .gap _ => True
  | .padding | .bare => parameter.gap.toList = [] ∧ parameter.padding.toList = []
  | .opened quote | .quoted quote => quote ∉ parameter.gap.toList

/-- The name, and all up to the value. -/
def lead : List Char :=
  parameter.name.toList ++ parameter.gap.toList ++ [parameter.delimiter] ++
    parameter.padding.toList

theorem text_toList (value : String) :
    (parameter.text value).toList =
      parameter.pre.toList ++ (parameter.lead ++ value.toList ++ parameter.suffix.toList) := by
  simp [text, lead, String.toList_append]

end Parameter

section Modes

variable {unicode : Unicode} {text value : List Char} {mode : Mode} {quote : Char}

/-- Only quotes open a value between quotes. -/
def Quoting : Mode -> Prop
  | .opened quote | .quoted quote => isQuote quote = true
  | _ => True

theorem quoting_startName (character : Char) : Quoting (startName unicode character).2 := by
  unfold startName
  split <;> exact True.intro

theorem quoting_afterName (key : List Char) (character : Char) :
    Quoting (afterName unicode key character).2 := by
  unfold afterName
  split
  · exact True.intro
  · split
    · exact True.intro
    · exact quoting_startName character

theorem quoting_step (mode : Mode) (character : Char) (quoting : Quoting mode) :
    Quoting (step unicode mode character).2 := by
  cases mode with
  | names => exact quoting_startName character
  | token key =>
      simp only [step]
      split
      · exact True.intro
      · exact quoting_afterName key character
  | gap key => exact quoting_afterName key character
  | padding =>
      simp only [step]
      split
      · exact True.intro
      · split
        · assumption
        · split <;> exact True.intro
  | bare =>
      simp only [step]
      split <;> exact True.intro
  | opened quote =>
      simp only [step, untilQuote]
      split
      · exact True.intro
      · exact quoting
  | quoted quote =>
      simp only [step, untilQuote]
      split
      · exact True.intro
      · exact quoting

theorem quoting_after (text : List Char) :
    Quoting ((scanner unicode).after .names text) :=
  Transducer.after_keeps (fun mode character => quoting_step mode character) True.intro text

/-- A text that does not end within a name leaves the scanner outside of names. -/
theorem not_token_after {key : List Char}
    (separated : forall last, text.getLast? = some last -> isKeyChar unicode last = false) :
    (scanner unicode).after .names text ≠ .token key := by
  rcases List.eq_nil_or_concat text with rfl | ⟨start, last, rfl⟩
  · exact nofun
  · have other := separated last (by simp)
    rw [List.concat_eq_append, Transducer.after_append]
    change (step unicode _ last).2 ≠ .token key
    cases (scanner unicode).after .names start <;>
      simp only [step, afterName, startName, untilQuote, other] <;>
      grind

/-- A value is masked, and the scanner is inside of it. -/
theorem masks_bare (nonempty : value ≠ [])
    (inside : forall character, character ∈ value -> isValueTerminator character = false) :
    (scanner unicode).write .padding value = redacted.toList ∧
      (scanner unicode).after .padding value = .bare := by
  cases value with
  | nil => exact absurd rfl nonempty
  | cons first rest =>
      have other := inside first List.mem_cons_self
      have outside := not_gap_of_inside other
      have blank := not_blank_of_not_gap outside
      have quote := not_quote_of_not_gap outside
      have begun : (scanner unicode).step .padding first = (redacted.toList, .bare) := by
        change step unicode .padding first = _
        simp [step, blank, quote, other]
      rcases @skips_bare unicode rest fun character among => inside character
          (List.mem_cons_of_mem first among) with ⟨written, reached⟩
      rw [Transducer.write_cons, Transducer.after_cons, begun, written, reached]
      exact ⟨List.append_nil _, rfl⟩

theorem masks_quoted (nonempty : value ≠ [])
    (inside : forall character, character ∈ value -> character ≠ quote) :
    (scanner unicode).write (.opened quote) value = redacted.toList ∧
      (scanner unicode).after (.opened quote) value = .quoted quote := by
  cases value with
  | nil => exact absurd rfl nonempty
  | cons first rest =>
      have begun : (scanner unicode).step (.opened quote) first =
          (redacted.toList, .quoted quote) := by
        apply if_neg
        simpa using inside first List.mem_cons_self
      rcases @skips_quoted unicode rest quote fun character among => inside character
          (List.mem_cons_of_mem first among) with ⟨written, reached⟩
      rw [Transducer.write_cons, Transducer.after_cons, begun, written, reached]
      exact ⟨List.append_nil _, rfl⟩

/-- From the start of a sensitive name the scanner comes to its value. -/
theorem reaches_value (parameter : Parameter unicode)
    (searching : mode = .names ∨ Exists fun key => mode = .gap key) :
    (scanner unicode).after mode parameter.lead = .padding := by
  rcases List.exists_cons_of_ne_nil parameter.named with ⟨first, rest, spelled⟩
  have name : forall character, character ∈ first :: rest -> isKeyChar unicode character = true := by
    rw [← spelled]
    exact parameter.keys
  have start := name first List.mem_cons_self
  have begun : ((scanner unicode).step mode first).2 = .token [first] := by
    change (step unicode mode first).2 = .token [first]
    have outside := not_gap_of_inside (inside_of_key start)
    have other : isDelimiter first = false := by
      rw [Bool.eq_false_iff]
      intro delimits
      rw [not_key_of_delimiter delimits] at start
      cases start
    rcases searching with rfl | ⟨key, rfl⟩
    · simp [step, startName, start]
    · simp [step, afterName, startName, start, outside, other]
  have reading : (scanner unicode).after mode parameter.name.toList =
      .token parameter.name.toList := by
    rw [spelled, Transducer.after_cons, begun]
    exact (@copies_token unicode [first] rest fun character among =>
      name character (List.mem_cons_of_mem first among)).2
  have stops : isGap parameter.delimiter = false := by
    rw [Bool.eq_false_iff]
    intro gap
    have terminates := terminator_of_gap gap
    rw [not_terminator_of_delimiter parameter.delimits] at terminates
    cases terminates
  have delimited : forall key, (isSensitiveKey unicode key = true) ->
      (afterName unicode key parameter.delimiter).2 = .padding := by
    intro key sensitive
    simp [afterName, stops, parameter.delimits, sensitive]
  have passed : (scanner unicode).after (.token parameter.name.toList)
      (parameter.gap.toList ++ [parameter.delimiter]) = .padding := by
    cases gapped : parameter.gap.toList with
    | nil =>
        change (step unicode (.token parameter.name.toList) parameter.delimiter).2 = .padding
        simp only [step, not_key_of_delimiter parameter.delimits]
        exact delimited _ parameter.sensitive
    | cons character others =>
        have gaps : forall other, other ∈ character :: others -> isGap other = true := by
          rw [← gapped]
          exact parameter.gaps
        have gap := gaps character List.mem_cons_self
        have entered : ((scanner unicode).step (.token parameter.name.toList) character).2 =
            .gap parameter.name.toList := by
          change (step unicode (.token parameter.name.toList) character).2 = _
          simp [step, afterName, not_key_of_gap gap, gap]
        rw [List.cons_append, Transducer.after_cons, entered, Transducer.after_append,
          (@copies_gap unicode _ others fun other among =>
            gaps other (List.mem_cons_of_mem character among)).2]
        exact delimited _ parameter.sensitive
  unfold Parameter.lead
  rw [Transducer.after_append, List.append_assoc, Transducer.after_append, reading, passed]
  exact (copies_padding parameter.blanks).2

/-- A masked value without quotes goes on over the name, up to the first gap. -/
theorem swallows_name (parameter : Parameter unicode)
    (inside : mode = .padding ∨ mode = .bare) :
    (scanner unicode).after mode parameter.name.toList = .bare := by
  have name : forall character, character ∈ parameter.name.toList ->
      isValueTerminator character = false := fun character among =>
    inside_of_key (parameter.keys character among)
  rcases inside with rfl | rfl
  · exact (masks_bare parameter.named name).2
  · exact (skips_bare name).2

/-- What comes after the end of a masked value is read as plain text. -/
theorem copies_rest {first : Char} {rest : List Char}
    (ended : ((scanner unicode).step mode first).2 = .names)
    (others : forall character, character ∈ rest -> isKeyChar unicode character = false) :
    (scanner unicode).after mode (first :: rest) = .names := by
  rw [Transducer.after_cons, ended]
  exact (copies_names others).2

end Modes

section Leak

variable {unicode : Unicode} (parameter : Parameter unicode)

/-- Neither gap, delimiter nor padding belong to a name. -/
theorem others_lead : forall character,
    character ∈ parameter.gap.toList ++ [parameter.delimiter] ++ parameter.padding.toList ->
      isKeyChar unicode character = false := by
  intro character among
  rcases List.mem_append.mp among with before | padding
  · rcases List.mem_append.mp before with gap | delimiter
    · exact not_key_of_gap (parameter.gaps character gap)
    · rw [List.mem_singleton.mp delimiter]
      exact not_key_of_delimiter parameter.delimits
  · exact not_key_of_gap (gap_of_blank (parameter.blanks character padding))

/-- A masked value without quotes ends before the value, unless the name and
its delimiter directly follow each other and the value. -/
theorem ends_bare {mode : Mode} (inside : mode = .padding ∨ mode = .bare)
    (apart : ¬ (parameter.gap.toList = [] ∧ parameter.padding.toList = [])) :
    (scanner unicode).after mode parameter.lead = .names := by
  have others := others_lead parameter
  have ended : forall {first : Char}, isGap first = true ->
      ((scanner unicode).step .bare first).2 = .names := by
    intro first gap
    change (step unicode .bare first).2 = .names
    simp [step, terminator_of_gap gap]
  unfold Parameter.lead
  rw [List.append_assoc, List.append_assoc, Transducer.after_append,
    swallows_name parameter inside, ← List.append_assoc]
  cases gapped : parameter.gap.toList with
  | cons first rest =>
      rw [gapped] at others
      apply copies_rest (ended (parameter.gaps first (gapped ▸ List.mem_cons_self)))
      exact fun character among => others character (List.mem_cons_of_mem first among)
  | nil =>
      cases padded : parameter.padding.toList with
      | nil => exact absurd ⟨gapped, padded⟩ apart
      | cons first rest =>
          rw [gapped, padded] at others
          have blank := parameter.blanks first (padded ▸ List.mem_cons_self)
          have delimiter : ((scanner unicode).step .bare parameter.delimiter).2 = .bare := by
            change (step unicode .bare parameter.delimiter).2 = .bare
            simp [step, not_terminator_of_delimiter parameter.delimits]
          rw [List.nil_append, List.singleton_append, Transducer.after_cons, delimiter]
          apply copies_rest (ended (gap_of_blank blank))
          intro character among
          exact others character (List.mem_cons_of_mem _ (List.mem_cons_of_mem first among))

/-- A masked value between quotes ends at a quote in the gap. -/
theorem ends_quoted {mode : Mode} {quote : Char}
    (inside : mode = .opened quote ∨ mode = .quoted quote)
    (closes : quote ∈ parameter.gap.toList) :
    (scanner unicode).after mode parameter.lead = .names := by
  have name : forall character, character ∈ parameter.name.toList -> character ≠ quote := by
    rintro character among rfl
    have key := parameter.keys character among
    rw [not_key_of_gap (parameter.gaps character closes)] at key
    cases key
  have reading : (scanner unicode).after mode parameter.name.toList = .quoted quote := by
    rcases inside with rfl | rfl
    · exact (masks_quoted parameter.named name).2
    · exact (skips_quoted name).2
  rcases List.eq_append_cons_of_mem closes with ⟨before, behind, split, first⟩
  have others := others_lead parameter
  have skipped : (scanner unicode).after (.quoted quote) before = .quoted quote := by
    apply (skips_quoted _).2
    rintro character among rfl
    exact first among
  unfold Parameter.lead
  rw [List.append_assoc, List.append_assoc, Transducer.after_append, reading,
    ← List.append_assoc, split]
  rw [split] at others
  rw [List.append_assoc, List.append_assoc, Transducer.after_append, skipped]
  apply copies_rest
  · exact congrArg Prod.snd (if_pos (beq_self_eq_true quote))
  · intro character among
    apply others character
    rw [List.append_assoc, List.append_assoc]
    exact List.mem_append_right _ (List.mem_cons_of_mem quote among)

theorem redact_text (value : String) :
    redactSensitiveValues unicode (parameter.text value) =
      String.ofList ((scanner unicode).write .names parameter.pre.toList ++
        (scanner unicode).write ((scanner unicode).after .names parameter.pre.toList)
          (parameter.lead ++ value.toList ++ parameter.suffix.toList)) := by
  unfold redactSensitiveValues
  rw [redactChars_eq_write, parameter.text_toList, Transducer.write_append]

/-- Read as plain text, a value is shown. -/
theorem shows_value (exposed : (scanner unicode).after
      ((scanner unicode).after .names parameter.pre.toList) parameter.lead = .names) :
    ¬ parameter.Hides := by
  intro hides
  have slash : IsValue "/" := ⟨by decide, by decide⟩
  have query : IsValue "?" := ⟨by decide, by decide⟩
  have same := hides "/" "?" slash query
  have shown : forall value : String, (forall character, character ∈ value.toList ->
      isKeyChar unicode character = false) ->
      (scanner unicode).write ((scanner unicode).after .names parameter.pre.toList)
        (parameter.lead ++ value.toList ++ parameter.suffix.toList) =
      (scanner unicode).write ((scanner unicode).after .names parameter.pre.toList)
        parameter.lead ++ (value.toList ++ (scanner unicode).write .names parameter.suffix.toList)
      := by
    intro value others
    rcases copies_names others with ⟨written, reached⟩
    rw [List.append_assoc, Transducer.write_append, exposed, Transducer.write_append, written,
      reached]
  have other : forall character, character ∈ ['/', '?'] -> isKeyChar unicode character = false := by
    intro character among
    apply not_key_of_structural
    revert character
    decide
  rw [redact_text, redact_text, String.ofList_inj,
    shown "/" fun character among => other character ((by decide : "/".toList ⊆ ['/', '?']) among),
    shown "?" fun character among => other character ((by decide : "?".toList ⊆ ['/', '?']) among)]
    at same
  have rest := List.append_cancel_left (List.append_cancel_left same)
  have first := (List.cons.inj rest).1
  revert first
  decide

/-- What is written up to the end of the value, and how the scanner goes on,
do not depend on the value. -/
def Parameter.Masked : Prop :=
  Exists fun written => Exists fun reached => forall value, IsValue value ->
    (scanner unicode).write ((scanner unicode).after .names parameter.pre.toList)
        (parameter.lead ++ value.toList) = written ∧
      (scanner unicode).after ((scanner unicode).after .names parameter.pre.toList)
        (parameter.lead ++ value.toList) = reached

theorem hides_of_masked (masked : parameter.Masked) : parameter.Hides := by
  rcases masked with ⟨written, reached, same⟩
  intro first second isFirst isSecond
  rw [redact_text, redact_text]
  apply congrArg fun shown => String.ofList
    ((scanner unicode).write .names parameter.pre.toList ++ shown)
  apply Transducer.exchange
  · exact (same first isFirst).1.trans (same second isSecond).1.symm
  · exact (same first isFirst).2.trans (same second isSecond).2.symm

/-- Outside of masked values the name is found. -/
theorem masked_of_searching
    (searching : (scanner unicode).after .names parameter.pre.toList = .names ∨
      Exists fun key => (scanner unicode).after .names parameter.pre.toList = .gap key) :
    parameter.Masked := by
  refine ⟨(scanner unicode).write ((scanner unicode).after .names parameter.pre.toList)
    parameter.lead ++ redacted.toList, .bare, ?_⟩
  intro value isValue
  rcases @masks_bare unicode _ isValue.nonempty isValue.inside with ⟨written, reached⟩
  rw [Transducer.write_append, Transducer.after_append, reaches_value parameter searching,
    written, reached]
  exact ⟨rfl, rfl⟩

/-- A masked value without quotes goes on over the name and the value. -/
theorem masked_of_bare
    (inside : (scanner unicode).after .names parameter.pre.toList = .padding ∨
      (scanner unicode).after .names parameter.pre.toList = .bare)
    (joined : parameter.gap.toList = [] ∧ parameter.padding.toList = []) :
    parameter.Masked := by
  have lead : parameter.lead = parameter.name.toList ++ [parameter.delimiter] := by
    simp [Parameter.lead, joined.1, joined.2]
  have goesOn : forall value, IsValue value -> forall character,
      character ∈ parameter.lead ++ value.toList -> isValueTerminator character = false := by
    intro value isValue character among
    rw [lead] at among
    rcases List.mem_append.mp among with before | last
    · rcases List.mem_append.mp before with name | delimiter
      · exact inside_of_key (parameter.keys character name)
      · rw [List.mem_singleton.mp delimiter]
        exact not_terminator_of_delimiter parameter.delimits
    · exact isValue.inside character last
  rcases inside with padding | bare
  · refine ⟨redacted.toList, .bare, ?_⟩
    intro value isValue
    rw [padding]
    apply masks_bare _ (goesOn value isValue)
    rw [lead]
    simp
  · refine ⟨[], .bare, ?_⟩
    intro value isValue
    rw [bare]
    exact skips_bare (goesOn value isValue)

/-- A masked value between quotes goes on over the name and the value. -/
theorem masked_of_quoted {quote : Char}
    (inside : (scanner unicode).after .names parameter.pre.toList = .opened quote ∨
      (scanner unicode).after .names parameter.pre.toList = .quoted quote)
    (absent : quote ∉ parameter.gap.toList) : parameter.Masked := by
  have quotes : isQuote quote = true := by
    have quoting := @quoting_after unicode parameter.pre.toList
    rcases inside with opened | quoted
    · rw [opened] at quoting
      exact quoting
    · rw [quoted] at quoting
      exact quoting
  have terminates := terminator_of_gap (gap_of_quote quotes)
  have goesOn : forall value, IsValue value -> forall character,
      character ∈ parameter.lead ++ value.toList -> character ≠ quote := by
    rintro value isValue character among rfl
    rcases List.mem_append.mp among with before | last
    · rcases List.mem_append.mp before with before | padding
      · rcases List.mem_append.mp before with before | delimiter
        · rcases List.mem_append.mp before with name | gap
          · rw [inside_of_key (parameter.keys character name)] at terminates
            cases terminates
          · exact absent gap
        · rw [List.mem_singleton.mp delimiter,
            not_terminator_of_delimiter parameter.delimits] at terminates
          cases terminates
      · have blank := parameter.blanks character padding
        unfold isQuote at quotes
        simp only [Bool.or_eq_true, beq_iff_eq] at quotes
        rcases quotes with rfl | rfl <;> cases blank
    · rw [isValue.inside character last] at terminates
      cases terminates
  have nonempty : forall value, IsValue value -> parameter.lead ++ value.toList ≠ [] := by
    intro value isValue empty
    exact isValue.nonempty (List.append_eq_nil_iff.mp empty).2
  rcases inside with opened | quoted
  · refine ⟨redacted.toList, .quoted quote, ?_⟩
    intro value isValue
    rw [opened]
    exact masks_quoted (nonempty value isValue) (goesOn value isValue)
  · refine ⟨[], .quoted quote, ?_⟩
    intro value isValue
    rw [quoted]
    exact skips_quoted (goesOn value isValue)

/-- The value of a sensitive parameter is hidden exactly if no earlier masked
value ends between the name and the value. -/
theorem hides_iff_reached : parameter.Hides ↔ parameter.Reached := by
  unfold Parameter.Reached
  cases mode : (scanner unicode).after .names parameter.pre.toList with
  | names => exact ⟨fun _ => True.intro, fun _ =>
      hides_of_masked parameter (masked_of_searching parameter (Or.inl mode))⟩
  | token key => exact absurd mode (not_token_after parameter.separated)
  | gap key => exact ⟨fun _ => True.intro, fun _ =>
      hides_of_masked parameter (masked_of_searching parameter (Or.inr ⟨key, mode⟩))⟩
  | padding =>
      constructor
      · intro hides
        by_contra apart
        exact shows_value parameter (ends_bare parameter (Or.inl mode) apart) hides
      · exact fun joined => hides_of_masked parameter (masked_of_bare parameter (Or.inl mode) joined)
  | bare =>
      constructor
      · intro hides
        by_contra apart
        exact shows_value parameter (ends_bare parameter (Or.inr mode) apart) hides
      · exact fun joined => hides_of_masked parameter (masked_of_bare parameter (Or.inr mode) joined)
  | opened quote =>
      constructor
      · intro hides closes
        exact shows_value parameter (ends_quoted parameter (Or.inl mode) closes) hides
      · exact fun absent =>
          hides_of_masked parameter (masked_of_quoted parameter (Or.inl mode) absent)
  | quoted quote =>
      constructor
      · intro hides closes
        exact shows_value parameter (ends_quoted parameter (Or.inr mode) closes) hides
      · exact fun absent =>
          hides_of_masked parameter (masked_of_quoted parameter (Or.inr mode) absent)

end Leak

end Redact

namespace Sample

open Redact

/-- Tables that know the letters of ASCII only. -/
def ascii : Unicode where
  isAlphanumeric := Text.isAsciiAlphanumeric
  toLowercase := fun text => text.map Text.asciiLower
  alphanumeric_ascii := fun _ _ => rfl
  lowercase_ascii := fun _ _ => rfl

/-- `token=password= v`: the name is the masked value of the token. -/
def swallowed : Parameter ascii where
  pre := "token="
  name := "password"
  gap := ""
  delimiter := '='
  padding := " "
  suffix := ""
  separated := by
    intro last found
    have lead : "token=".toList.getLast? = some '=' := by decide
    rw [lead] at found
    cases found
    decide
  named := by decide
  keys := by decide
  sensitive := by decide
  gaps := by decide
  delimits := by decide
  blanks := by decide
  ends := by
    intro first found
    cases found

set_option maxRecDepth 10000 in
/-- The token is masked up to the blank, and the password after it is shown. -/
theorem password_shown :
    redactSensitiveValues ascii (swallowed.text "hunter2") = "token=+++++ hunter2" ∧
      ¬ swallowed.Hides := by
  have shown : forall value, value = "hunter2" ∨ value = "letmein" ->
      redactSensitiveValues ascii (swallowed.text value) = "token=+++++ " ++ value := by
    intro value chosen
    unfold redactSensitiveValues
    rw [redactChars_eq_write]
    rcases chosen with rfl | rfl <;> decide
  refine ⟨shown "hunter2" (Or.inl rfl), ?_⟩
  intro hides
  have same := hides "hunter2" "letmein" ⟨by decide, by decide⟩ ⟨by decide, by decide⟩
  rw [shown "hunter2" (Or.inl rfl), shown "letmein" (Or.inr rfl)] at same
  revert same
  decide

end Sample
end KrakenUi
