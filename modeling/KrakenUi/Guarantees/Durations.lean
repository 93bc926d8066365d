import KrakenUi.Config

namespace KrakenUi
namespace Config

open Text

/-!
# What durations are accepted

A duration is a sequence of numbers with a unit, with whitespace anywhere.  The
parser accepts nothing else, and nothing whose sum leaves 64 bits on the way.
-/

inductive TimeUnit where
  | second
  | minute
  | hour
  deriving DecidableEq

namespace TimeUnit

def seconds : TimeUnit -> Nat
  | second => 1
  | minute => 60
  | hour => 3600

def letters : TimeUnit -> List Char
  | second => ['s', 'S']
  | minute => ['m', 'M']
  | hour => ['h', 'H']

end TimeUnit

/-- A number with the letter of its unit. -/
structure DurationPart where
  digits : List Char
  letter : Char
  unit : TimeUnit
  nonempty : digits ≠ []
  decimal : digits.all isAsciiDigit = true
  named : letter ∈ unit.letters

namespace DurationPart

def text (part : DurationPart) : List Char := part.digits ++ [part.letter]

def amount (part : DurationPart) : Nat :=
  part.digits.foldl (fun value digit => 10 * value + (digit.toNat - '0'.toNat)) 0

def seconds (part : DurationPart) : Nat := part.amount * part.unit.seconds

end DurationPart

def total (parts : List DurationPart) : Nat := (parts.map DurationPart.seconds).sum

/-- The parts of a text that is read as a number of seconds. -/
structure Denotes (raw : String) (parts : List DurationPart) (seconds : Nat) : Prop where
  nonempty : parts ≠ []
  written : (trim raw).toList.filter (fun character => !isAsciiWhitespace character) =
    parts.flatMap DurationPart.text
  amounts : forall part, part ∈ parts -> part.amount < 2 ^ 64
  sums : forall front, front <+: parts -> total front < 2 ^ 64
  sum : seconds = total parts

section Units

theorem multiplier_letter {character : Char} {seconds : Nat} :
    multiplier character = some seconds ↔
      Exists fun unit : TimeUnit => character ∈ unit.letters ∧ seconds = unit.seconds := by
  constructor
  · intro known
    unfold multiplier at known
    split at known
    · rename_i letter
      cases known
      exact ⟨.second, by simpa [TimeUnit.letters] using letter, rfl⟩
    · split at known
      · rename_i letter
        cases known
        exact ⟨.minute, by simpa [TimeUnit.letters] using letter, rfl⟩
      · split at known
        · rename_i letter
          cases known
          exact ⟨.hour, by simpa [TimeUnit.letters] using letter, rfl⟩
        · cases known
  · rintro ⟨unit, letter, rfl⟩
    cases unit with
    | second =>
        rcases List.mem_pair.mp letter with rfl | rfl
        · rfl
        · rfl
    | minute =>
        rcases List.mem_pair.mp letter with rfl | rfl
        · rfl
        · rfl
    | hour =>
        rcases List.mem_pair.mp letter with rfl | rfl
        · rfl
        · rfl

/-- A letter is neither a digit nor whitespace. -/
theorem letter_apart {unit : TimeUnit} {character : Char} (letter : character ∈ unit.letters) :
    isAsciiDigit character = false ∧ isAsciiWhitespace character = false := by
  cases unit with
  | second =>
      rcases List.mem_pair.mp letter with rfl | rfl
      · decide
      · decide
  | minute =>
      rcases List.mem_pair.mp letter with rfl | rfl
      · decide
      · decide
  | hour =>
      rcases List.mem_pair.mp letter with rfl | rfl
      · decide
      · decide

theorem digit_not_whitespace {character : Char} (digit : isAsciiDigit character = true) :
    isAsciiWhitespace character = false := by
  unfold isAsciiWhitespace
  rw [List.contains_eq_mem, decide_eq_false_iff_not]
  intro blank
  simp only [List.mem_cons, List.not_mem_nil, or_false] at blank
  rcases blank with rfl | rfl | rfl | rfl | rfl
  · revert digit
    decide
  · revert digit
    decide
  · revert digit
    decide
  · revert digit
    decide
  · revert digit
    decide

end Units

section Scanning

/-- The parts can be added to what there is. -/
def Fits (seconds : Nat) : List DurationPart -> Prop
  | [] => True
  | part :: parts =>
      part.amount < 2 ^ 64 ∧ seconds + part.seconds < 2 ^ 64 ∧ Fits (seconds + part.seconds) parts

theorem total_cons (part : DurationPart) (parts : List DurationPart) :
    total (part :: parts) = part.seconds + total parts := rfl

/-- The sums never leave 64 bits exactly when each addition fits. -/
theorem fits_iff {seconds : Nat} (small : seconds < 2 ^ 64) (parts : List DurationPart) :
    Fits seconds parts ↔ (forall part, part ∈ parts -> part.amount < 2 ^ 64) ∧
      forall front, front <+: parts -> seconds + total front < 2 ^ 64 := by
  induction parts generalizing seconds with
  | nil =>
      refine ⟨fun _ => ⟨nofun, ?_⟩, fun _ => trivial⟩
      intro front isFront
      rw [List.prefix_nil.mp isFront]
      exact small
  | cons part parts inductionHypothesis =>
      rw [Fits]
      constructor
      · rintro ⟨amount, sum, later⟩
        rcases (inductionHypothesis sum).mp later with ⟨amounts, sums⟩
        constructor
        · intro other member
          rcases List.mem_cons.mp member with rfl | among
          · exact amount
          · exact amounts other among
        · intro front isFront
          cases front with
          | nil => exact small
          | cons first front =>
              rcases List.cons_prefix_cons.mp isFront with ⟨rfl, rest⟩
              rw [total_cons, ← Nat.add_assoc]
              exact sums front rest
      · rintro ⟨amounts, sums⟩
        have sum := sums [part] (List.cons_prefix_cons.mpr ⟨rfl, List.nil_prefix⟩)
        rw [total_cons] at sum
        have single : seconds + part.seconds < 2 ^ 64 := sum
        refine ⟨amounts part List.mem_cons_self, single, (inductionHypothesis single).mpr ⟨?_, ?_⟩⟩
        · exact fun other among => amounts other (List.mem_cons_of_mem _ among)
        · intro front isFront
          have longer := sums (part :: front) (List.cons_prefix_cons.mpr ⟨rfl, isFront⟩)
          rw [total_cons, ← Nat.add_assoc] at longer
          exact longer

/-- Digits and the first character that is none are found in one way only. -/
theorem digits_unique {digits other rest behind : List Char} {character letter : Char}
    (decimal : digits.all isAsciiDigit = true) (otherDecimal : other.all isAsciiDigit = true)
    (ends : isAsciiDigit character = false) (otherEnds : isAsciiDigit letter = false)
    (same : digits ++ character :: rest = other ++ letter :: behind) :
    digits = other ∧ character = letter ∧ rest = behind := by
  have front : forall {run tail : List Char} {last : Char}, run.all isAsciiDigit = true ->
      isAsciiDigit last = false -> (run ++ last :: tail).takeWhile isAsciiDigit = run := by
    intro run tail last all none'
    rw [List.takeWhile_append_of_pos (List.all_eq_true.mp all),
      List.takeWhile_cons_of_neg (by simp [none']), List.append_nil]
  have fronts := congrArg (List.takeWhile isAsciiDigit) same
  rw [front decimal ends, front otherDecimal otherEnds] at fronts
  subst fronts
  have tails := List.append_cancel_left same
  exact ⟨rfl, (List.cons.inj tails).1, (List.cons.inj tails).2⟩

/-- The digits of a part are parsed as its amount. -/
theorem parseUnsigned_digits {digits : List Char} (nonempty : digits ≠ [])
    (decimal : digits.all isAsciiDigit = true) :
    parseUnsigned (2 ^ 64) digits =
      if digits.foldl (fun value digit => 10 * value + (digit.toNat - '0'.toNat)) 0 < 2 ^ 64 then
        some (digits.foldl (fun value digit => 10 * value + (digit.toNat - '0'.toNat)) 0)
      else none := by
  unfold parseUnsigned
  split
  · have plus := List.all_eq_true.mp decimal '+' List.mem_cons_self
    cases plus
  · dsimp only
    rw [parseDigits, List.isEmpty_eq_false_iff.mpr nonempty, decimal]
    rfl

theorem DurationPart.parsed (part : DurationPart) (small : part.amount < 2 ^ 64) :
    parseUnsigned (2 ^ 64) part.digits = some part.amount :=
  (parseUnsigned_digits part.nonempty part.decimal).trans (if_pos small)

/-- The loop ends well. -/
def Finishes (scan : DurationScan) (text : List Char) (seconds : Nat) : Prop :=
  Exists fun final => text.foldlM scanDuration scan = .ok final ∧ final.digits = [] ∧
    final.sawUnit = true ∧ final.seconds = seconds

/-- The digits so far and the rest of the text are parts that can be added. -/
def Completes (scan : DurationScan) (text : List Char) (seconds : Nat) : Prop :=
  Exists fun parts =>
    scan.digits ++ text.filter (fun character => !isAsciiWhitespace character) =
      parts.flatMap DurationPart.text ∧
        Fits scan.seconds parts ∧ (parts ≠ [] ∨ scan.sawUnit = true) ∧
          seconds = scan.seconds + total parts

theorem finishes_cons {scan : DurationScan} {character : Char} {text : List Char}
    {seconds : Nat} : Finishes scan (character :: text) seconds ↔
      Exists fun next => scanDuration scan character = .ok next ∧ Finishes next text seconds := by
  unfold Finishes
  rw [List.foldlM_cons]
  cases scanned : scanDuration scan character with
  | error message =>
      constructor
      · rintro ⟨final, impossible, -⟩
        cases impossible
      · rintro ⟨next, impossible, -⟩
        cases impossible
  | ok next =>
      constructor
      · exact fun finishes => ⟨next, rfl, finishes⟩
      · rintro ⟨other, same, finishes⟩
        cases same
        exact finishes

/-- A character that is no digit and no whitespace ends a part, or the loop. -/
theorem scanDuration_ends {scan next : DurationScan} {character : Char}
    (digit : isAsciiDigit character = false) (blank : isAsciiWhitespace character = false)
    (decimal : scan.digits.all isAsciiDigit = true) :
    scanDuration scan character = .ok next ↔
      Exists fun part : DurationPart => part.digits = scan.digits ∧ part.letter = character ∧
        part.amount < 2 ^ 64 ∧ scan.seconds + part.seconds < 2 ^ 64 ∧
          next = ⟨scan.seconds + part.seconds, [], true⟩ := by
  unfold scanDuration
  rw [digit, blank, if_neg (by simp), if_neg (by simp)]
  constructor
  · intro scanned
    split at scanned
    · cases scanned
    · rename_i some'
      have nonempty : scan.digits ≠ [] := fun empty => some' (List.isEmpty_iff.mpr empty)
      rw [parseUnsigned_digits nonempty decimal] at scanned
      split at scanned
      · cases scanned
      · rename_i amount parsed
        split at parsed
        · rename_i small
          cases parsed
          split at scanned
          · cases scanned
          · rename_i seconds known
            rcases multiplier_letter.mp known with ⟨unit, letter, rfl⟩
            split at scanned
            · cases scanned
            · rename_i sum added
              cases scanned
              rcases Option.bind_eq_some_iff.mp added with ⟨product, multiplied, summed⟩
              unfold checkedMul at multiplied
              split at multiplied
              · cases multiplied
                unfold checkedAdd at summed
                split at summed
                · rename_i fits
                  cases summed
                  exact ⟨⟨scan.digits, character, unit, nonempty, decimal, letter⟩, rfl, rfl,
                    small, fits, rfl⟩
                · cases summed
              · cases multiplied
        · cases parsed
  · rintro ⟨part, digits, rfl, small, fits, rfl⟩
    have product : checkedMul part.amount part.unit.seconds = some part.seconds :=
      if_pos (Nat.lt_of_le_of_lt (Nat.le_add_left _ _) fits)
    have sum : checkedAdd scan.seconds part.seconds = some (scan.seconds + part.seconds) :=
      if_pos fits
    rw [← digits, part.parsed small, if_neg (by simpa using part.nonempty)]
    dsimp only
    rw [multiplier_letter.mpr ⟨part.unit, part.named, rfl⟩]
    dsimp only
    rw [product, Option.bind_some, sum]

/-- The loop ends well exactly when the rest of the text completes the parts. -/
theorem finishes_iff {scan : DurationScan} {text : List Char} {seconds : Nat}
    (decimal : scan.digits.all isAsciiDigit = true) :
    Finishes scan text seconds ↔ Completes scan text seconds := by
  induction text generalizing scan with
  | nil =>
      constructor
      · rintro ⟨final, same, empty, unit, rfl⟩
        cases same
        refine ⟨[], ?_, trivial, Or.inr unit, rfl⟩
        rw [empty]
        rfl
      · rintro ⟨parts, written, fits, unit, rfl⟩
        rw [List.filter_nil, List.append_nil] at written
        cases parts with
        | nil =>
            refine ⟨scan, rfl, written, ?_, rfl⟩
            rcases unit with absurd' | unit
            · exact absurd rfl absurd'
            · exact unit
        | cons part parts =>
            -- the letter of the part is no digit
            have letter := List.all_eq_true.mp decimal part.letter (by
              rw [written]
              simp [DurationPart.text])
            rw [(letter_apart part.named).1] at letter
            cases letter
  | cons character text inductionHypothesis =>
      rw [finishes_cons]
      cases digit : isAsciiDigit character with
      | true =>
          have blank := digit_not_whitespace digit
          have next : scanDuration scan character =
              .ok { scan with digits := scan.digits ++ [character] } := by
            unfold scanDuration
            rw [if_pos digit]
          have longer : ({ scan with digits := scan.digits ++ [character] } :
              DurationScan).digits.all isAsciiDigit = true := by
            simp [decimal, digit]
          have completes : Completes
            { scan with digits := scan.digits ++ [character] } text seconds ↔
              Completes scan (character :: text) seconds := by
            unfold Completes
            rw [List.filter_cons_of_pos (by simp [blank])]
            simp only [List.append_assoc, List.singleton_append]
          rw [← completes, ← inductionHypothesis longer]
          constructor
          · rintro ⟨other, same, finishes⟩
            rw [next] at same
            cases same
            exact finishes
          · exact fun finishes => ⟨_, next, finishes⟩
      | false =>
          cases blank : isAsciiWhitespace character with
          | true =>
              have next : scanDuration scan character = .ok scan := by
                unfold scanDuration
                rw [digit, if_neg (by simp), if_pos blank]
              have completes : Completes scan text seconds ↔
                  Completes scan (character :: text) seconds := by
                unfold Completes
                rw [List.filter_cons_of_neg (by simp [blank])]
              rw [← completes, ← inductionHypothesis decimal]
              constructor
              · rintro ⟨other, same, finishes⟩
                rw [next] at same
                cases same
                exact finishes
              · exact fun finishes => ⟨_, next, finishes⟩
          | false =>
              constructor
              · rintro ⟨next, scanned, finishes⟩
                rcases (scanDuration_ends digit blank decimal).mp scanned with
                    ⟨part, digits, letter, small, fits, rfl⟩
                rcases (inductionHypothesis rfl).mp finishes with ⟨parts, written, later, -, rfl⟩
                refine ⟨part :: parts, ?_, ⟨small, fits, later⟩, Or.inl (List.cons_ne_nil _ _), ?_⟩
                · rw [List.filter_cons_of_pos (by simp [blank]), List.flatMap_cons, ← written,
                    DurationPart.text, digits, letter]
                  simp
                · rw [total_cons, Nat.add_assoc]
              · rintro ⟨parts, written, fits, -, rfl⟩
                rw [List.filter_cons_of_pos (by simp [blank])] at written
                cases parts with
                | nil => simp at written
                | cons part parts =>
                    rw [List.flatMap_cons, DurationPart.text, List.append_assoc,
                      List.singleton_append] at written
                    rcases digits_unique decimal part.decimal digit (letter_apart part.named).1
                        written with ⟨digits, rfl, rest⟩
                    refine ⟨_, (scanDuration_ends digit blank decimal).mpr
                      ⟨part, digits.symm, rfl, fits.1, fits.2.1, rfl⟩, ?_⟩
                    rw [inductionHypothesis rfl]
                    exact ⟨parts, rest, fits.2.2, Or.inr rfl, by rw [total_cons, Nat.add_assoc]⟩

theorem completes_iff {raw : String} {seconds : Nat} :
    Completes ⟨0, [], false⟩ (trim raw).toList seconds ↔
      Exists fun parts => Denotes raw parts seconds := by
  have small : (0 : Nat) < 2 ^ 64 := by decide
  constructor
  · rintro ⟨parts, written, fits, nonempty | impossible, sum⟩
    · rcases (fits_iff small parts).mp fits with ⟨amounts, sums⟩
      have whole := (List.nil_append _).symm.trans written
      refine ⟨parts, nonempty, whole, amounts, ?_, sum.trans (Nat.zero_add _)⟩
      intro front isFront
      have inside := sums front isFront
      omega
    · cases impossible
  · intro denoted
    cases denoted with
    | intro parts denotes =>
        have fits : Fits 0 parts := by
          refine (fits_iff small parts).mpr ⟨denotes.amounts, ?_⟩
          intro front isFront
          have inside := denotes.sums front isFront
          omega
        exact ⟨parts, (List.nil_append _).trans denotes.written, fits, Or.inl denotes.nonempty,
          denotes.sum.trans (Nat.zero_add _).symm⟩

/-- A text is accepted exactly when it denotes a number of seconds, and as that number. -/
theorem duration_accepted_iff (raw : String) (seconds : Nat) :
    parseHumanDurationSeconds raw = .ok seconds ↔
      Exists fun parts => Denotes raw parts seconds := by
  have finishes : parseHumanDurationSeconds raw = .ok seconds ↔
      Finishes ⟨0, [], false⟩ (trim raw).toList seconds := by
    unfold parseHumanDurationSeconds Finishes
    split
    · rename_i message scanned
      rw [scanned]
      exact ⟨nofun, fun ⟨_, impossible, _⟩ => nomatch impossible⟩
    · rename_i scan scanned
      rw [scanned]
      split
      · rename_i incomplete
        refine ⟨nofun, ?_⟩
        rintro ⟨final, same, empty, unit, -⟩
        cases same
        rw [empty, unit] at incomplete
        simp at incomplete
      · rename_i complete
        simp only [not_or, Bool.not_eq_false, List.isEmpty_iff] at complete
        constructor
        · intro same
          cases same
          exact ⟨scan, rfl, complete.1, complete.2, rfl⟩
        · rintro ⟨final, same, -, -, rfl⟩
          cases same
          rfl
  rw [finishes, finishes_iff rfl, completes_iff]

end Scanning
end Config
end KrakenUi
