import KrakenUi.Net.Numeral
import Mathlib.Algebra.Order.Ring.Int
import Mathlib.Data.List.Infix
import Mathlib.Data.List.TakeWhile

namespace KrakenUi
namespace Text

/-!
# The text functions of the standard library

The handlers trim, lowercase, measure and parse what a client sends.  These
are the functions they call, on lists of characters where a definition has to
compute and on strings where the source has strings.  Lengths are in bytes of
UTF-8, as everywhere in the source.
-/

/-- What is asked of the characters of a text is decided along the text, and not
for every character there is. -/
instance (priority := high) decidableAlong (asked : Char -> Prop) [DecidablePred asked]
    (text : List Char) : Decidable (forall character, character ∈ text -> asked character) :=
  List.decidableBAll asked text

/-- The Unicode property `White_Space`, which `str::trim` removes. -/
def isWhitespace (character : Char) : Bool :=
  let code := character.toNat
  (9 ≤ code && code ≤ 13) || code == 0x20 || code == 0x85 || code == 0xA0 || code == 0x1680 ||
    (0x2000 ≤ code && code ≤ 0x200A) || code == 0x2028 || code == 0x2029 || code == 0x202F ||
    code == 0x205F || code == 0x3000

def trimChars (characters : List Char) : List Char :=
  ((characters.dropWhile isWhitespace).reverse.dropWhile isWhitespace).reverse

def trim (input : String) : String :=
  String.ofList (trimChars input.toList)

def isAsciiDigit (character : Char) : Bool :=
  '0' ≤ character && character ≤ '9'

def isAsciiLowercase (character : Char) : Bool :=
  'a' ≤ character && character ≤ 'z'

def isAsciiUppercase (character : Char) : Bool :=
  'A' ≤ character && character ≤ 'Z'

def isAsciiAlphanumeric (character : Char) : Bool :=
  isAsciiDigit character || isAsciiLowercase character || isAsciiUppercase character

def asciiLower (character : Char) : Char :=
  if isAsciiUppercase character then Char.ofNat (character.toNat + 32) else character

def asciiUpper (character : Char) : Char :=
  if isAsciiLowercase character then Char.ofNat (character.toNat - 32) else character

def toAsciiLowercase (input : String) : String :=
  String.ofList (input.toList.map asciiLower)

/-- The length in bytes. -/
def len (input : String) : Nat :=
  (input.toList.map Char.utf8Size).sum

def isEmpty (input : String) : Bool :=
  input.toList.isEmpty

/-- The byte offset of the first occurrence of an ASCII character. -/
def memchr (needle : Char) : List Char -> Option Nat
  | [] => none
  | character :: rest =>
      if character = needle then some 0
      else (memchr needle rest).map (· + character.utf8Size)

/-- The byte offset of the last occurrence of an ASCII character. -/
def memrchr (needle : Char) : List Char -> Option Nat
  | [] => none
  | character :: rest =>
      match memrchr needle rest with
      | some offset => some (offset + character.utf8Size)
      | none => if character = needle then some 0 else none

def contains (input needle : String) : Bool :=
  decide (needle.toList <:+: input.toList)

/-- The value of a nonempty run of decimal digits. -/
def parseDigits (characters : List Char) : Option Nat :=
  if characters.isEmpty || !characters.all isAsciiDigit then none
  else some (characters.foldl (fun value digit => 10 * value + (digit.toNat - '0'.toNat)) 0)

/-- Digits with an optional leading plus sign, as an unsigned parse reads them. -/
def parseUnsigned (limit : Nat) (characters : List Char) : Option Nat :=
  let digits := match characters with
    | '+' :: rest => rest
    | all => all
  (parseDigits digits).bind fun value => if value < limit then some value else none

/-- `str::parse::<u32>`. -/
def parseU32 (input : String) : Option Nat :=
  parseUnsigned (2 ^ 32) input.toList

/-- `str::parse::<i32>`, with either sign. -/
def parseI32 (input : String) : Option Int :=
  match input.toList with
  | '-' :: rest =>
      (parseDigits rest).bind fun value => if value ≤ 2 ^ 31 then some (-(value : Int)) else none
  | all => (parseUnsigned (2 ^ 31) all).map fun value => (value : Int)

/-- `str::parse::<u16>`. -/
def parseU16 (characters : List Char) : Option Nat :=
  parseUnsigned (2 ^ 16) characters

/-- `str::split_once`, for one character. -/
def splitOnce (separator : Char) : List Char -> Option (List Char × List Char)
  | [] => none
  | character :: rest =>
      if character = separator then some ([], rest)
      else (splitOnce separator rest).map fun parts => (character :: parts.1, parts.2)

/-- `str::rsplit_once`, for one character. -/
def rsplitOnce (separator : Char) (characters : List Char) : Option (List Char × List Char) :=
  (splitOnce separator characters.reverse).map fun parts =>
    (parts.2.reverse, parts.1.reverse)

/-- `str::rsplit_once`, for a kind of characters. -/
def rsplitOnceBy (separates : Char -> Bool) (characters : List Char) :
    Option (List Char × List Char) :=
  match characters.reverse.dropWhile fun character => !separates character with
  | [] => none
  | _ :: front =>
      some (front.reverse, (characters.reverse.takeWhile fun character => !separates character).reverse)

/-- `str::strip_prefix`, for one character. -/
def stripPrefix (first : Char) : List Char -> Option (List Char)
  | [] => none
  | character :: rest => if character = first then some rest else none

/-- `str::trim_matches`, for one character. -/
def trimMatches (trimmed : Char) (characters : List Char) : List Char :=
  ((characters.dropWhile (· == trimmed)).reverse.dropWhile (· == trimmed)).reverse

/-- A line without the carriage return at its end. -/
def stripCarriageReturn (line : List Char) : List Char :=
  if line.getLast? = some '\r' then line.dropLast else line

/-- What stands between line feeds, as lines.  The last piece has no line feed
behind it: it is no line when it is empty, and it keeps its carriage return. -/
def linesOf : List (List Char) -> List (List Char)
  | [] => []
  | [last] => if last.isEmpty then [] else [last]
  | piece :: pieces => stripCarriageReturn piece :: linesOf pieces

/-- `str::lines`, which ends lines at a line feed with or without a carriage
return before it. -/
def lines (text : List Char) : List (List Char) :=
  linesOf (text.splitOn '\n')

/-- The text before the first separator: the first item of `str::split`. -/
def firstPart (separator : Char) (input : String) : String :=
  String.ofList (input.toList.takeWhile (· ≠ separator))

theorem dropWhile_keeps {drops : Char -> Bool} {text : List Char}
    (kept : forall character, character ∈ text -> drops character = false) :
    text.dropWhile drops = text := by
  cases text with
  | nil => rfl
  | cons character text => exact List.dropWhile_cons_of_neg (by simp [kept character List.mem_cons_self])

/-- Nothing is trimmed from a text without what is trimmed. -/
theorem trimmed_keeps {drops : Char -> Bool} {text : List Char}
    (kept : forall character, character ∈ text -> drops character = false) :
    ((text.dropWhile drops).reverse.dropWhile drops).reverse = text := by
  rw [dropWhile_keeps kept, dropWhile_keeps fun character member =>
    kept character (List.mem_reverse.mp member), List.reverse_reverse]

/-- A text whose ends are no whitespace. -/
def Trimmed (text : List Char) : Prop :=
  forall character, (text.head? = some character ∨ text.getLast? = some character) ->
    isWhitespace character = false

theorem Trimmed.trimChars {text : List Char} (trimmed : Trimmed text) :
    Text.trimChars text = text := by
  have front : forall {part : List Char}, (forall character, part.head? = some character ->
      isWhitespace character = false) -> part.dropWhile isWhitespace = part := by
    intro part kept
    cases part with
    | nil => rfl
    | cons character part =>
        exact List.dropWhile_cons_of_neg (by simp [kept character rfl])
  unfold Text.trimChars
  rw [front fun character first => trimmed character (Or.inl first), front, List.reverse_reverse]
  intro character last
  rw [List.head?_reverse] at last
  exact trimmed character (Or.inr last)

/-- What trimming takes away is whitespace at the ends. -/
theorem trimChars_parts (text : List Char) :
    Exists fun front => Exists fun back => text = front ++ (trimChars text ++ back) ∧
      (forall character, character ∈ front -> isWhitespace character = true) ∧
        forall character, character ∈ back -> isWhitespace character = true := by
  refine ⟨text.takeWhile isWhitespace,
    ((text.dropWhile isWhitespace).reverse.takeWhile isWhitespace).reverse, ?_, ?_, ?_⟩
  · rw [trimChars, ← List.reverse_append, List.takeWhile_append_dropWhile, List.reverse_reverse,
      List.takeWhile_append_dropWhile]
  · intro character member
    exact List.mem_takeWhile_imp member
  · intro character member
    exact List.mem_takeWhile_imp (List.mem_reverse.mp member)

/-- What stands behind a kept character may be trimmed, but nothing before it. -/
theorem trimmed_front {drops : Char -> Bool} {front : List Char} {last : Char}
    (first : forall character, (front ++ [last]).head? = some character -> drops character = false)
    (kept : drops last = false) (tail : List Char) :
    Exists fun rest =>
      (((front ++ last :: tail).dropWhile drops).reverse.dropWhile drops).reverse =
        front ++ last :: rest := by
  have whole : (front ++ last :: tail).dropWhile drops = front ++ last :: tail := by
    cases front with
    | nil => exact List.dropWhile_cons_of_neg (by simp [kept])
    | cons character front =>
        have keeps := first character rfl
        exact List.dropWhile_cons_of_neg (by simp [keeps])
  have mirrored : (front ++ last :: tail).reverse = tail.reverse ++ last :: front.reverse := by simp
  rw [whole, mirrored, List.dropWhile_append]
  split
  · refine ⟨[], ?_⟩
    rw [List.dropWhile_cons_of_neg (by simp [kept])]
    simp
  · refine ⟨(tail.reverse.dropWhile drops).reverse, ?_⟩
    simp

/-- A text is blank or it is still there when it is trimmed. -/
theorem trimChars_eq_nil {text : List Char} :
    trimChars text = [] ↔ forall character, character ∈ text -> isWhitespace character = true := by
  constructor
  · intro empty character member
    rcases trimChars_parts text with ⟨front, back, parts, before, behind⟩
    rw [empty, List.nil_append] at parts
    rw [parts] at member
    rcases List.mem_append.mp member with first | last
    · exact before character first
    · exact behind character last
  · intro blank
    rw [trimChars, List.dropWhile_eq_nil_iff.mpr blank]
    rfl

theorem trimChars_trimmed (text : List Char) : Trimmed (trimChars text) := by
  rintro character (first | last)
  · -- the first character of what is trimmed at the front is still the first
    cases front : text.dropWhile isWhitespace with
    | nil =>
        rw [trimChars, front] at first
        cases first
    | cons head tail =>
        have kept : isWhitespace head = false := by
          have found := List.head?_dropWhile_not isWhitespace text
          rw [front] at found
          simpa using found
        rcases @trimmed_front isWhitespace [] head (fun other same => by cases same; exact kept)
            kept tail with ⟨rest, whole⟩
        rw [List.nil_append, List.dropWhile_cons_of_neg (by simp [kept])] at whole
        rw [trimChars, front, whole] at first
        cases first
        exact kept
  · rw [trimChars, List.getLast?_reverse] at last
    have found := List.head?_dropWhile_not isWhitespace (text.dropWhile isWhitespace).reverse
    rw [last] at found
    simpa using found

theorem trimChars_trimChars (text : List Char) : trimChars (trimChars text) = trimChars text :=
  (trimChars_trimmed text).trimChars

theorem mem_of_mem_trimChars {text : List Char} {character : Char}
    (member : character ∈ trimChars text) : character ∈ text := by
  rcases trimChars_parts text with ⟨front, back, parts, -, -⟩
  rw [parts]
  exact List.mem_append_right _ (List.mem_append_left _ member)

/-- Whitespace at the end of a text is trimmed with the rest. -/
theorem trimChars_concat {character : Char} (blank : isWhitespace character = true)
    (text : List Char) : trimChars (text ++ [character]) = trimChars text := by
  rw [trimChars, trimChars, List.dropWhile_append]
  split
  · rename_i empty
    rw [List.isEmpty_iff.mp empty, List.dropWhile_cons_of_pos blank]
    rfl
  · rw [List.reverse_append, List.reverse_singleton, List.singleton_append,
      List.dropWhile_cons_of_pos blank]

/-- Whitespace around a text is trimmed with the rest. -/
theorem trimChars_surrounded {front back : List Char}
    (before : forall character, character ∈ front -> isWhitespace character = true)
    (behind : forall character, character ∈ back -> isWhitespace character = true)
    (text : List Char) : trimChars (front ++ (text ++ back)) = trimChars text := by
  have dropped : trimChars (front ++ (text ++ back)) = trimChars (text ++ back) := by
    rw [trimChars, trimChars, List.dropWhile_append_of_pos before]
  rw [dropped]
  clear dropped
  induction back using List.reverseRecOn with
  | nil => rw [List.append_nil]
  | append_singleton back last inductionHypothesis =>
      rw [← List.append_assoc, trimChars_concat (behind last (by simp))]
      exact inductionHypothesis fun character member => behind character (by simp [member])

/-- No piece has the separator in it. -/
theorem not_mem_of_mem_splitOn {separator : Char} {text piece : List Char}
    (member : piece ∈ text.splitOn separator) : separator ∉ piece := by
  induction text generalizing piece with
  | nil =>
      rw [List.splitOn_nil] at member
      rw [List.mem_singleton.mp member]
      exact List.not_mem_nil
  | cons character text inductionHypothesis =>
      rw [List.splitOn_cons_eq_if_modifyHead] at member
      split at member
      · rcases List.mem_cons.mp member with rfl | later
        · exact List.not_mem_nil
        · exact inductionHypothesis later
      · rename_i other
        cases pieces : text.splitOn separator with
        | nil => exact absurd pieces (List.splitOn_ne_nil separator text)
        | cons first rest =>
            rw [pieces, List.modifyHead_cons] at member
            rw [pieces] at inductionHypothesis
            rcases List.mem_cons.mp member with rfl | later
            · intro inside
              rcases List.mem_cons.mp inside with rfl | deeper
              · exact other (beq_self_eq_true _)
              · exact inductionHypothesis List.mem_cons_self deeper
            · exact inductionHypothesis (List.mem_cons_of_mem first later)

theorem trimChars_stripCarriageReturn (line : List Char) :
    trimChars (stripCarriageReturn line) = trimChars line := by
  unfold stripCarriageReturn
  split
  · rename_i last
    have whole := List.dropLast_append_getLast? '\r' last
    conv =>
      rhs
      rw [← whole]
    exact (trimChars_concat (by decide) _).symm
  · rfl

/-- The lines that are not blank are the pieces that are not blank. -/
theorem filter_linesOf (pieces : List (List Char)) :
    ((linesOf pieces).map trimChars).filter (fun line => !line.isEmpty) =
      (pieces.map trimChars).filter (fun line => !line.isEmpty) := by
  induction pieces with
  | nil => rfl
  | cons piece pieces inductionHypothesis =>
      cases pieces with
      | nil =>
          rw [linesOf]
          split
          · rename_i empty
            rw [List.isEmpty_iff.mp empty]
            rfl
          · rfl
      | cons second pieces =>
          rw [linesOf, List.map_cons, List.map_cons, trimChars_stripCarriageReturn,
            List.filter_cons, List.filter_cons, inductionHypothesis]
          exact nofun

theorem filter_lines (text : List Char) :
    ((lines text).map trimChars).filter (fun line => !line.isEmpty) =
      ((text.splitOn '\n').map trimChars).filter (fun line => !line.isEmpty) :=
  filter_linesOf (text.splitOn '\n')

/-- A printed number is parsed as itself. -/
theorem parseDigits_toDigits (number : Nat) :
    parseDigits (Nat.toDigits 10 number) = some number := by
  have digit : forall value, value < 10 -> isAsciiDigit (Nat.digitChar value) = true ∧
      (Nat.digitChar value).toNat - '0'.toNat = value := by decide
  have both : (Nat.toDigits 10 number).all isAsciiDigit = true ∧
      (Nat.toDigits 10 number).foldl
        (fun value digit => 10 * value + (digit.toNat - '0'.toNat)) 0 = number := by
    induction number using Nat.strongRecOn with
    | ind number inductionHypothesis =>
        rw [Nat.toDigits_eq_if (by decide)]
        by_cases single : number < 10
        · rw [if_pos single]
          have digitValue := digit number single
          constructor
          · rw [List.all_cons, digitValue.1, List.all_nil]
            rfl
          · rw [List.foldl_cons, List.foldl_nil, digitValue.2]
            omega
        · rw [if_neg single]
          have front := inductionHypothesis (number / 10) (by omega)
          have last := digit (number % 10) (by omega)
          constructor
          · rw [List.all_append, front.1]
            simp [last.1]
          · rw [List.foldl_append, front.2, List.foldl_cons, List.foldl_nil, last.2]
            omega
  have some' : (Nat.toDigits 10 number).isEmpty = false := by
    rw [List.isEmpty_eq_false_iff]
    exact Nat.toDigits_ne_nil
  unfold parseDigits
  rw [some', both.1, both.2]
  rfl

/-- An unsigned parse reads what is printed. -/
theorem parseUnsigned_toDigits {limit number : Nat} (below : number < limit) :
    parseUnsigned limit (Nat.toDigits 10 number) = some number := by
  have unsigned : forall {rest : List Char}, Nat.toDigits 10 number ≠ '+' :: rest := by
    intro rest same
    have plus : '+' ∈ Nat.toDigits 10 number := by
      rw [same]
      exact List.mem_cons_self
    have digit := Net.Numeral.isHexDigit_of_mem (by decide) (by decide) number '+' plus
    exact absurd digit (by decide)
  unfold parseUnsigned
  split
  · rename_i rest same
    exact absurd same unsigned
  · dsimp only
    rw [parseDigits_toDigits, Option.bind_some, if_pos below]

theorem splitOnce_append {separator : Char} {front : List Char} (absent : separator ∉ front)
    (behind : List Char) : splitOnce separator (front ++ separator :: behind) =
      some (front, behind) := by
  induction front with
  | nil => exact if_pos rfl
  | cons character front inductionHypothesis =>
      have apart : character ≠ separator := fun same => absent (same ▸ List.mem_cons_self)
      have later := inductionHypothesis fun member => absent (List.mem_cons_of_mem _ member)
      rw [List.cons_append, splitOnce, if_neg apart, later, Option.map_some]

theorem splitOnce_absent {separator : Char} {text : List Char} (absent : separator ∉ text) :
    splitOnce separator text = none := by
  induction text with
  | nil => rfl
  | cons character text inductionHypothesis =>
      have apart : character ≠ separator := fun same => absent (same ▸ List.mem_cons_self)
      have later := inductionHypothesis fun member => absent (List.mem_cons_of_mem _ member)
      rw [splitOnce, if_neg apart, later, Option.map_none]

theorem rsplitOnce_append {separator : Char} {behind : List Char} (absent : separator ∉ behind)
    (front : List Char) : rsplitOnce separator (front ++ separator :: behind) =
      some (front, behind) := by
  have mirrored : (front ++ separator :: behind).reverse =
      behind.reverse ++ separator :: front.reverse := by simp
  have parts := splitOnce_append (fun member => absent (List.mem_reverse.mp member)) front.reverse
  rw [rsplitOnce, mirrored, parts, Option.map_some, List.reverse_reverse, List.reverse_reverse]

theorem rsplitOnce_absent {separator : Char} {text : List Char} (absent : separator ∉ text) :
    rsplitOnce separator text = none := by
  rw [rsplitOnce, splitOnce_absent fun member => absent (List.mem_reverse.mp member),
    Option.map_none]

theorem rsplitOnceBy_append {separates : Char -> Bool} {behind : List Char} {separator : Char}
    (splits : separates separator = true)
    (absent : forall character, character ∈ behind -> separates character = false)
    (front : List Char) : rsplitOnceBy separates (front ++ separator :: behind) =
      some (front, behind) := by
  have mirrored : (front ++ separator :: behind).reverse =
      behind.reverse ++ separator :: front.reverse := by simp
  have kept : forall character, character ∈ behind.reverse ->
      (!separates character) = true := by
    intro character member
    rw [absent character (List.mem_reverse.mp member)]
    rfl
  rw [rsplitOnceBy, mirrored, List.dropWhile_append_of_pos kept,
    List.dropWhile_cons_of_neg (by simp [splits]), List.takeWhile_append_of_pos kept,
    List.takeWhile_cons_of_neg (by simp [splits]), List.append_nil]
  dsimp only
  rw [List.reverse_reverse, List.reverse_reverse]

/-- A text has no separator, or is split at its last one. -/
theorem rsplitOnce_cases (separator : Char) (text : List Char) :
    separator ∉ text ∨ Exists fun front => Exists fun behind =>
      text = front ++ separator :: behind ∧ separator ∉ behind := by
  induction text with
  | nil => exact Or.inl List.not_mem_nil
  | cons character text inductionHypothesis =>
      rcases inductionHypothesis with absent | ⟨front, behind, rfl, absent⟩
      · by_cases same : character = separator
        · exact Or.inr ⟨[], text, by rw [same]; rfl, absent⟩
        · apply Or.inl
          intro member
          rcases List.mem_cons.mp member with first | later
          · exact same first.symm
          · exact absent later
      · exact Or.inr ⟨character :: front, behind, rfl, absent⟩

/-- A text is split in one way only at the first of its separators. -/
theorem split_unique {separator : Char} {front other behind rest : List Char}
    (absent : separator ∉ front) (missing : separator ∉ other)
    (same : front ++ separator :: behind = other ++ separator :: rest) :
    front = other ∧ behind = rest := by
  induction front generalizing other with
  | nil =>
      cases other with
      | nil => exact ⟨rfl, (List.cons.inj same).2⟩
      | cons first later =>
          have head := (List.cons.inj same).1
          exact absurd (head ▸ List.mem_cons_self) missing
  | cons first later inductionHypothesis =>
      cases other with
      | nil =>
          have head := (List.cons.inj same).1
          exact absurd (head ▸ List.mem_cons_self) absent
      | cons second others =>
          rcases List.cons.inj same with ⟨rfl, tails⟩
          rcases inductionHypothesis (fun among => absent (List.mem_cons_of_mem first among))
              (fun among => missing (List.mem_cons_of_mem first among)) tails with ⟨rfl, rests⟩
          exact ⟨rfl, rests⟩

/-- A text is put together from pieces without the separator in one way only. -/
theorem intercalate_unique {separator : Char} {pieces others : List (List Char)}
    (some : pieces ≠ []) (someOthers : others ≠ [])
    (apart : forall piece, piece ∈ pieces -> separator ∉ piece)
    (apartOthers : forall piece, piece ∈ others -> separator ∉ piece)
    (same : [separator].intercalate pieces = [separator].intercalate others) : pieces = others := by
  rw [← List.splitOn_intercalate separator apart some,
    ← List.splitOn_intercalate separator apartOthers someOthers, same]

end Text

namespace Bytes

/-- A slice of bytes.  Bounds out of order or beyond the end are a panic. -/
def slice (bytes : ByteArray) (start stop : Nat) : Option ByteArray :=
  if start ≤ stop ∧ stop ≤ bytes.size then some (bytes.extract start stop) else none

theorem slice_inside {bytes : ByteArray} {start stop : Nat} (ordered : start ≤ stop)
    (inside : stop ≤ bytes.size) : slice bytes start stop = some (bytes.extract start stop) :=
  if_pos ⟨ordered, inside⟩

end Bytes
end KrakenUi
