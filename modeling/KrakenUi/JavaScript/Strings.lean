import Mathlib.Data.List.Infix
import Mathlib.Data.List.TakeWhile

namespace JavaScript

/-!
# Strings as sequences of code units

A string of the language is any sequence of 16-bit units.  A text of characters
is encoded with one or two units for each.  The first unit of a character is
never the second unit of another, so a text occurs in a text exactly when its
units occur in the units.
-/

abbrev JsString := List UInt16

/-- The unit of a character that needs only one. -/
def unit (character : Char) : UInt16 := UInt16.ofNat character.toNat

/-- The text of a literal whose characters need one unit each. -/
def literal (text : String) : JsString := text.toList.map unit

/-- `WhiteSpace` and `LineTerminator`, which `trim` removes and `\s` matches. -/
def isWhiteSpace (unit : UInt16) : Bool :=
  let code := unit.toNat
  (9 ≤ code && code ≤ 13) || code == 0x20 || code == 0xA0 || code == 0x1680 ||
    (0x2000 ≤ code && code ≤ 0x200A) || code == 0x2028 || code == 0x2029 || code == 0x202F ||
    code == 0x205F || code == 0x3000 || code == 0xFEFF

/-- A unit of a range such as `[a-z]`. -/
def between (first last : Char) (character : UInt16) : Bool :=
  decide (first.toNat ≤ character.toNat) && decide (character.toNat ≤ last.toNat)

def trim (text : JsString) : JsString :=
  ((text.dropWhile isWhiteSpace).reverse.dropWhile isWhiteSpace).reverse

/-- `text.includes(searched)`. -/
def includes (text searched : JsString) : Bool :=
  decide (searched <:+: text)

/-! ## Characters -/

def encodeChar (character : Char) : JsString :=
  let code := character.toNat
  if code < 0x10000 then [UInt16.ofNat code]
  else [UInt16.ofNat (0xD800 + (code - 0x10000) / 0x400),
    UInt16.ofNat (0xDC00 + (code - 0x10000) % 0x400)]

def encode (text : List Char) : JsString := text.flatMap encodeChar

/-- The second unit of a pair. -/
def IsLow (unit : UInt16) : Prop := 0xDC00 ≤ unit.toNat ∧ unit.toNat < 0xE000

theorem encode_nil : encode [] = [] := rfl

theorem encode_cons (character : Char) (text : List Char) :
    encode (character :: text) = encodeChar character ++ encode text := rfl

theorem encode_append (front back : List Char) :
    encode (front ++ back) = encode front ++ encode back :=
  List.flatMap_append

theorem toNat_valid (character : Char) :
    character.toNat < 0xD800 ∨ (0xE000 ≤ character.toNat ∧ character.toNat < 0x110000) := by
  rcases character.valid with low | ⟨above, below⟩
  · exact Or.inl low
  · exact Or.inr ⟨above, below⟩

/-- A character is one unit, or a pair. -/
theorem encodeChar_cases (character : Char) :
    (Exists fun only => encodeChar character = [only] ∧ only.toNat = character.toNat ∧
        character.toNat < 0x10000) ∨
      Exists fun high => Exists fun low => encodeChar character = [high, low] ∧
        high.toNat = 0xD800 + (character.toNat - 0x10000) / 0x400 ∧
          low.toNat = 0xDC00 + (character.toNat - 0x10000) % 0x400 ∧
            0x10000 ≤ character.toNat := by
  have valid := toNat_valid character
  unfold encodeChar
  dsimp only
  split
  · rename_i basic
    exact Or.inl ⟨_, rfl, UInt16.toNat_ofNat_of_lt' basic, basic⟩
  · rename_i astral
    refine Or.inr ⟨_, _, rfl, UInt16.toNat_ofNat_of_lt' ?_, UInt16.toNat_ofNat_of_lt' ?_,
      Nat.not_lt.mp astral⟩
    · change _ < 65536
      omega
    · change _ < 65536
      omega

theorem encodeChar_ne_nil (character : Char) : encodeChar character ≠ [] := by
  rcases encodeChar_cases character with ⟨only, same, -⟩ | ⟨high, low, same, -⟩
  · rw [same]
    exact List.cons_ne_nil _ _
  · rw [same]
    exact List.cons_ne_nil _ _

/-- No character begins with the second unit of a pair. -/
theorem encodeChar_head {character : Char} {first : UInt16} {rest : JsString}
    (whole : encodeChar character = first :: rest) : ¬ IsLow first := by
  have valid := toNat_valid character
  unfold IsLow
  rcases encodeChar_cases character with ⟨only, same, code, basic⟩ | ⟨high, low, same, code, -, -⟩
  · rw [whole] at same
    have first' : first = only := (List.cons.inj same).1
    rw [first']
    omega
  · rw [whole] at same
    have first' : first = high := (List.cons.inj same).1
    rw [first']
    omega

/-- The units of a character are read in one way only. -/
theorem encodeChar_append_inj {left right : Char} {front back : JsString}
    (same : encodeChar left ++ front = encodeChar right ++ back) : left = right ∧ front = back := by
  have valid := toNat_valid left
  have valid' := toNat_valid right
  rcases encodeChar_cases left with ⟨only, whole, code, basic⟩ |
    ⟨high, low, whole, code, code', big⟩
  · rcases encodeChar_cases right with ⟨only', whole', code'', basic'⟩ |
      ⟨high', low', whole', code'', -, big'⟩
    · rw [whole, whole'] at same
      have parts := List.cons.inj same
      rw [parts.1] at code
      exact ⟨Char.toNat_inj.mp (code.symm.trans code''), parts.2⟩
    · rw [whole, whole'] at same
      have parts := List.cons.inj same
      rw [parts.1] at code
      omega
  · rcases encodeChar_cases right with ⟨only', whole', code'', basic'⟩ |
      ⟨high', low', whole', code'', code''', big'⟩
    · rw [whole, whole'] at same
      have parts := List.cons.inj same
      rw [parts.1] at code
      omega
    · rw [whole, whole'] at same
      have parts := List.cons.inj same
      have rests := List.cons.inj parts.2
      rw [parts.1] at code
      rw [rests.1] at code'
      exact ⟨Char.toNat_inj.mp (by omega), rests.2⟩

theorem prefix_encode {needle text : List Char} :
    encode needle <+: encode text ↔ needle <+: text := by
  constructor
  · intro isPrefix
    induction needle generalizing text with
    | nil => exact List.nil_prefix
    | cons character needle inductionHypothesis =>
        rcases isPrefix with ⟨behind, whole⟩
        rw [encode_cons, List.append_assoc] at whole
        cases text with
        | nil =>
            rw [encode_nil] at whole
            exact absurd (List.append_eq_nil_iff.mp whole).1 (encodeChar_ne_nil character)
        | cons first text =>
            rw [encode_cons] at whole
            have parts := encodeChar_append_inj whole
            rw [parts.1]
            exact List.cons_prefix_cons.mpr ⟨rfl, inductionHypothesis ⟨behind, parts.2⟩⟩
  · rintro ⟨behind, rfl⟩
    exact ⟨encode behind, (encode_append needle behind).symm⟩

/-- A text occurs in another exactly when its units do. -/
theorem infix_encode {needle text : List Char} :
    encode needle <:+: encode text ↔ needle <:+: text := by
  constructor
  · intro inside
    cases needle with
    | nil => exact List.nil_infix
    | cons wanted needle =>
        induction text with
        | nil =>
            rw [encode_nil] at inside
            have nothing := List.infix_nil.mp inside
            rw [encode_cons] at nothing
            exact absurd (List.append_eq_nil_iff.mp nothing).1 (encodeChar_ne_nil wanted)
        | cons character text inductionHypothesis =>
            rw [encode_cons character text] at inside
            rcases encodeChar_cases character with ⟨only, whole, -⟩ | ⟨high, low, whole, -, code, -⟩
            · rw [whole, List.singleton_append] at inside
              rcases List.infix_cons_iff.mp inside with here | later
              · have front : only :: encode text = encode (character :: text) := by
                  rw [encode_cons, whole]
                  rfl
                rw [front] at here
                exact (prefix_encode.mp here).isInfix
              · exact List.infix_cons (inductionHypothesis later)
            · rw [whole, List.cons_append, List.singleton_append] at inside
              rcases List.infix_cons_iff.mp inside with here | behind
              · have front : high :: low :: encode text = encode (character :: text) := by
                  rw [encode_cons, whole]
                  rfl
                rw [front] at here
                exact (prefix_encode.mp here).isInfix
              · rcases List.infix_cons_iff.mp behind with between | later
                · -- no text begins in the middle of a pair
                  rcases between with ⟨rest, same⟩
                  rw [encode_cons] at same
                  cases first : encodeChar wanted with
                  | nil => exact absurd first (encodeChar_ne_nil wanted)
                  | cons head tail =>
                      rw [first] at same
                      have heads : head = low := (List.cons.inj same).1
                      refine absurd ?_ (encodeChar_head first)
                      rw [heads]
                      unfold IsLow
                      omega
                · exact List.infix_cons (inductionHypothesis later)
  · rintro ⟨front, behind, rfl⟩
    refine ⟨encode front, encode behind, ?_⟩
    rw [← encode_append, ← encode_append]

theorem length_le_encode (text : List Char) : text.length ≤ (encode text).length := by
  induction text with
  | nil => exact Nat.le_refl 0
  | cons character text inductionHypothesis =>
      have some' := List.length_pos_of_ne_nil (encodeChar_ne_nil character)
      rw [encode_cons, List.length_append, List.length_cons]
      omega

/-- What is known of the units of each character is known of the units of a text. -/
theorem any_encode {holds : UInt16 -> Bool} {of : Char -> Bool}
    (each : forall character, (encodeChar character).any holds = of character) (text : List Char) :
    (encode text).any holds = text.any of := by
  induction text with
  | nil => rfl
  | cons character text inductionHypothesis =>
      rw [encode_cons, List.any_append, each, inductionHypothesis, List.any_cons]

/-- A property of single units that holds of no half of a pair. -/
structure Basic (holds : UInt16 -> Bool) (of : Char -> Bool) : Prop where
  single : forall unit character, unit.toNat = character.toNat -> holds unit = of character
  paired : forall unit : UInt16, 0xD800 ≤ unit.toNat -> unit.toNat < 0xE000 -> holds unit = false
  beyond : forall character : Char, 0x10000 ≤ character.toNat -> of character = false

section Basic

variable {holds : UInt16 -> Bool} {of : Char -> Bool}

theorem Basic.char (basic : Basic holds of) (character : Char) :
    (encodeChar character).any holds = of character := by
  have valid := toNat_valid character
  rcases encodeChar_cases character with ⟨only, whole, code, -⟩ |
    ⟨high, low, whole, code, code', big⟩
  · rw [whole, List.any_cons, List.any_nil, Bool.or_false, basic.single only character code]
  · rw [whole, List.any_cons, List.any_cons, List.any_nil, basic.paired high (by omega) (by omega),
      basic.paired low (by omega) (by omega), basic.beyond character big]
    rfl

/-- Such a property is found among the units exactly when it is among the characters. -/
theorem Basic.any (basic : Basic holds of) (text : List Char) :
    (encode text).any holds = text.any of :=
  any_encode basic.char text

/-- What such a property drops in front are whole characters. -/
theorem Basic.dropWhile (basic : Basic holds of) (text : List Char) :
    (encode text).dropWhile holds = encode (text.dropWhile of) := by
  have valid := toNat_valid
  induction text with
  | nil => rfl
  | cons character text inductionHypothesis =>
      have valid' := toNat_valid character
      rcases encodeChar_cases character with ⟨only, whole, code, -⟩ |
        ⟨high, low, whole, code, -, big⟩
      · have same := basic.single only character code
        rw [encode_cons, whole, List.singleton_append]
        cases dropped : of character with
        | true =>
            rw [List.dropWhile_cons_of_pos (same.trans dropped), inductionHypothesis,
              List.dropWhile_cons_of_pos dropped]
        | false =>
            rw [List.dropWhile_cons_of_neg (by rw [same, dropped]; simp),
              List.dropWhile_cons_of_neg (by rw [dropped]; simp), encode_cons, whole]
            rfl
      · have kept := basic.paired high (by omega) (by omega)
        rw [encode_cons, whole, List.cons_append, List.dropWhile_cons_of_neg (by rw [kept]; simp),
          List.dropWhile_cons_of_neg (by rw [basic.beyond character big]; simp), encode_cons, whole]
        rfl

/-- What such a property drops at the end are whole characters. -/
theorem Basic.dropWhile_reverse (basic : Basic holds of) (text : List Char) :
    ((encode text).reverse.dropWhile holds).reverse =
      encode (text.reverse.dropWhile of).reverse := by
  induction text using List.reverseRecOn with
  | nil => rfl
  | append_singleton text character inductionHypothesis =>
      have valid' := toNat_valid character
      have last : encode [character] = encodeChar character := List.append_nil _
      rcases encodeChar_cases character with ⟨only, whole, code, -⟩ |
        ⟨high, low, whole, -, code, big⟩
      · have same := basic.single only character code
        rw [encode_append, last, whole, List.reverse_append, List.reverse_append,
          List.reverse_singleton, List.reverse_singleton, List.singleton_append,
          List.singleton_append]
        cases dropped : of character with
        | true =>
            rw [List.dropWhile_cons_of_pos (same.trans dropped), inductionHypothesis,
              List.dropWhile_cons_of_pos dropped]
        | false =>
            rw [List.dropWhile_cons_of_neg (by rw [same, dropped]; simp),
              List.dropWhile_cons_of_neg (by rw [dropped]; simp), List.reverse_cons,
              List.reverse_reverse, List.reverse_cons, List.reverse_reverse, encode_append, last,
              whole]
      · have kept := basic.paired low (by omega) (by omega)
        have pair : (encode (text ++ [character])).reverse = low :: high ::
          (encode text).reverse := by
          rw [encode_append, last, whole]
          simp
        have kept' := basic.beyond character big
        rw [pair, List.dropWhile_cons_of_neg (by rw [kept]; simp), ← pair, List.reverse_reverse,
          List.reverse_append, List.reverse_singleton, List.singleton_append,
          List.dropWhile_cons_of_neg (by rw [kept']; simp), List.reverse_cons,
          List.reverse_reverse]

/-- What comes before the first such unit are whole characters. -/
theorem Basic.takeWhile (basic : Basic holds of) (text : List Char) :
    (encode text).takeWhile (fun unit => !holds unit) =
      encode (text.takeWhile fun character => !of character) := by
  induction text with
  | nil => rfl
  | cons character text inductionHypothesis =>
      have valid' := toNat_valid character
      rcases encodeChar_cases character with ⟨only, whole, code, -⟩ |
        ⟨high, low, whole, code, code', big⟩
      · have same := basic.single only character code
        rw [encode_cons, whole, List.singleton_append]
        cases stops : of character with
        | true =>
            rw [List.takeWhile_cons_of_neg (by rw [same, stops]; simp),
              List.takeWhile_cons_of_neg (by rw [stops]; simp)]
            rfl
        | false =>
            rw [List.takeWhile_cons_of_pos (by rw [same, stops]; rfl), inductionHypothesis,
              List.takeWhile_cons_of_pos (by rw [stops]; rfl), encode_cons, whole]
            rfl
      · have first := basic.paired high (by omega) (by omega)
        have second := basic.paired low (by omega) (by omega)
        rw [encode_cons, whole, List.cons_append, List.singleton_append,
          List.takeWhile_cons_of_pos (by rw [first]; rfl),
          List.takeWhile_cons_of_pos (by rw [second]; rfl), inductionHypothesis,
          List.takeWhile_cons_of_pos (by rw [basic.beyond character big]; rfl), encode_cons, whole]
        rfl

end Basic

/-- A character that `trim` removes. -/
def isWhiteSpaceChar (character : Char) : Bool :=
  decide (character.toNat < 0x10000) && isWhiteSpace (unit character)

theorem basic_whiteSpace : Basic isWhiteSpace isWhiteSpaceChar where
  single := by
    intro other character same
    have small := other.toNat_lt
    have basic : character.toNat < 0x10000 := same ▸ small
    have equal : unit character = other := by
      rw [unit, ← same, UInt16.ofNat_toNat]
    rw [isWhiteSpaceChar, equal, decide_eq_true basic]
    rfl
  paired := by
    intro other low high
    simp only [isWhiteSpace, Bool.or_eq_false_iff, Bool.and_eq_false_imp, decide_eq_true_eq,
      decide_eq_false_iff_not, beq_eq_false_iff_ne]
    omega
  beyond := by
    intro character big
    rw [isWhiteSpaceChar, decide_eq_false (Nat.not_lt.mpr big)]
    rfl

def trimText (text : List Char) : List Char :=
  ((text.dropWhile isWhiteSpaceChar).reverse.dropWhile isWhiteSpaceChar).reverse

theorem trim_encode (text : List Char) : trim (encode text) = encode (trimText text) := by
  rw [trim, basic_whiteSpace.dropWhile, basic_whiteSpace.dropWhile_reverse, trimText]

/-- What is left of a text when it is trimmed is a text in it. -/
theorem trimText_infix (text : List Char) : trimText text <:+: text := by
  have front : text.dropWhile isWhiteSpaceChar <:+ text := List.dropWhile_suffix _
  have back : trimText text <+: text.dropWhile isWhiteSpaceChar := by
    rw [← List.reverse_suffix, trimText, List.reverse_reverse]
    exact List.dropWhile_suffix _
  exact back.isInfix.trans front.isInfix

theorem trimText_keeps {text : List Char}
    (kept : forall character, character ∈ text -> isWhiteSpaceChar character = false) :
    trimText text = text := by
  have unchanged : forall {part : List Char},
      (forall character, character ∈ part -> isWhiteSpaceChar character = false) ->
        part.dropWhile isWhiteSpaceChar = part := by
    intro part kept
    cases part with
    | nil => rfl
    | cons character part =>
        refine List.dropWhile_cons_of_neg ?_
        rw [kept character List.mem_cons_self]
        simp
  rw [trimText, unchanged kept, unchanged fun character member =>
    kept character (List.mem_reverse.mp member), List.reverse_reverse]

end JavaScript
