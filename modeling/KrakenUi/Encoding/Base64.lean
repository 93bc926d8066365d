import Mathlib.Data.List.Basic

namespace Base64

/-!
# Base64 for addresses and file names

Three bytes are written as four digits of six bits, and one or two bytes at the
end as two or three digits, without padding.  The digits are letters, decimal
digits, the hyphen and the underscore, and different bytes are written
differently.

The standard alphabet has two other digits, and either alphabet can be padded
to a multiple of four.  A strict engine reads back what it writes and nothing
else.
-/

def digit (number : Nat) : Char :=
  if number < 26 then Char.ofNat (65 + number)
  else if number < 52 then Char.ofNat (71 + number)
  else if number < 62 then Char.ofNat (number - 4)
  else if number = 62 then '-'
  else '_'

/-- The number a digit stands for. -/
def value (character : Char) : Nat :=
  if character = '-' then 62
  else if character = '_' then 63
  else if character.toNat < 58 then character.toNat + 4
  else if character.toNat < 91 then character.toNat - 65
  else character.toNat - 71

def IsDigit (character : Char) : Prop :=
  character.isAlphanum = true ∨ character = '-' ∨ character = '_'

instance (character : Char) : Decidable (IsDigit character) :=
  inferInstanceAs (Decidable (_ ∨ _ ∨ _))

def encodeBytes : List UInt8 -> List Char
  | [] => []
  | [first] => [digit (first.toNat / 4), digit (first.toNat % 4 * 16)]
  | [first, second] =>
      [digit (first.toNat / 4), digit (first.toNat % 4 * 16 + second.toNat / 16),
        digit (second.toNat % 16 * 4)]
  | first :: second :: third :: rest =>
      digit (first.toNat / 4) :: digit (first.toNat % 4 * 16 + second.toNat / 16) ::
        digit (second.toNat % 16 * 4 + third.toNat / 64) :: digit (third.toNat % 64) ::
        encodeBytes rest

def encode (bytes : ByteArray) : String :=
  String.ofList (encodeBytes bytes.data.toList)

example : encode "Man".toUTF8 = "TWFu" := by decide

theorem value_digit {number : Nat} (small : number < 64) : value (digit number) = number := by
  revert number
  decide

theorem isDigit_digit {number : Nat} (small : number < 64) : IsDigit (digit number) := by
  revert number
  decide

theorem digit_inj {number other : Nat} (small : number < 64) (otherSmall : other < 64)
    (same : digit number = digit other) : number = other := by
  rw [← value_digit small, ← value_digit otherSmall, same]

/-- Only digits are written. -/
theorem isDigit_of_mem (bytes : List UInt8) : forall character,
    character ∈ encodeBytes bytes -> IsDigit character := by
  induction bytes using encodeBytes.induct with
  | case1 =>
      intro character member
      cases member
  | case2 first =>
      have bound := first.toNat_lt
      intro character member
      simp only [encodeBytes, List.mem_cons, List.not_mem_nil, or_false] at member
      rcases member with rfl | rfl
      · exact isDigit_digit (by omega)
      · exact isDigit_digit (by omega)
  | case3 first second =>
      have bound := first.toNat_lt
      have bound' := second.toNat_lt
      intro character member
      simp only [encodeBytes, List.mem_cons, List.not_mem_nil, or_false] at member
      rcases member with rfl | rfl | rfl
      · exact isDigit_digit (by omega)
      · exact isDigit_digit (by omega)
      · exact isDigit_digit (by omega)
  | case4 first second third rest inductionHypothesis =>
      have bound := first.toNat_lt
      have bound' := second.toNat_lt
      have bound'' := third.toNat_lt
      intro character member
      simp only [encodeBytes, List.mem_cons] at member
      rcases member with rfl | rfl | rfl | rfl | later
      · exact isDigit_digit (by omega)
      · exact isDigit_digit (by omega)
      · exact isDigit_digit (by omega)
      · exact isDigit_digit (by omega)
      · exact inductionHypothesis character later

/-- The digits of a group determine its bytes. -/
theorem group_injective {first second third first' second' third' : UInt8}
    (one : digit (first.toNat / 4) = digit (first'.toNat / 4))
    (two : digit (first.toNat % 4 * 16 + second.toNat / 16) =
      digit (first'.toNat % 4 * 16 + second'.toNat / 16))
    (three : digit (second.toNat % 16 * 4 + third.toNat / 64) =
      digit (second'.toNat % 16 * 4 + third'.toNat / 64))
    (four : digit (third.toNat % 64) = digit (third'.toNat % 64)) :
    first = first' ∧ second = second' ∧ third = third' := by
  have bounds := first.toNat_lt
  have bounds' := first'.toNat_lt
  have secondBounds := second.toNat_lt
  have secondBounds' := second'.toNat_lt
  have thirdBounds := third.toNat_lt
  have thirdBounds' := third'.toNat_lt
  have high := digit_inj (by omega) (by omega) one
  have middle := digit_inj (by omega) (by omega) two
  have lower := digit_inj (by omega) (by omega) three
  have low := digit_inj (by omega) (by omega) four
  refine ⟨UInt8.toNat_inj.mp ?_, UInt8.toNat_inj.mp ?_, UInt8.toNat_inj.mp ?_⟩
  · omega
  · omega
  · omega

theorem encodeBytes_injective {left right : List UInt8}
    (same : encodeBytes left = encodeBytes right) : left = right := by
  induction left using encodeBytes.induct generalizing right with
  | case1 =>
      match right with
      | [] => rfl
      | [_] => simp [encodeBytes] at same
      | [_, _] => simp [encodeBytes] at same
      | _ :: _ :: _ :: _ => simp [encodeBytes] at same
  | case2 first =>
      match right with
      | [] => simp [encodeBytes] at same
      | [first'] =>
          simp only [encodeBytes, List.cons.injEq, and_true] at same
          have zero : (0 : UInt8).toNat = 0 := rfl
          rcases @group_injective first 0 0 first' 0 0 same.1 (by simpa [zero] using same.2) rfl rfl
              with ⟨rfl, -, -⟩
          rfl
      | [_, _] => simp [encodeBytes] at same
      | _ :: _ :: _ :: _ => simp [encodeBytes] at same
  | case3 first second =>
      match right with
      | [] => simp [encodeBytes] at same
      | [_] => simp [encodeBytes] at same
      | [first', second'] =>
          simp only [encodeBytes, List.cons.injEq, and_true] at same
          have zero : (0 : UInt8).toNat = 0 := rfl
          rcases @group_injective first second 0 first' second' 0 same.1 same.2.1
              (by simpa [zero] using same.2.2) rfl with ⟨rfl, rfl, -⟩
          rfl
      | _ :: _ :: _ :: _ => simp [encodeBytes] at same
  | case4 first second third rest inductionHypothesis =>
      match right with
      | [] => simp [encodeBytes] at same
      | [_] => simp [encodeBytes] at same
      | [_, _] => simp [encodeBytes] at same
      | first' :: second' :: third' :: rest' =>
          simp only [encodeBytes, List.cons.injEq] at same
          rcases same with ⟨one, two, three, four, later⟩
          rcases group_injective one two three four with ⟨rfl, rfl, rfl⟩
          rw [inductionHypothesis later]

/-- Different bytes are written differently. -/
theorem encode_injective {left right : ByteArray} (same : encode left = encode right) :
    left = right := by
  have lists := encodeBytes_injective (String.ofList_inj.mp same)
  exact ByteArray.ext (Array.toList_inj.mp lists)

/-! ## Alphabets and padding -/

inductive Alphabet where
  | urlSafe
  | standard
  deriving DecidableEq

namespace Alphabet

def symbol : Alphabet -> Char -> Char
  | urlSafe, character => character
  | standard, character =>
      if character = '-' then '+' else if character = '_' then '/' else character

/-- The digit for addresses that a symbol stands for. -/
def normal : Alphabet -> Char -> Option Char
  | urlSafe, character => if IsDigit character then some character else none
  | standard, character =>
      if character = '+' then some '-'
      else if character = '/' then some '_'
      else if character.isAlphanum then some character
      else none

end Alphabet

structure Engine where
  alphabet : Alphabet
  padded : Bool
  deriving DecidableEq

def urlSafeNoPad : Engine := ⟨.urlSafe, false⟩

def urlSafe : Engine := ⟨.urlSafe, true⟩

def standardNoPad : Engine := ⟨.standard, false⟩

def standard : Engine := ⟨.standard, true⟩

/-- What fills a text of so many digits. -/
def padding (digits : Nat) : List Char :=
  List.replicate ((4 - digits % 4) % 4) '='

namespace Engine

variable (engine : Engine)

def filler (digits : Nat) : List Char :=
  if engine.padded then padding digits else []

def spell (bytes : List UInt8) : List Char :=
  let digits := encodeBytes bytes
  digits.map engine.alphabet.symbol ++ engine.filler digits.length

end Engine

example : String.ofList (standard.spell [251, 255, 191, 62]) = "+/+/Pg==" := by decide

/-- The bytes, unless bits are left over that are not zeros. -/
def unlessLeft (left : Nat) (bytes : List UInt8) : Option (List UInt8) :=
  if left = 0 then some bytes else none

def decodeDigits : List Char -> Option (List UInt8)
  | [] => some []
  | [_] => none
  | [first, second] =>
      unlessLeft (value second % 16) [UInt8.ofNat (value first * 4 + value second / 16)]
  | [first, second, third] =>
      unlessLeft (value third % 4)
        [UInt8.ofNat (value first * 4 + value second / 16),
          UInt8.ofNat (value second % 16 * 16 + value third / 4)]
  | first :: second :: third :: fourth :: rest =>
      (decodeDigits rest).map fun bytes =>
        UInt8.ofNat (value first * 4 + value second / 16) ::
          UInt8.ofNat (value second % 16 * 16 + value third / 4) ::
            UInt8.ofNat (value third % 4 * 64 + value fourth) :: bytes

namespace Engine

variable (engine : Engine)

def decodeChars (text : List Char) : Option (List UInt8) :=
  let symbols := text.takeWhile (· != '=')
  if text = symbols ++ engine.filler symbols.length then
    (symbols.mapM engine.alphabet.normal).bind decodeDigits
  else none

def decode (text : String) : Option ByteArray :=
  (engine.decodeChars text.toList).map fun bytes => ⟨bytes.toArray⟩

/-- A reader accepts exactly what the engine writes. -/
def Strict (reader : String -> Option ByteArray) : Prop :=
  forall text bytes, reader text = some bytes ↔
    text.toList = engine.spell bytes.data.toList

end Engine

section Spelling

/-- A letter or a decimal digit stands between the zero and the last small letter. -/
theorem toNat_of_isAlphanum {character : Char} (listed : character.isAlphanum = true) :
    48 ≤ character.toNat ∧ character.toNat ≤ 122 := by
  have bounds : forall {low high : Char}, low.val ≤ character.val -> character.val ≤ high.val ->
      48 ≤ low.toNat -> high.toNat ≤ 122 -> 48 ≤ character.toNat ∧ character.toNat ≤ 122 := by
    intro low high least most first last
    have least' : low.toNat ≤ character.toNat := least
    have most' : character.toNat ≤ high.toNat := most
    exact ⟨Nat.le_trans first least', Nat.le_trans most' last⟩
  change ((decide (character.val ≥ 'A'.val ∧ character.val ≤ 'Z'.val) ||
    (decide (character.val ≥ 'a'.val) && decide (character.val ≤ 'z'.val))) ||
    (decide (character.val ≥ '0'.val) && decide (character.val ≤ '9'.val))) = true at listed
  simp only [Bool.or_eq_true, Bool.and_eq_true, decide_eq_true_eq, ge_iff_le] at listed
  rcases listed with (upper | lower) | digit
  · exact bounds upper.1 upper.2 (by decide) (by decide)
  · exact bounds lower.1 lower.2 (by decide) (by decide)
  · exact bounds digit.1 digit.2 (by decide) (by decide)

/-- What is decided for the first 128 characters holds of every digit. -/
theorem forall_digit (holds : Char -> Prop)
    (small : forall code, code < 128 -> IsDigit (Char.ofNat code) -> holds (Char.ofNat code))
    {character : Char} (isDigit : IsDigit character) : holds character := by
  have bounded : character.toNat < 128 := by
    rcases isDigit with alphanumeric | rfl | rfl
    · exact Nat.lt_of_le_of_lt (toNat_of_isAlphanum alphanumeric).2 (by decide)
    · decide
    · decide
  have found := small character.toNat bounded
  rw [Char.ofNat_toNat] at found
  exact found isDigit

theorem value_lt {character : Char} (isDigit : IsDigit character) : value character < 64 :=
  forall_digit (fun digit => value digit < 64) (by decide) isDigit

theorem digit_value {character : Char} (isDigit : IsDigit character) :
    digit (value character) = character :=
  forall_digit (fun read => digit (value read) = read) (by decide) isDigit

theorem ofNat_toNat_eq {number : Nat} (byte : UInt8) (same : number = byte.toNat) :
    UInt8.ofNat number = byte := by
  rw [same, UInt8.ofNat_toNat]

theorem unlessLeft_eq_some {left : Nat} {bytes result : List UInt8} :
    unlessLeft left bytes = some result ↔ left = 0 ∧ bytes = result := by
  unfold unlessLeft
  split
  · rename_i nothing
    rw [Option.some.injEq]
    exact ⟨fun same => ⟨nothing, same⟩, And.right⟩
  · rename_i something
    exact ⟨nofun, fun both => absurd both.1 something⟩

/-- The digits that are written are read back. -/
theorem decodeDigits_encodeBytes (bytes : List UInt8) :
    decodeDigits (encodeBytes bytes) = some bytes := by
  induction bytes using encodeBytes.induct with
  | case1 => rfl
  | case2 first =>
      have bound := first.toNat_lt
      rw [encodeBytes, decodeDigits, value_digit (by omega), value_digit (by omega),
        unlessLeft_eq_some, ofNat_toNat_eq first (by omega)]
      exact ⟨by omega, rfl⟩
  | case3 first second =>
      have bound := first.toNat_lt
      have bound' := second.toNat_lt
      rw [encodeBytes, decodeDigits, value_digit (by omega), value_digit (by omega),
        value_digit (by omega), unlessLeft_eq_some, ofNat_toNat_eq first (by omega),
        ofNat_toNat_eq second (by omega)]
      exact ⟨by omega, rfl⟩
  | case4 first second third rest inductionHypothesis =>
      have bound := first.toNat_lt
      have bound' := second.toNat_lt
      have bound'' := third.toNat_lt
      rw [encodeBytes, decodeDigits, inductionHypothesis, value_digit (by omega),
        value_digit (by omega), value_digit (by omega), value_digit (by omega), Option.map_some,
        ofNat_toNat_eq first (by omega), ofNat_toNat_eq second (by omega),
        ofNat_toNat_eq third (by omega)]

theorem toNat_ofNat_small {number : Nat} (small : number < 256) :
    (UInt8.ofNat number).toNat = number :=
  UInt8.toNat_ofNat_of_lt small

/-- A digit whose number has been put together from the bytes is the one that was read. -/
theorem digit_eq {number : Nat} {character : Char} (isDigit : IsDigit character)
    (same : number = value character) : digit number = character := by
  rw [same, digit_value isDigit]

/-- Digits that are read are the ones that are written for the bytes. -/
theorem encodeBytes_of_decodeDigits {digits : List Char} {bytes : List UInt8}
    (allDigits : forall character, character ∈ digits -> IsDigit character)
    (decoded : decodeDigits digits = some bytes) : encodeBytes bytes = digits := by
  induction digits using decodeDigits.induct generalizing bytes with
  | case1 =>
      cases decoded
      rfl
  | case2 only => cases decoded
  | case3 first second =>
      have isFirst := allDigits first (by simp)
      have isSecond := allDigits second (by simp)
      have one := value_lt isFirst
      have two := value_lt isSecond
      rcases unlessLeft_eq_some.mp decoded with ⟨nothing, rfl⟩
      rw [encodeBytes, toNat_ofNat_small (by omega), digit_eq isFirst (by omega),
        digit_eq isSecond (by omega)]
  | case4 first second third =>
      have isFirst := allDigits first (by simp)
      have isSecond := allDigits second (by simp)
      have isThird := allDigits third (by simp)
      have one := value_lt isFirst
      have two := value_lt isSecond
      have three := value_lt isThird
      rcases unlessLeft_eq_some.mp decoded with ⟨nothing, rfl⟩
      rw [encodeBytes, toNat_ofNat_small (by omega), toNat_ofNat_small (by omega),
        digit_eq isFirst (by omega), digit_eq isSecond (by omega), digit_eq isThird (by omega)]
  | case5 first second third fourth rest inductionHypothesis =>
      have isFirst := allDigits first (by simp)
      have isSecond := allDigits second (by simp)
      have isThird := allDigits third (by simp)
      have isFourth := allDigits fourth (by simp)
      have one := value_lt isFirst
      have two := value_lt isSecond
      have three := value_lt isThird
      have four := value_lt isFourth
      rcases Option.map_eq_some_iff.mp decoded with ⟨later, decodedRest, rfl⟩
      have restDigits : forall character, character ∈ rest -> IsDigit character :=
        fun character member => allDigits character (by simp [member])
      rw [encodeBytes, inductionHypothesis restDigits decodedRest, toNat_ofNat_small (by omega),
        toNat_ofNat_small (by omega), toNat_ofNat_small (by omega), digit_eq isFirst (by omega),
        digit_eq isSecond (by omega), digit_eq isThird (by omega), digit_eq isFourth (by omega)]

/-! ### Symbols -/

theorem symbol_facts {alphabet : Alphabet} {character : Char} (isDigit : IsDigit character) :
    alphabet.normal (alphabet.symbol character) = some character ∧
      alphabet.symbol character ≠ '=' := by
  cases alphabet with
  | urlSafe =>
      refine ⟨if_pos isDigit, ?_⟩
      rintro rfl
      revert isDigit
      decide
  | standard =>
      exact forall_digit (fun digit =>
        Alphabet.standard.normal (Alphabet.standard.symbol digit) = some digit ∧
          Alphabet.standard.symbol digit ≠ '=') (by decide) isDigit

theorem symbol_of_normal {alphabet : Alphabet} {character read : Char}
    (normal : alphabet.normal character = some read) :
    alphabet.symbol read = character ∧ IsDigit read := by
  cases alphabet with
  | urlSafe =>
      simp only [Alphabet.normal] at normal
      split at normal
      · rename_i isDigit
        cases normal
        exact ⟨rfl, isDigit⟩
      · cases normal
  | standard =>
      simp only [Alphabet.normal] at normal
      split at normal
      · rename_i same
        cases normal
        exact ⟨same.symm, by decide⟩
      · split at normal
        · rename_i same
          cases normal
          exact ⟨same.symm, by decide⟩
        · split at normal
          · rename_i alphanumeric
            rcases Option.some.inj normal with rfl
            have hyphen : character ≠ '-' := by
              rintro rfl
              cases alphanumeric
            have underscore : character ≠ '_' := by
              rintro rfl
              cases alphanumeric
            refine ⟨?_, Or.inl alphanumeric⟩
            rw [Alphabet.symbol, if_neg hyphen, if_neg underscore]
          · cases normal

theorem mapM_normal_symbols {alphabet : Alphabet} {digits : List Char}
    (allDigits : forall character, character ∈ digits -> IsDigit character) :
    (digits.map alphabet.symbol).mapM alphabet.normal = some digits := by
  induction digits with
  | nil => rfl
  | cons character digits inductionHypothesis =>
      have later := inductionHypothesis fun other member => allDigits other (by simp [member])
      rw [List.map_cons, List.mapM_cons, (symbol_facts (allDigits character (by simp))).1, later]
      rfl

theorem symbols_of_mapM_normal {alphabet : Alphabet} {symbols digits : List Char}
    (read : symbols.mapM alphabet.normal = some digits) :
    digits.map alphabet.symbol = symbols ∧
      forall character, character ∈ digits -> IsDigit character := by
  induction symbols generalizing digits with
  | nil =>
      cases read
      exact ⟨rfl, nofun⟩
  | cons symbol symbols inductionHypothesis =>
      rw [List.mapM_cons] at read
      rcases Option.bind_eq_some_iff.mp read with ⟨first, normal, rest⟩
      rcases Option.bind_eq_some_iff.mp rest with ⟨others, later, same⟩
      cases same
      rcases symbol_of_normal normal with ⟨symbolFirst, isDigit⟩
      rcases inductionHypothesis later with ⟨symbolsOthers, allDigits⟩
      refine ⟨by rw [List.map_cons, symbolFirst, symbolsOthers], ?_⟩
      intro character member
      rcases List.mem_cons.mp member with rfl | among
      · exact isDigit
      · exact allDigits character among

end Spelling

namespace Engine

variable (engine : Engine)

theorem filler_only (digits : Nat) : forall character, character ∈ engine.filler digits ->
    character = '=' := by
  intro character member
  unfold filler at member
  split at member
  · exact List.eq_of_mem_replicate member
  · cases member

/-- The symbols are what stands before the first sign of padding. -/
theorem takeWhile_spell (bytes : List UInt8) :
    (engine.spell bytes).takeWhile (· != '=') =
      (encodeBytes bytes).map engine.alphabet.symbol := by
  have symbols : forall character,
      character ∈ (encodeBytes bytes).map engine.alphabet.symbol -> (character != '=') = true := by
    intro character member
    rcases List.mem_map.mp member with ⟨read, among, rfl⟩
    exact bne_iff_ne.mpr (symbol_facts (isDigit_of_mem bytes read among)).2
  rw [spell, List.takeWhile_append_of_pos symbols]
  have nothing : (engine.filler (encodeBytes bytes).length).takeWhile (· != '=') = [] := by
    cases filled : engine.filler (encodeBytes bytes).length with
    | nil => rfl
    | cons character rest =>
        have sign := engine.filler_only _ character (by rw [filled]; exact List.mem_cons_self)
        rw [sign]
        rfl
  rw [nothing, List.append_nil]

/-- The decoder reads what the engine writes, and nothing else. -/
theorem decodeChars_eq_some {text : List Char} {bytes : List UInt8} :
    engine.decodeChars text = some bytes ↔ text = engine.spell bytes := by
  constructor
  · intro decoded
    unfold decodeChars at decoded
    dsimp only at decoded
    split at decoded
    · rename_i filled
      rcases Option.bind_eq_some_iff.mp decoded with ⟨digits, read, values⟩
      rcases symbols_of_mapM_normal read with ⟨symbols, allDigits⟩
      have written := encodeBytes_of_decodeDigits allDigits values
      have counted := congrArg List.length symbols
      rw [List.length_map] at counted
      rw [filled, spell, written, symbols, counted]
    · cases decoded
  · rintro rfl
    unfold decodeChars
    rw [takeWhile_spell]
    dsimp only
    have filled : engine.spell bytes = (encodeBytes bytes).map engine.alphabet.symbol ++
        engine.filler (encodeBytes bytes).length := rfl
    rw [List.length_map, if_pos filled, mapM_normal_symbols (isDigit_of_mem bytes),
      Option.bind_some, decodeDigits_encodeBytes]

theorem strict_decode : engine.Strict engine.decode := by
  intro text bytes
  unfold decode
  rw [Option.map_eq_some_iff]
  constructor
  · rintro ⟨read, decoded, rfl⟩
    exact engine.decodeChars_eq_some.mp decoded
  · intro written
    exact ⟨bytes.data.toList, engine.decodeChars_eq_some.mpr written, rfl⟩

end Engine

/-- The digit for addresses that a symbol of either alphabet stands for. -/
def address (symbol : Char) : Char :=
  if symbol = '+' then '-' else if symbol = '/' then '_' else symbol

theorem address_symbol (alphabet : Alphabet) {character : Char} (isDigit : IsDigit character) :
    address (alphabet.symbol character) = character := by
  cases alphabet with
  | urlSafe =>
      exact forall_digit (fun digit =>
        address (Alphabet.urlSafe.symbol digit) = digit) (by decide) isDigit
  | standard =>
      exact forall_digit (fun digit =>
        address (Alphabet.standard.symbol digit) = digit) (by decide) isDigit

theorem map_address (alphabet : Alphabet) (bytes : List UInt8) :
    ((encodeBytes bytes).map alphabet.symbol).map address = encodeBytes bytes := by
  rw [List.map_map]
  exact (List.map_congr_left fun character member =>
    address_symbol alphabet (isDigit_of_mem bytes character member)).trans (List.map_id _)

/-- A text does not stand for different bytes in two engines. -/
theorem spell_injective {engine other : Engine} {left right : List UInt8}
    (same : engine.spell left = other.spell right) : left = right := by
  have symbols := engine.takeWhile_spell left
  rw [same, other.takeWhile_spell right] at symbols
  apply encodeBytes_injective
  rw [← map_address engine.alphabet left, ← symbols, map_address other.alphabet right]

end Base64
