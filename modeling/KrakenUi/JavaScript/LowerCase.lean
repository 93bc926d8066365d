import KrakenUi.JavaScript.Strings

namespace JavaScript

/-!
# Lower case

`toLowerCase` maps each character by the tables of Unicode, which are a
parameter here.  The one rule that looks around is the one for the capital
sigma, whose lower case depends on whether a word ends with it.
-/

structure Lowering where
  lower : Char -> List Char
  /-- The lower case of a capital sigma, by what stands before and behind it. -/
  sigma : List Char -> List Char -> Char

namespace Lowering

variable (lowering : Lowering)

def inContext (before : List Char) (character : Char) (behind : List Char) : List Char :=
  if character = 'Σ' then [lowering.sigma before behind] else lowering.lower character

def convert (before : List Char) : List Char -> List Char
  | [] => []
  | character :: rest =>
      lowering.inContext before character rest ++ convert (before ++ [character]) rest

/-- The lower case of a whole text. -/
def fold (text : List Char) : List Char := lowering.convert [] text

/-- What every version of the tables keeps: the mapping of ASCII, and that the
lower case of a character is in lower case. -/
structure Stable : Prop where
  ascii : forall character : Char, character.toNat < 128 ->
    lowering.lower character = [character.toLower]
  lowered : forall character image, image ∈ lowering.lower character ->
    image ≠ 'Σ' ∧ lowering.lower image = [image]

/-- `toLowerCase` is this mapping on texts of characters. -/
def Describes (toLowerCase : JsString -> JsString) : Prop :=
  forall text, toLowerCase (encode text) = encode (lowering.fold text)

variable {lowering}

theorem inContext_of_ne {character : Char} (other : character ≠ 'Σ') (before behind : List Char) :
    lowering.inContext before character behind = lowering.lower character :=
  if_neg other

/-- Without a capital sigma every character is mapped by itself. -/
theorem convert_append {text : List Char} (plain : 'Σ' ∉ text) (before behind : List Char) :
    lowering.convert before (text ++ behind) =
      text.flatMap lowering.lower ++ lowering.convert (before ++ text) behind := by
  induction text generalizing before with
  | nil => rw [List.nil_append, List.flatMap_nil, List.nil_append, List.append_nil]
  | cons character text inductionHypothesis =>
      have other : character ≠ 'Σ' := fun same => plain (same ▸ List.mem_cons_self)
      have later : 'Σ' ∉ text := fun member => plain (List.mem_cons_of_mem character member)
      rw [List.cons_append, convert, inContext_of_ne other, inductionHypothesis later,
        List.flatMap_cons, List.append_assoc, List.append_assoc, List.singleton_append]

theorem fold_plain {text : List Char} (plain : 'Σ' ∉ text) :
    lowering.fold text = text.flatMap lowering.lower := by
  have whole := @convert_append lowering text plain [] []
  rw [List.append_nil] at whole
  exact whole.trans (List.append_nil _)

/-- Wherever such a text stands in another, its lower case stands in the lower
case of the other. -/
theorem convert_infix {text whole : List Char} (plain : 'Σ' ∉ text) (inside : text <:+: whole)
    (before : List Char) : text.flatMap lowering.lower <:+: lowering.convert before whole := by
  rcases inside with ⟨front, behind, rfl⟩
  induction front generalizing before with
  | nil =>
      rw [List.nil_append, convert_append plain]
      exact (List.prefix_append _ _).isInfix
  | cons character front inductionHypothesis =>
      rw [List.cons_append, List.cons_append, convert]
      exact List.infix_append_of_infix_right (inductionHypothesis _)

/-- The lower case of a text is in lower case. -/
theorem Stable.flatMap_image (stable : lowering.Stable) {text : List Char}
    (images : forall image, image ∈ text -> Exists
      fun character => image ∈ lowering.lower character) :
    text.flatMap lowering.lower = text := by
  induction text with
  | nil => rfl
  | cons image text inductionHypothesis =>
      rcases images image List.mem_cons_self with ⟨character, mapped⟩
      rw [List.flatMap_cons, (stable.lowered character image mapped).2, List.singleton_append,
        inductionHypothesis fun other member => images other (List.mem_cons_of_mem image member)]

theorem toLower_beyond {character : Char} (beyond : ¬ character.toNat < 128) :
    character.toLower = character := by
  refine dif_neg fun capital => beyond ?_
  have below : character.val.toNat ≤ 90 := capital.2
  exact Nat.lt_of_le_of_lt below (by decide)

/-- What a check of 128 codes shows of every character of ASCII. -/
theorem ascii_of_codes {asked : Char -> Prop}
    (checked : forall code, code < 128 -> asked (Char.ofNat code)) {character : Char}
    (small : character.toNat < 128) : asked character := by
  have asked' := checked character.toNat small
  rwa [Char.ofNat_toNat] at asked'

theorem toLower_eq_sigma {character : Char} (lowered : character.toLower = 'Σ') :
    character = 'Σ' := by
  by_cases small : character.toNat < 128
  · have never : character.toLower ≠ 'Σ' :=
      @ascii_of_codes (fun character => character.toLower ≠ 'Σ') (by decide) character small
    exact absurd lowered never
  · rwa [toLower_beyond small] at lowered

/-- Capital letters of ASCII may be lowered before. -/
theorem Stable.lower_toLower (stable : lowering.Stable) (character : Char) :
    lowering.lower character.toLower = lowering.lower character := by
  by_cases small : character.toNat < 128
  · have mapped := stable.ascii character small
    rw [mapped]
    exact (stable.lowered character character.toLower (mapped ▸ List.mem_cons_self)).2
  · rw [toLower_beyond small]

/-- A text that occurs when the capital letters of ASCII are lowered occurs, in
lower case, in the lower case of the text. -/
theorem Stable.fold_infix (stable : lowering.Stable) {needle text : List Char}
    (plain : 'Σ' ∉ needle) (inside : needle <:+: text.map Char.toLower) :
    needle.flatMap lowering.lower <:+: lowering.fold text := by
  rcases inside with ⟨front, behind, whole⟩
  rcases List.append_eq_map_iff.mp whole with ⟨first, last, parts, mapped, -⟩
  rcases List.map_eq_append_iff.mp mapped with ⟨before, middle, parts', -, found⟩
  have original : middle.flatMap lowering.lower = needle.flatMap lowering.lower := by
    rw [← found, List.flatMap_map]
    exact List.flatMap_congr fun character _ => (stable.lower_toLower character).symm
  have plain' : 'Σ' ∉ middle := by
    intro member
    refine plain (found ▸ List.mem_map.mpr ⟨'Σ', member, ?_⟩)
    decide
  rw [← original]
  refine convert_infix plain' ⟨before, last, ?_⟩ []
  rw [parts, parts']

end Lowering
end JavaScript
