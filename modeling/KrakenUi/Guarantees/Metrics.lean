import KrakenUi.Encoding.Base64
import KrakenUi.Encoding.Exposition
import KrakenUi.Services.WafMetrics
import Mathlib.Algebra.Order.BigOperators.Group.List
import Mathlib.Algebra.Order.Ring.Nat

namespace KrakenUi
namespace WafMetrics

open Exposition Text

/-!
# What is read of the firewall's metrics

The parser finds the value behind the last whitespace of a line and takes the
labels apart at every comma.  It reads the samples of the format as they were
written exactly when no value has more than one blank in front of it or a
timestamp behind it, unless a later sample of the same scalar says the same,
and no label has a character with a meaning in it.
-/

variable {F : Type} {float : FloatType F}

/-- A sample of a module, with its two labels in either order. -/
structure Block (float : FloatType F) where
  engine : List Char
  module' : List Char
  engineFirst : Bool
  reading : Exposition.Reading float.parse

def blockName : Name where
  text := "krakenwaf_module_blocks_total".toList
  nonempty := by decide
  start character first := Option.some.inj first ▸ (by decide)
  plain := by decide

def Block.labels (block : Block float) : List (List Char × List Char) :=
  if block.engineFirst then
    [("engine".toList, block.engine), ("module".toList, block.module')]
  else [("module".toList, block.module'), ("engine".toList, block.engine)]

/-- A line of the text. -/
inductive Item (float : FloatType F) where
  | scalar (name : Name) (reading : Exposition.Reading float.parse)
  | block (block : Block float)
  | comment (indent text : List Char)
      (blank : forall character, character ∈ indent -> isBlank character = true)
      (oneLine : '\n' ∉ text)
  | blank (text : List Char)
    (blank : forall character, character ∈ text -> isBlank character = true)

def Item.line : Item float -> List Char
  | .scalar name reading => sampleText name [] reading
  | .block sample => sampleText blockName sample.labels sample.reading
  | .comment indent text _ _ => indent ++ '#' :: text
  | .blank text _ => text

def render (items : List (Item float)) : String :=
  String.ofList (document (items.map Item.line))

/-! ## What was rendered -/

def Item.block? : Item float -> Option (Block float)
  | .block sample => some sample
  | _ => none

def blocks (items : List (Item float)) : List (Block float) := items.filterMap Item.block?

def Block.metric (block : Block float) : ModuleMetric F :=
  ⟨String.ofList block.engine, String.ofList block.module', block.reading.value⟩

/-- The reading of a sample of one scalar metric. -/
def Item.reading? (name : List Char) : Item float -> Option (Exposition.Reading float.parse)
  | .scalar other reading => if other.text = name then some reading else none
  | _ => none

def readings (items : List (Item float)) (name : String) : List (Exposition.Reading float.parse) :=
  items.filterMap (Item.reading? name.toList)

/-- The value of the last reading, or zero. -/
def lastValue (float : FloatType F) (readings : List (Exposition.Reading float.parse)) : F :=
  (readings.getLast?.map Reading.value).getD float.zero

/-! ## Lines -/

theorem isWhitespace_of_isBlank {character : Char} (blank : isBlank character = true) :
    isWhitespace character = true := by
  rw [isBlank, Bool.or_eq_true, decide_eq_true_eq, decide_eq_true_eq] at blank
  rcases blank with rfl | rfl
  · decide
  · decide

theorem lines_document {pieces : List (List Char)}
    (apart : forall piece, piece ∈ pieces -> '\n' ∉ piece) :
    lines (document pieces) = pieces.map stripCarriageReturn := by
  induction pieces with
  | nil => rfl
  | cons piece pieces inductionHypothesis =>
      have each := List.forall_mem_cons.mp apart
      have whole : document (piece :: pieces) = piece ++ '\n' :: document pieces := by
        rw [document, List.flatMap_cons, List.append_assoc]
        rfl
      rw [lines, whole, List.splitOn_append_cons_self_of_not_mem each.1, List.map_cons,
        ← inductionHypothesis each.2]
      cases pieces' : (document pieces).splitOn '\n' with
      | nil => exact absurd pieces' (List.splitOn_ne_nil _ _)
      | cons second rest =>
          rw [linesOf, lines, pieces']
          intro same
          cases same

/-- Letters, digits and signs of ASCII. -/
def Graphic (character : Char) : Prop := 33 ≤ character.toNat ∧ character.toNat < 127

theorem Graphic.not_whitespace {character : Char} (graphic : Graphic character) :
    isWhitespace character = false := by
  have least := graphic.1
  have most := graphic.2
  unfold isWhitespace
  simp only [Bool.or_eq_false_iff, Bool.and_eq_false_imp, decide_eq_true_eq,
    decide_eq_false_iff_not, beq_eq_false_iff_ne]
  omega

theorem graphic_alphanum {character : Char} (listed : character.isAlphanum = true) :
    Graphic character := by
  have bounds := Base64.toNat_of_isAlphanum listed
  exact ⟨by omega, by omega⟩

theorem graphic_numeral {character : Char} (numeral : isNumeral character = true) :
    Graphic character := by
  rw [isNumeral, Bool.or_eq_true, Bool.or_eq_true, Bool.or_eq_true, decide_eq_true_eq,
    decide_eq_true_eq, decide_eq_true_eq] at numeral
  rcases numeral with ((listed | rfl) | rfl) | rfl
  · exact graphic_alphanum listed
  · unfold Graphic
    decide
  · unfold Graphic
    decide
  · unfold Graphic
    decide

theorem graphic_name {character : Char} (listed : isNameCharacter character = true) :
    Graphic character := by
  rw [isNameCharacter, isNameStart, Bool.or_eq_true, Bool.or_eq_true, Bool.or_eq_true,
    decide_eq_true_eq, decide_eq_true_eq] at listed
  rcases listed with ((letter | rfl) | rfl) | digit
  · exact graphic_alphanum (by rw [Char.isAlphanum, letter]; rfl)
  · unfold Graphic
    decide
  · unfold Graphic
    decide
  · exact graphic_alphanum (by rw [Char.isAlphanum, digit, Bool.or_true])

/-! ## Samples -/

theorem readLine_trimmed (collected : Collected F) {line line' : List Char}
    (same : trimChars line = trimChars line') :
    readLine float collected line = readLine float collected line' := by
  unfold readLine
  rw [same]

/-- A line that is no comment and has its value behind its last whitespace. -/
theorem readLine_sample {head : List Char} {first : Char} (begins : head.head? = some first)
    (graphic : Graphic first) (plain : first ≠ '#') {reading : Exposition.Reading float.parse}
    {lead : List Char} {blank : Char} {last : Token} (split : reading.LastSplit lead blank last)
    (collected : Collected F) :
    readLine float collected (head ++ reading.text) =
      readSample float collected (head ++ lead) last.text := by
  have whole : head ++ reading.text = (head ++ lead) ++ blank :: last.text := by
    rw [split.whole, List.append_assoc]
  have numerals : forall character, character ∈ last.text -> isWhitespace character = false :=
    fun character member => (graphic_numeral (last.numeral character member)).not_whitespace
  have begins' : (head ++ reading.text).head? = some first := by
    rw [List.head?_append, begins]
    rfl
  have trimmed : Trimmed (head ++ reading.text) := by
    rintro character (front | back)
    · rw [begins'] at front
      exact Option.some.inj front ▸ graphic.not_whitespace
    · have ends : (head ++ reading.text).getLast? = last.text.getLast? := by
        rw [whole, List.getLast?_append, List.getLast?_cons]
        cases found : last.text.getLast? with
        | none => exact absurd (List.getLast?_eq_none_iff.mp found) last.nonempty
        | some character => rfl
      rw [ends] at back
      exact numerals character (List.mem_of_getLast? back)
  unfold readLine
  dsimp only
  rw [trimmed.trimChars, begins']
  have listed : ((head ++ reading.text).isEmpty || some first == some '#') = false := by
    have some' : head ++ reading.text ≠ [] := by
      intro nothing
      rw [nothing] at begins'
      exact absurd begins' (Option.some_ne_none first).symm
    rw [List.isEmpty_eq_false_iff.mpr some', Bool.false_or, beq_eq_false_iff_ne]
    exact fun same => plain (Option.some.inj same)
  rw [listed, if_neg Bool.false_ne_true, whole,
    rsplitOnceBy_append (isWhitespace_of_isBlank split.separates) numerals]

theorem moduleLabels_none {text : List Char} (other : text.getLast? ≠ some '}') :
    moduleLabels text = none := by
  unfold moduleLabels
  rw [Option.bind_eq_none_iff]
  intro rest dropped
  rcases List.dropPrefix?_eq_some_iff.mp dropped with ⟨front, rfl, -⟩
  cases found : rest.dropSuffix? ['}'] with
  | none => rfl
  | some inner =>
      rcases List.dropSuffix?_eq_some_iff.mp found with ⟨back, rfl, same⟩
      rw [eq_of_beq same, ← List.append_assoc, List.getLast?_concat] at other
      exact absurd rfl other

theorem moduleLabels_some (inner : List Char) :
    moduleLabels (blockName.text ++ '{' :: (inner ++ ['}'])) = some inner := by
  have front : (blockName.text ++ '{' :: (inner ++ ['}'])).dropPrefix?
      "krakenwaf_module_blocks_total\x7b".toList = some (inner ++ ['}']) := by
    refine List.dropPrefix?_eq_some_iff.mpr ⟨blockName.text ++ ['{'], ?_, by decide⟩
    rw [List.append_assoc, List.singleton_append]
  unfold moduleLabels
  rw [front, Option.bind_some]
  exact List.dropSuffix?_eq_some_iff.mpr ⟨['}'], rfl, beq_self_eq_true _⟩

/-- What a line adds to what is collected, without a scalar of a name that has a
blank in it. -/
structure Adds (before after : Collected F) (metric : Option (ModuleMetric F))
    (value : List Char -> Option F) : Prop where
  modules : after.modules = before.modules ++ metric.toList
  scalar : forall key, (forall character, character ∈ key -> isBlank character = false) ->
    after.scalar.lookup key = (value key).or (before.scalar.lookup key)

theorem Adds.nothing (collected : Collected F) :
    Adds collected collected none fun _ => none :=
  ⟨(List.append_nil _).symm, fun _ _ => rfl⟩

/-- A value behind more than a name is collected under a name that is none. -/
theorem adds_blank {key : List Char}
    (blank : Exists fun character => character ∈ key ∧ isBlank character = true)
    (other : key.getLast? ≠ some '}') (collected : Collected F) (value : List Char) :
    Adds collected (readSample float collected key value) none fun _ => none := by
  unfold readSample
  rw [moduleLabels_none other]
  cases float.parse (trimChars value) with
  | none => exact Adds.nothing collected
  | some value =>
      refine ⟨(List.append_nil _).symm, fun name plain => ?_⟩
      have apart : (name == key) = false := by
        rw [beq_eq_false_iff_ne]
        rintro rfl
        rcases blank with ⟨character, member, blank⟩
        exact absurd ((plain character member).symm.trans blank) Bool.false_ne_true
      change List.lookup name ((key, value) :: collected.scalar) = _
      rw [List.lookup_cons, apart]
      rfl

theorem Name.not_brace (name : Name) : '}' ∉ name.text := by
  intro member
  exact absurd (name.plain '}' member) (by decide)

theorem trimChars_token (token : Token) : trimChars token.text = token.text :=
  trimmed_keeps fun character member =>
    (graphic_numeral (token.numeral character member)).not_whitespace

/-- The value that a scalar sample gives to a name. -/
def scalarValue (name : Name) (reading : Exposition.Reading float.parse) (key : List Char) :
    Option F :=
  if name.text = key ∧ reading.simple = true then some reading.value else none

theorem adds_scalar (name : Name) (reading : Exposition.Reading float.parse)
    (collected : Collected F) :
    Adds collected (readLine float collected (sampleText name [] reading)) none
      (scalarValue name reading) := by
  rcases reading.exists_lastSplit with ⟨lead, blank, last, split⟩
  have whole : sampleText name [] reading = name.text ++ reading.text := rfl
  cases begins : name.text.head? with
  | none => exact absurd (List.head?_eq_none_iff.mp begins) name.nonempty
  | some first =>
      have start := name.start first begins
      have graphic : Graphic first :=
        graphic_name (name.plain first (List.mem_of_head? begins))
      have plain : first ≠ '#' := by
        rintro rfl
        exact absurd start (by decide)
      rw [whole, readLine_sample begins graphic plain split]
      have unbraced : (name.text ++ lead).getLast? ≠ some '}' := by
        intro found
        rcases List.mem_append.mp (List.mem_of_getLast? found) with front | back
        · exact Name.not_brace name front
        · exact split.unbraced back
      cases simple : reading.simple with
      | false =>
          have never : scalarValue name reading = fun _ => none := by
            funext key
            exact if_neg fun both => Bool.false_ne_true (simple.symm.trans both.2)
          rw [never]
          rcases split.otherwise simple with ⟨character, member, blank⟩
          exact adds_blank ⟨character, List.mem_append_right _ member, blank⟩ unbraced collected _
      | true =>
          rcases split.simple simple with ⟨rfl, rfl⟩
          rw [List.append_nil] at unbraced ⊢
          unfold readSample
          rw [trimChars_token, reading.parsed, moduleLabels_none unbraced]
          refine ⟨(List.append_nil _).symm, fun key _ => ?_⟩
          change List.lookup key ((name.text, reading.value) :: collected.scalar) = _
          rw [List.lookup_cons]
          by_cases same : name.text = key
          · rw [same, beq_self_eq_true, scalarValue, if_pos ⟨same, simple⟩]
            rfl
          · have apart : (key == name.text) = false := by
              rw [beq_eq_false_iff_ne]
              exact fun same' => same same'.symm
            rw [apart, scalarValue, if_neg fun both => same both.1]
            rfl

/-! ## Labels -/

/-- The text between the braces. -/
def Block.inner (block : Block float) : List Char :=
  [','].intercalate (block.labels.map fun label => labelText label.1 label.2)

/-- What is pushed for a sample of a module. -/
def Block.pushed (block : Block float) : Option (ModuleMetric F) :=
  if block.reading.simple then
    match label (parseLabels block.inner) "engine", label (parseLabels block.inner) "module" with
    | some engine, some name => some ⟨String.ofList engine, String.ofList name, block.reading.value⟩
    | _, _ => none
  else none

theorem Block.head (block : Block float) : blockName.text ++ labelsText block.labels =
    blockName.text ++ '{' :: (block.inner ++ ['}']) := by
  have some' : block.labels.isEmpty = false := by
    unfold Block.labels
    split
    · rfl
    · rfl
  rw [labelsText, some', if_neg Bool.false_ne_true]
  rfl

theorem adds_block (block : Block float) (collected : Collected F) :
    Adds collected
      (readLine float collected (sampleText blockName block.labels block.reading)) block.pushed
      fun _ => none := by
  rcases block.reading.exists_lastSplit with ⟨lead, blank, last, split⟩
  have whole : sampleText blockName block.labels block.reading =
      (blockName.text ++ '{' :: (block.inner ++ ['}'])) ++ block.reading.text := by
    rw [sampleText, ← List.append_assoc, block.head]
  have begins : (blockName.text ++ '{' :: (block.inner ++ ['}'])).head? = some 'k' := rfl
  rw [whole, readLine_sample begins ⟨by decide, by decide⟩ (by decide) split]
  cases simple : block.reading.simple with
  | false =>
      have none' : block.pushed = none := by
        rw [Block.pushed, simple, if_neg Bool.false_ne_true]
      rcases split.otherwise simple with ⟨character, member, blank⟩
      have unbraced : (blockName.text ++ '{' :: (block.inner ++ ['}']) ++ lead).getLast? ≠
          some '}' := by
        rw [List.getLast?_append_of_ne_nil _ (List.ne_nil_of_mem member)]
        exact fun found => split.unbraced (List.mem_of_getLast? found)
      rw [none']
      exact adds_blank ⟨character, List.mem_append_right _ member, blank⟩ unbraced collected _
  | true =>
      rcases split.simple simple with ⟨rfl, rfl⟩
      rw [List.append_nil, Block.pushed, simple, if_pos rfl]
      unfold readSample
      rw [trimChars_token, block.reading.parsed, moduleLabels_some]
      dsimp only
      cases label (parseLabels block.inner) "engine" with
      | none => exact Adds.nothing collected
      | some engine =>
          cases label (parseLabels block.inner) "module" with
          | none => exact Adds.nothing collected
          | some name => exact ⟨rfl, fun _ _ => rfl⟩

/-- An escaped value without the quotes at its end. -/
def readBack (value : List Char) : List Char :=
  ((escape value).reverse.dropWhile (· == '"')).reverse

theorem trimMatches_quoted (value : List Char) :
    trimMatches '"' ('"' :: (escape value ++ ['"'])) = readBack value := by
  have front : ('"' :: (escape value ++ ['"'])).dropWhile (· == '"') =
      (escape value ++ ['"']).dropWhile (· == '"') := rfl
  rw [trimMatches, front]
  cases written : escape value with
  | nil =>
      rw [readBack, written]
      rfl
  | cons character rest =>
      have other := head?_escape value
      rw [written] at other
      have apart : ¬ (character == '"') = true := fun same => other (congrArg some (eq_of_beq same))
      have kept : (character :: (rest ++ ['"'])).dropWhile (· == '"') = character ::
        (rest ++ ['"']) :=
        List.dropWhile_cons_of_neg apart
      rw [List.cons_append, kept, ← List.cons_append, List.reverse_append, List.reverse_singleton,
        readBack, written]
      rfl

theorem trimmed_quoted (value : List Char) : trimChars ('"' :: (escape value ++ ['"'])) =
    '"' :: (escape value ++ ['"']) := by
  refine Trimmed.trimChars ?_
  rintro character (first | last)
  · cases Option.some.inj first
    decide
  · rw [← List.cons_append, List.getLast?_concat] at last
    cases Option.some.inj last
    decide

theorem parsed_pair {name : List Char} (plain : '=' ∉ name) (trimmed : trimChars name = name)
    (value : List Char) : ((splitOnce '=' (labelText name value)).map fun parts =>
      (trimChars parts.1, trimMatches '"' (trimChars parts.2))) = some (name, readBack value) := by
  rw [labelText, splitOnce_append plain, Option.map_some, trimmed, trimmed_quoted,
    trimMatches_quoted]

/-- A label is a name, the equals sign and an escaped value in quotes. -/
theorem mem_labelText {character : Char} {name value : List Char}
    (member : character ∈ labelText name value) :
    character ∈ name ∨ character = '=' ∨ character = '"' ∨ character ∈ escape value := by
  rcases List.mem_append.mp member with front | back
  · exact Or.inl front
  · rcases List.mem_cons.mp back with sign | back
    · exact Or.inr (Or.inl sign)
    · rcases List.mem_cons.mp back with quote | back
      · exact Or.inr (Or.inr (Or.inl quote))
      · rcases List.mem_append.mp back with inside | last
        · exact Or.inr (Or.inr (Or.inr inside))
        · exact Or.inr (Or.inr (Or.inl (List.mem_singleton.mp last)))

/-- Two labels without commas are read as two pairs. -/
theorem parseLabels_two {name value name' value' : List Char} (plain : '=' ∉ name)
    (plain' : '=' ∉ name')
    (apart : ',' ∉ name) (apart' : ',' ∉ name') (trimmed : trimChars name = name)
    (trimmed' : trimChars name' = name') (noComma : ',' ∉ value) (noComma' : ',' ∉ value') :
    parseLabels ([','].intercalate [labelText name value, labelText name' value']) =
      [(name, readBack value), (name', readBack value')] := by
  have whole : forall {name value : List Char}, ',' ∉ name -> ',' ∉ value ->
      ',' ∉ labelText name value := by
    intro name value absent absent' member
    rcases mem_labelText member with front | sign | quote | inside
    · exact absent front
    · exact absurd sign (by decide)
    · exact absurd quote (by decide)
    · exact absent' (comma_mem_escape.mp inside)
  have pieces : ([','].intercalate [labelText name value, labelText name' value']).splitOn ',' =
      [labelText name value, labelText name' value'] := by
    refine List.splitOn_intercalate ',' ?_ (List.cons_ne_nil _ _)
    intro piece member
    rcases List.mem_cons.mp member with rfl | member
    · exact whole apart noComma
    · rw [List.mem_singleton.mp member]
      exact whole apart' noComma'
  rw [parseLabels, pieces, List.filterMap_cons, parsed_pair plain trimmed, List.filterMap_cons,
    parsed_pair plain' trimmed', List.filterMap_nil]

/-- Without commas, both labels are read without the quotes at their ends. -/
theorem Block.pushed_of_noComma {block : Block float} (simple : block.reading.simple = true)
    (engine : ',' ∉ block.engine) (name : ',' ∉ block.module') :
    block.pushed = some ⟨String.ofList (readBack block.engine),
      String.ofList (readBack block.module'), block.reading.value⟩ := by
  rw [Block.pushed, simple, if_pos rfl]
  unfold Block.inner Block.labels
  cases block.engineFirst with
  | true =>
      have parsed := @parseLabels_two "engine".toList block.engine "module".toList block.module'
        (by decide) (by decide) (by decide) (by decide) (by decide) (by decide) engine name
      rw [if_pos rfl, List.map_cons, List.map_singleton, parsed]
      rfl
  | false =>
      have parsed := @parseLabels_two "module".toList block.module' "engine".toList block.engine
        (by decide) (by decide) (by decide) (by decide) (by decide) (by decide) name engine
      rw [if_neg Bool.false_ne_true, List.map_cons, List.map_singleton, parsed]
      rfl

/-! ## Every line -/

def Item.pushed : Item float -> Option (ModuleMetric F)
  | .block sample => sample.pushed
  | _ => none

def Item.value : Item float -> List Char -> Option F
  | .scalar name reading => scalarValue name reading
  | _ => fun _ => none

theorem readLine_ignored {line : List Char}
    (ignored : trimChars line = [] ∨ (trimChars line).head? = some '#') (collected : Collected F) :
    readLine float collected line = collected := by
  have listed : ((trimChars line).isEmpty || (trimChars line).head? == some '#') = true := by
    rcases ignored with nothing | sign
    · rw [nothing]
      rfl
    · rw [sign, beq_self_eq_true, Bool.or_true]
  exact if_pos listed

theorem Item.adds (item : Item float) (collected : Collected F) :
    Adds collected (readLine float collected item.line) item.pushed item.value := by
  cases item with
  | scalar name reading => exact adds_scalar name reading collected
  | block sample => exact adds_block sample collected
  | comment indent text blank oneLine =>
      have indented := @trimChars_surrounded indent []
        (fun character member => isWhitespace_of_isBlank (blank character member))
        (fun _ member => absurd member List.not_mem_nil) ('#' :: text)
      rw [List.append_nil] at indented
      have sign : (trimChars ('#' :: text)).head? = some '#' := by
        rcases @trimmed_front isWhitespace [] '#'
          (fun character first => by cases Option.some.inj first; decide) (by decide) text with
            ⟨rest, kept⟩
        rw [List.nil_append] at kept
        rw [trimChars, kept]
        rfl
      have ignored := @readLine_ignored F float _ (Or.inr (indented ▸ sign)) collected
      exact ignored.symm ▸ Adds.nothing collected
  | blank text blank =>
      have nothing : trimChars text = [] :=
        trimChars_eq_nil.mpr fun character member => isWhitespace_of_isBlank
          (blank character member)
      have ignored := @readLine_ignored F float _ (Or.inl nothing) collected
      exact ignored.symm ▸ Adds.nothing collected

theorem feed_not_mem_label {name value : List Char} (absent : '\n' ∉ name) :
    '\n' ∉ labelText name value := by
  intro member
  rcases mem_labelText member with front | sign | quote | inside
  · exact absent front
  · exact absurd sign (by decide)
  · exact absurd quote (by decide)
  · exact feed_not_mem_escape value inside

theorem feed_not_mem_reading (reading : Exposition.Reading float.parse) : '\n' ∉ reading.text := by
  intro member
  rcases reading.mem_text member with blank | numeral
  · exact absurd blank (by decide)
  · exact absurd numeral (by decide)

theorem feed_not_mem_name (name : Name) : '\n' ∉ name.text := by
  intro member
  exact absurd (name.plain '\n' member) (by decide)

theorem feed_not_mem_two {first second : List Char} (absent : '\n' ∉ first)
    (absent' : '\n' ∉ second) :
    '\n' ∉ [','].intercalate [first, second] := by
  have whole : [','].intercalate [first, second] = first ++ ',' :: second := by simp
  rw [whole]
  intro member
  rcases List.mem_append.mp member with front | back
  · exact absent front
  · rcases List.mem_cons.mp back with sign | inside
    · exact absurd sign (by decide)
    · exact absent' inside

theorem Block.feed_not_mem_inner (block : Block float) : '\n' ∉ block.inner := by
  have engine : '\n' ∉ labelText "engine".toList block.engine := feed_not_mem_label (by decide)
  have name : '\n' ∉ labelText "module".toList block.module' := feed_not_mem_label (by decide)
  unfold Block.inner Block.labels
  split
  · exact feed_not_mem_two engine name
  · exact feed_not_mem_two name engine

theorem Item.feed_not_mem (item : Item float) : '\n' ∉ item.line := by
  cases item with
  | scalar name reading =>
      intro member
      rcases List.mem_append.mp member with front | back
      · exact feed_not_mem_name name front
      · exact feed_not_mem_reading reading back
  | block sample =>
      intro member
      change '\n' ∈ blockName.text ++ (labelsText sample.labels ++ sample.reading.text) at member
      rw [← List.append_assoc, sample.head] at member
      rcases List.mem_append.mp member with front | back
      · rcases List.mem_append.mp front with name | braces
        · exact feed_not_mem_name blockName name
        · rcases List.mem_cons.mp braces with sign | inside
          · exact absurd sign (by decide)
          · rcases List.mem_append.mp inside with inner | sign
            · exact sample.feed_not_mem_inner inner
            · exact absurd (List.mem_singleton.mp sign) (by decide)
      · exact feed_not_mem_reading sample.reading back
  | comment indent text blank oneLine =>
      intro member
      rcases List.mem_append.mp member with front | back
      · exact absurd (blank '\n' front) (by decide)
      · rcases List.mem_cons.mp back with sign | inside
        · exact absurd sign (by decide)
        · exact oneLine inside
  | blank text blank =>
      intro member
      exact absurd (blank '\n' member) (by decide)

/-! ## Every text -/

theorem lines_render (items : List (Item float)) :
    lines (render items).toList = (items.map Item.line).map stripCarriageReturn := by
  rw [render, String.toList_ofList]
  refine lines_document fun piece member => ?_
  rcases List.mem_map.mp member with ⟨item, -, rfl⟩
  exact item.feed_not_mem

theorem lookup_value (items : List (Item float)) (key : List Char) :
    items.filterMap (fun item => item.value key) =
      ((items.filterMap (Item.reading? key)).filter Reading.simple).map Reading.value := by
  induction items with
  | nil => rfl
  | cons item items inductionHypothesis =>
      rw [List.filterMap_cons, List.filterMap_cons]
      cases item with
      | scalar name reading =>
          by_cases same : name.text = key
          · have named : Item.reading? key (Item.scalar name reading) = some reading := if_pos same
            rw [named]
            dsimp only
            cases simple : reading.simple with
            | true =>
                have value : Item.value (Item.scalar name reading) key = some reading.value :=
                  if_pos ⟨same, simple⟩
                rw [value, List.filter_cons_of_pos simple, List.map_cons, ← inductionHypothesis]
            | false =>
                have value : Item.value (Item.scalar name reading) key = none :=
                  if_neg fun both => Bool.false_ne_true (simple.symm.trans both.2)
                rw [value, List.filter_cons_of_neg (by rw [simple]; exact Bool.false_ne_true),
                  ← inductionHypothesis]
          · have named : Item.reading? key (Item.scalar name reading) = none := if_neg same
            have value : Item.value (Item.scalar name reading) key = none :=
              if_neg fun both => same both.1
            rw [named, value]
            exact inductionHypothesis
      | block sample => exact inductionHypothesis
      | comment indent text blank oneLine => exact inductionHypothesis
      | blank text blank => exact inductionHypothesis

/-- What is collected along the lines. -/
theorem collected_render (items : List (Item float)) (collected : Collected F) :
    (((items.map Item.line).map stripCarriageReturn).foldl (readLine float) collected).modules =
      collected.modules ++ items.filterMap Item.pushed ∧
    forall key, (forall character, character ∈ key -> isBlank character = false) ->
      (((items.map Item.line).map stripCarriageReturn).foldl (readLine float)
          collected).scalar.lookup key =
        (items.filterMap fun item => item.value key).getLast?.or (collected.scalar.lookup key) := by
  induction items generalizing collected with
  | nil => exact ⟨(List.append_nil _).symm, fun _ _ => rfl⟩
  | cons item items inductionHypothesis =>
      have adds := item.adds collected
      rw [← readLine_trimmed collected (trimChars_stripCarriageReturn item.line)] at adds
      rw [List.map_cons, List.map_cons, List.foldl_cons]
      have further := inductionHypothesis (readLine float collected (stripCarriageReturn item.line))
      refine ⟨?_, fun key plain => ?_⟩
      · rw [further.1, adds.modules, List.append_assoc, List.filterMap_cons]
        cases item.pushed with
        | none => rfl
        | some metric => rfl
      · rw [further.2 key plain, adds.scalar key plain, List.filterMap_cons]
        cases item.value key with
        | none => rfl
        | some value =>
            rw [List.getLast?_cons]
            cases (items.filterMap fun item => item.value key).getLast? with
            | none => rfl
            | some last => rfl

/-- A field has the value of the last sample with one blank and no timestamp. -/
theorem field_render (items : List (Item float)) (scalar : Scalar) :
    scalar.field (parsePrometheus float (render items)) =
      lastValue float ((readings items scalar.metricName).filter Reading.simple) := by
  have plain : forall character, character ∈ scalar.metricName.toList ->
    isBlank character = false := by
    cases scalar with
    | requestsInspected => decide
    | requestsBlocked => decide
    | rateLimitHits => decide
    | redisRateLimitFailopen => decide
    | redisRateLimitFailclosed => decide
    | traceparentForwarded => decide
    | traceparentGenerated => decide
    | requestDurationCount => decide
    | requestDurationSum => decide
  rw [field_parsePrometheus, metric, lines_render, (collected_render items ⟨[], []⟩).2 _ plain,
    lookup_value, lastValue, List.getLast?_map, readings]
  exact congrArg (fun value => value.getD float.zero) Option.or_none

theorem blocks_render (items : List (Item float)) :
    (parsePrometheus float (render items)).moduleBlocks.Perm
    ((blocks items).filterMap Block.pushed) := by
  have collected := (collected_render items ⟨[], []⟩).1
  have same : items.filterMap Item.pushed = (blocks items).filterMap Block.pushed := by
    rw [blocks, List.filterMap_filterMap]
    refine List.filterMap_congr fun item _ => ?_
    cases item with
    | scalar name reading => rfl
    | block sample => rfl
    | comment indent text blank oneLine => rfl
    | blank text blank => rfl
  unfold parsePrometheus
  dsimp only
  rw [lines_render, collected, List.nil_append, same]
  exact List.mergeSort_perm _ _

/-! ## Values read back -/

theorem mem_of_splitOnce {separator : Char} {text front behind : List Char}
    (parts : splitOnce separator text = some (front, behind)) :
    forall character, character ∈ behind -> character ∈ text := by
  induction text generalizing front with
  | nil => exact absurd parts (Option.some_ne_none _).symm
  | cons first rest inductionHypothesis =>
      intro character member
      rw [splitOnce] at parts
      split at parts
      · cases parts
        exact List.mem_cons_of_mem first member
      · rcases Option.map_eq_some_iff.mp parts with ⟨inner, found, same⟩
        cases same
        exact List.mem_cons_of_mem first (inductionHypothesis found character member)

/-- No value of a label has a comma in it. -/
theorem comma_not_mem_label {input value : List Char} {key : String}
    (found : label (parseLabels input) key = some value) : ',' ∉ value := by
  intro member
  have listed : (key.toList, value) ∈ parseLabels input := by
    rcases List.lookup_eq_some_iff.mp found with ⟨before, after, whole, -⟩
    refine List.mem_reverse.mp ?_
    rw [whole]
    exact List.mem_append_right _ List.mem_cons_self
  rcases List.mem_filterMap.mp listed with ⟨pair, piece, parsed⟩
  rcases Option.map_eq_some_iff.mp parsed with ⟨⟨front, behind⟩, parts, same⟩
  have trimmed : trimMatches '"' (trimChars behind) = value := congrArg Prod.snd same
  rw [← trimmed] at member
  have unquoted : ',' ∈ trimChars behind := by
    unfold trimMatches at member
    exact (List.dropWhile_sublist _).subset
      (List.mem_reverse.mp ((List.dropWhile_sublist _).subset (List.mem_reverse.mp member)))
  exact not_mem_of_mem_splitOn piece
    (mem_of_splitOnce parts ',' (mem_of_mem_trimChars unquoted))

theorem Block.comma_not_mem_pushed {block : Block float} {metric : ModuleMetric F}
    (pushed : block.pushed = some metric) :
    ',' ∉ metric.engine.toList ∧ ',' ∉ metric.module'.toList := by
  unfold Block.pushed at pushed
  split at pushed
  · split at pushed
    · rename_i engine name first second
      cases pushed
      rw [String.toList_ofList, String.toList_ofList]
      exact ⟨comma_not_mem_label first, comma_not_mem_label second⟩
    · exact absurd pushed (Option.some_ne_none _).symm
  · exact absurd pushed (Option.some_ne_none _).symm

theorem getLast?_readBack (value : List Char) : (readBack value).getLast? ≠ some '"' := by
  intro last
  have found := List.head?_dropWhile_not (· == '"') (escape value).reverse
  rw [readBack, List.getLast?_reverse] at last
  rw [last] at found
  exact absurd found (by decide)

theorem unquoted_concat (text : List Char) {last : Char} (other : last ≠ '"') :
    ((text ++ [last]).reverse.dropWhile (· == '"')).reverse = text ++ [last] := by
  have kept : (last :: text.reverse).dropWhile (· == '"') = last :: text.reverse :=
    List.dropWhile_cons_of_neg fun same => other (eq_of_beq same)
  rw [List.reverse_append, List.reverse_singleton, List.singleton_append, kept, List.reverse_cons,
    List.reverse_reverse]

/-- Only a quote at the end of a value makes a difference to its escaped form. -/
theorem readBack_cases (value : List Char) : readBack value = escape value ∨
    Exists fun front => value = front ++ ['"'] ∧ readBack value = escape front ++ ['\\'] := by
  rcases List.eq_nil_or_concat' value with rfl | ⟨front, last, rfl⟩
  · exact Or.inl rfl
  · have single : escape [last] = escapeChar last := List.append_nil _
    rcases escapeChar_cases last with ⟨same, plain⟩ | ⟨second, same, quote, -⟩
    · refine Or.inl ?_
      rw [readBack, escape_append, single, same, unquoted_concat _ plain.2.1]
    · have whole : escape (front ++ [last]) = (escape front ++ ['\\']) ++ [second] := by
        rw [escape_append, single, same, List.append_assoc]
        rfl
      by_cases ends : last = '"'
      · refine Or.inr ⟨front, by rw [ends], ?_⟩
        have dropped : forall text : List Char, ((text ++ ['"']).reverse.dropWhile (· == '"')) =
            text.reverse.dropWhile (· == '"') := by
          intro text
          rw [List.reverse_append]
          rfl
        rw [readBack, whole, quote.mpr ends, dropped, unquoted_concat _ (by decide)]
      · refine Or.inl ?_
        rw [readBack, whole, unquoted_concat _ fun same => ends (quote.mp same)]

theorem length_le_readBack (value : List Char) : value.length ≤ (readBack value).length := by
  rcases readBack_cases value with same | ⟨front, whole, same⟩
  · rw [same]
    exact length_le_escape value
  · rw [same, whole, List.length_append, List.length_append]
    exact Nat.add_le_add_right (length_le_escape front) 1

/-- A value that is read back as long as it was, and does not end with a quote,
has no escaped character. -/
theorem plain_of_readBack {value : List Char} (same : (readBack value).length = value.length)
    (last : value.getLast? ≠ some '"') :
    forall character, character ∈ value -> Plain character := by
  rcases readBack_cases value with whole | ⟨front, whole, -⟩
  · exact plain_of_length (whole ▸ same)
  · rw [whole, List.getLast?_concat] at last
    exact absurd rfl last

theorem readBack_plain {value : List Char}
    (plain : forall character, character ∈ value -> Plain character) :
    readBack value = value := by
  rcases readBack_cases value with same | ⟨front, whole, -⟩
  · rw [same, escape_plain plain]
  · exact absurd rfl (plain '"' (by rw [whole]; simp)).2.1

/-! ## What is read as it was written -/

/-- A value of a label that the parser does not take apart. -/
def LegibleValue (value : List Char) : Prop :=
  forall character, character ∈ value -> character ≠ ',' ∧ Plain character

structure Block.Legible (block : Block float) : Prop where
  simple : block.reading.simple = true
  engine : LegibleValue block.engine
  module' : LegibleValue block.module'

theorem LegibleValue.noComma {value : List Char} (legible : LegibleValue value) : ',' ∉ value :=
  fun member => (legible ',' member).1 rfl

theorem LegibleValue.readBack {value : List Char} (legible : LegibleValue value) :
    WafMetrics.readBack value = value :=
  readBack_plain fun character member => (legible character member).2

theorem Block.Legible.pushed {block : Block float} (legible : block.Legible) :
    block.pushed = some block.metric := by
  rw [Block.pushed_of_noComma legible.simple legible.engine.noComma legible.module'.noComma,
    legible.engine.readBack, legible.module'.readBack]
  rfl

/-- Sums of which one is never greater are equal only term by term. -/
theorem eq_of_sum_eq {α : Type} {terms : List α} {least most : α -> Nat}
    (le : forall term, term ∈ terms -> least term ≤ most term)
    (same : (terms.map least).sum = (terms.map most).sum) :
    forall term, term ∈ terms -> least term = most term := by
  induction terms with
  | nil => exact fun _ member => absurd member List.not_mem_nil
  | cons first rest inductionHypothesis =>
      have each := List.forall_mem_cons.mp le
      have later : (rest.map least).sum ≤ (rest.map most).sum :=
        List.sum_le_sum fun term member => each.2 term member
      rw [List.map_cons, List.map_cons, List.sum_cons, List.sum_cons] at same
      have here := each.1
      exact List.forall_mem_cons.mpr ⟨by omega, inductionHypothesis each.2 (by omega)⟩

def ModuleMetric.size (metric : ModuleMetric F) : Nat :=
  metric.engine.toList.length + metric.module'.toList.length

/-- The samples of the modules are read as they were written only if each of
them can be. -/
theorem legible_of_perm {samples : List (Block float)}
    (perm : (samples.filterMap Block.pushed).Perm (samples.map Block.metric)) :
    forall sample, sample ∈ samples -> sample.Legible := by
  have counted : (samples.filterMap Block.pushed).length = samples.length := by
    rw [perm.length_eq, List.length_map]
  have pushed : forall sample, sample ∈ samples -> sample.pushed.isSome = true :=
    List.filterMap_length_eq_length.mp counted
  -- what is read has no comma, so nothing that was written has one
  have written : forall sample, sample ∈ samples -> Exists fun other => other ∈ samples ∧
      other.pushed = some sample.metric := by
    intro sample member
    exact List.mem_filterMap.mp (perm.mem_iff.mpr (List.mem_map_of_mem member))
  have noComma : forall sample, sample ∈ samples -> ',' ∉ sample.engine ∧ ',' ∉ sample.module' := by
    intro sample member
    rcases written sample member with ⟨other, -, found⟩
    have absent := Block.comma_not_mem_pushed found
    rw [Block.metric, String.toList_ofList, String.toList_ofList] at absent
    exact absent
  have simple : forall sample, sample ∈ samples -> sample.reading.simple = true := by
    intro sample member
    cases simple : sample.reading.simple with
    | true => rfl
    | false =>
        have found := pushed sample member
        rw [Block.pushed, simple, if_neg Bool.false_ne_true] at found
        exact absurd found Bool.false_ne_true
  have read : forall sample, sample ∈ samples -> sample.pushed =
      some ⟨String.ofList (readBack sample.engine), String.ofList (readBack sample.module'),
        sample.reading.value⟩ := fun sample member =>
    Block.pushed_of_noComma (simple sample member) (noComma sample member).1
      (noComma sample member).2
  -- no value gets shorter, and all of them together stay as long as they were
  have sizes : forall sample, sample ∈ samples ->
      sample.engine.length + sample.module'.length =
        (readBack sample.engine).length + (readBack sample.module').length := by
    refine eq_of_sum_eq (fun sample _ =>
      Nat.add_le_add (length_le_readBack sample.engine) (length_le_readBack sample.module')) ?_
    have whole : samples.filterMap Block.pushed = samples.map fun sample =>
        ⟨String.ofList (readBack sample.engine), String.ofList (readBack sample.module'),
          sample.reading.value⟩ := by
      rw [List.filterMap_congr read]
      exact congrFun List.filterMap_eq_map samples
    have total := (perm.map ModuleMetric.size).sum_eq
    rw [whole, List.map_map, List.map_map] at total
    have metric : (ModuleMetric.size ∘ Block.metric : Block float -> Nat) = fun sample =>
        sample.engine.length + sample.module'.length := by
      funext sample
      simp only [Function.comp, ModuleMetric.size, Block.metric, String.toList_ofList]
    have measured : (ModuleMetric.size ∘ fun sample : Block float =>
        (⟨String.ofList (readBack sample.engine), String.ofList (readBack sample.module'),
          sample.reading.value⟩ : ModuleMetric F)) = fun sample =>
        (readBack sample.engine).length + (readBack sample.module').length := by
      funext sample
      simp only [Function.comp, ModuleMetric.size, String.toList_ofList]
    rw [metric, measured] at total
    exact total.symm
  have ends : forall sample, sample ∈ samples ->
      sample.engine.getLast? ≠ some '"' ∧ sample.module'.getLast? ≠ some '"' := by
    intro sample member
    rcases written sample member with ⟨other, listed, found⟩
    rw [read other listed] at found
    have parts := ModuleMetric.mk.inj (Option.some.inj found)
    have engine := congrArg String.toList parts.1
    have name := congrArg String.toList parts.2.1
    rw [String.toList_ofList, String.toList_ofList] at engine name
    rw [← engine, ← name]
    exact ⟨getLast?_readBack other.engine, getLast?_readBack other.module'⟩
  intro sample member
  have size := sizes sample member
  have engine := length_le_readBack sample.engine
  have name := length_le_readBack sample.module'
  refine ⟨simple sample member, fun character inside => ⟨?_, ?_⟩, fun character inside => ⟨?_, ?_⟩⟩
  · rintro rfl
    exact (noComma sample member).1 inside
  · exact plain_of_readBack (by omega) (ends sample member).1 character inside
  · rintro rfl
    exact (noComma sample member).2 inside
  · exact plain_of_readBack (by omega) (ends sample member).2 character inside

/-- The parser reads what was rendered exactly when every sample of a module is
legible and, for each scalar, a sample that is read says what the last one says. -/
theorem parsePrometheus_reads_iff (float : FloatType F) (items : List (Item float)) :
    ((forall scalar : Scalar, scalar.field (parsePrometheus float (render items)) =
          lastValue float (readings items scalar.metricName)) ∧
        (parsePrometheus float (render items)).moduleBlocks.Perm
          ((blocks items).map Block.metric)) ↔
      (forall scalar : Scalar,
          lastValue float ((readings items scalar.metricName).filter Reading.simple) =
            lastValue float (readings items scalar.metricName)) ∧
        forall sample, sample ∈ blocks items -> sample.Legible := by
  simp only [field_render]
  refine and_congr_right fun _ => ?_
  have read := blocks_render items
  constructor
  · exact fun perm => legible_of_perm (read.symm.trans perm)
  · intro legible
    have whole : (blocks items).filterMap Block.pushed = (blocks items).map Block.metric := by
      rw [List.filterMap_congr fun sample member => (legible sample member).pushed]
      exact congrFun List.filterMap_eq_map (blocks items)
    exact whole ▸ read

end WafMetrics

namespace Sample

open Exposition Text WafMetrics

/-- Whole numbers. -/
def wholeNumbers : FloatType Nat where
  parse := parseDigits
  zero := 0
  totalCmp := compare

def inspected : Name where
  text := "krakenwaf_requests_inspected_total".toList
  nonempty := by decide
  start character first := Option.some.inj first ▸ (by decide)
  plain := by decide

def oneBlank : Gap where
  text := [' ']
  nonempty := by decide
  blank := by decide

/-- Twelve, with the time it was taken. -/
def twelve : Exposition.Reading wholeNumbers.parse where
  gap := oneBlank
  token := ⟨"12".toList, by decide, by decide⟩
  value := 12
  parsed := by decide
  timestamp := some (oneBlank, ⟨"1700000000000".toList, by decide, by decide⟩)

theorem timestamp_not_read :
    render [Item.scalar inspected twelve] =
        "krakenwaf_requests_inspected_total 12 1700000000000\n" ∧
      lastValue wholeNumbers (readings [Item.scalar inspected twelve]
        "krakenwaf_requests_inspected_total") = 12 ∧
      (parsePrometheus wholeNumbers
        (render [Item.scalar inspected twelve])).requestsInspected = 0 := by
  refine ⟨?_, ?_, ?_⟩
  · decide
  · decide
  · decide

end Sample
end KrakenUi
