import KrakenUi.Json.Tree
import KrakenUi.Services.RuleManagement

namespace KrakenUi
namespace RegexRules

open Text Json

/-!
# The content of a rule list

What an operator writes in the editor is checked for the shape of its list and
made into the body of the update.  A codec for each shape does both.

The parser and the writer of JSON belong to a library and are parameters.
-/

/-- Required fields on every element of a regex rule bundle. -/
def requiredRuleFields : List String :=
  ["enable", "http_action", "title", "severity", "cwe", "description", "url", "rule_match", "id",
    "score"]

/-- A validation failure. -/
inductive RuleValidationError where
  | empty
  | invalidJson (detail : String)
  | notAnObject
  | missingRulesArray
  | emptyRules
  | ruleNotObject (index : Nat)
  | missingField (index : Nat) (field : String)
  | invalidField (index : Nat) (field : String)
  deriving DecidableEq

namespace RuleValidationError

/-- What the operator reads. -/
def message : RuleValidationError -> String
  | empty => "The rule file cannot be empty."
  | invalidJson detail => "The rule content is not valid JSON: " ++ detail ++ "."
  | notAnObject => "The rule content must be a JSON object."
  | missingRulesArray => "The rule content must contain a \"rules\" array."
  | emptyRules => "The \"rules\" array cannot be empty."
  | ruleNotObject index => "Rule #" ++ toString (index + 1) ++ " must be a JSON object."
  | missingField index field =>
      "Rule #" ++ toString (index + 1) ++ " is missing the required \"" ++ field ++ "\" field."
  | invalidField index field =>
      "Rule #" ++ toString (index + 1) ++ " has an invalid \"" ++ field ++ "\" value."

/-- The rule that is named. -/
def index : RuleValidationError -> Option Nat
  | ruleNotObject index | missingField index _ | invalidField index _ => some index
  | _ => none

end RuleValidationError

/-- `serde_json`, with the texts of its errors. -/
structure SerdeJson where
  fromStr : String -> Except String Tree
  toVec : Tree -> Except String ByteArray
  fromSlice : ByteArray -> Except String Tree

section Codecs

variable (serde : SerdeJson)

def rulesOf (members : List (String × Tree)) : Option (List Tree) :=
  (members.lookup "rules").bind Tree.asArray

/-- The shared front half of both bundle codecs, with the number of the rules. -/
def parseRulesArray (content : String) : Except RuleValidationError (Tree × Nat) :=
  let trimmed := trim content
  if isEmpty trimmed then .error .empty
  else match serde.fromStr trimmed with
    | .error error => .error (.invalidJson error)
    | .ok value =>
        match value.asObject with
        | none => .error .notAnObject
        | some object =>
            match rulesOf object with
            | none => .error .missingRulesArray
            | some rules =>
                if rules.isEmpty then .error .emptyRules else .ok (value, rules.length)

def checkFields (index : Nat) (object : List (String × Tree)) :
    List String -> Except RuleValidationError Unit
  | [] => .ok ()
  | field :: rest =>
      match object.lookup field with
      | none => .error (.missingField index field)
      | some .null => .error (.invalidField index field)
      | some _ => checkFields index object rest

/-- The regex itself must be a string that is not empty. -/
def checkPattern (index : Nat) (object : List (String × Tree)) : Except RuleValidationError Unit :=
  match object.lookup "rule_match" with
  | some (.string pattern) =>
      if isEmpty pattern then .error (.invalidField index "rule_match") else .ok ()
  | _ => .error (.invalidField index "rule_match")

def checkRule (index : Nat) (rule : Tree) : Except RuleValidationError Unit :=
  match rule.asObject with
  | none => .error (.ruleNotObject index)
  | some object => do
      checkFields index object requiredRuleFields
      checkPattern index object

/-- The loop over the rules, from an index on. -/
def checkRules : Nat -> List Tree -> Except RuleValidationError Unit
  | _, [] => .ok ()
  | index, rule :: rest => do
      checkRule index rule
      checkRules (index + 1) rest

def RegexBundleCodec.buildUpdateBody (content : String) :
    Except RuleValidationError ByteArray := do
  let (value, _) ← parseRulesArray serde content
  match value.asObject.bind rulesOf with
  | none => .error .missingRulesArray
  | some rules => do
      checkRules 0 rules
      .ok (trim content).toUTF8

def KeywordBundleCodec.buildUpdateBody (content : String) :
    Except RuleValidationError ByteArray := do
  let _ ← parseRulesArray serde content
  .ok (trim content).toUTF8

/-- The lines that the scanner list keeps. -/
def keptLines (content : String) : List String :=
  (((lines content.toList).map String.ofList).map trim).filter fun line => !isEmpty line

def linesBody (kept : List String) : Tree :=
  .object [("lines", .array (kept.map .string))]

def LineListCodec.buildUpdateBody (content : String) : Except RuleValidationError ByteArray :=
  let kept := keptLines content
  if kept.isEmpty then .error .empty
  else match serde.toVec (linesBody kept) with
    | .ok bytes => .ok bytes
    | .error error => .error (.invalidJson error)

/-- The codec for the shape of a list. -/
def codecFor : RegexRuleList -> String -> Except RuleValidationError ByteArray
  | .bodyRegex | .pathRegex | .headerRegex => RegexBundleCodec.buildUpdateBody serde
  | .vectorscanList => KeywordBundleCodec.buildUpdateBody serde
  | .scanners => LineListCodec.buildUpdateBody serde

end Codecs

/-! ## What the checks accept -/

/-- A field that is there and not null. -/
def Filled (object : List (String × Tree)) (field : String) : Prop :=
  Exists fun value => object.lookup field = some value ∧ value ≠ .null

/-- The documented shape of a rule. -/
def ValidRule (rule : Tree) : Prop :=
  Exists fun object => rule = .object object ∧
    (forall field, field ∈ requiredRuleFields -> Filled object field) ∧
      Exists fun pattern => object.lookup "rule_match" = some (.string pattern) ∧ pattern ≠ ""

/-- An object with these rules, of which there are some. -/
def Bundle (value : Tree) (rules : List Tree) : Prop :=
  Exists fun object => value = .object object ∧ object.lookup "rules" = some (.array rules) ∧
    rules ≠ []

section Checks

variable {serde : SerdeJson} {content : String} {index : Nat} {object : List (String × Tree)}
  {error : RuleValidationError}

theorem isEmpty_iff {text : String} : isEmpty text = true ↔ text = "" := by
  unfold isEmpty
  rw [List.isEmpty_iff, String.toList_eq_nil_iff]

theorem bundle_iff {value : Tree} {rules : List Tree} :
    Bundle value rules ↔ value.asObject.bind rulesOf = some rules ∧ rules ≠ [] := by
  unfold Bundle rulesOf
  simp only [Option.bind_eq_some_iff, Tree.asObject_eq_some, Tree.asArray_eq_some]
  constructor
  · rintro ⟨object, same, found, nonempty⟩
    exact ⟨⟨object, same, _, found, rfl⟩, nonempty⟩
  · rintro ⟨⟨object, same, _, found, rfl⟩, nonempty⟩
    exact ⟨object, same, found, nonempty⟩

/-- The fields are all filled, or the first that is not is named. -/
theorem checkFields_spec (fields : List String) :
    (checkFields index object fields = .ok () ∧
        forall field, field ∈ fields -> Filled object field) ∨
      Exists fun field => field ∈ fields ∧ ¬ Filled object field ∧
        (checkFields index object fields = .error (.missingField index field) ∨
          checkFields index object fields = .error (.invalidField index field)) := by
  induction fields with
  | nil => exact Or.inl ⟨rfl, fun _ member => absurd member List.not_mem_nil⟩
  | cons field fields inductionHypothesis =>
      unfold checkFields
      split
      · rename_i missing
        refine Or.inr ⟨field, List.mem_cons_self, ?_, Or.inl rfl⟩
        rintro ⟨value, found, -⟩
        rw [missing] at found
        cases found
      · rename_i null
        refine Or.inr ⟨field, List.mem_cons_self, ?_, Or.inr rfl⟩
        rintro ⟨value, found, other⟩
        rw [null] at found
        exact other (Option.some.inj found).symm
      · rename_i value other found
        rcases inductionHypothesis with ⟨passed, filled⟩ | ⟨missing, among, unfilled, failed⟩
        · refine Or.inl ⟨passed, ?_⟩
          intro asked member
          rcases List.mem_cons.mp member with rfl | later
          · exact ⟨value, found, other⟩
          · exact filled asked later
        · exact Or.inr ⟨missing, List.mem_cons_of_mem _ among, unfilled, failed⟩

/-- A rule passes when it is valid, and an error names its index. -/
theorem checkRule_spec (index : Nat) (rule : Tree) :
    (checkRule index rule = .ok () ∧ ValidRule rule) ∨
      Exists fun error => checkRule index rule = .error error ∧ error.index = some index ∧
        ¬ ValidRule rule := by
  unfold checkRule
  split
  · rename_i other
    refine Or.inr ⟨_, rfl, rfl, ?_⟩
    rintro ⟨object, rfl, -⟩
    cases other
  · rename_i object isObject
    rw [Tree.asObject_eq_some] at isObject
    subst isObject
    rcases @checkFields_spec index object requiredRuleFields with
      ⟨passed, filled⟩ | ⟨field, among, unfilled, failed⟩
    · rw [passed]
      change (checkPattern index object = .ok () ∧ _) ∨ Exists fun error =>
        checkPattern index object = .error error ∧ _
      unfold checkPattern
      split
      · rename_i pattern found
        split
        · rename_i blank
          refine Or.inr ⟨_, rfl, rfl, ?_⟩
          rintro ⟨other, same, -, text, present, nonempty⟩
          cases same
          rw [found] at present
          cases present
          exact nonempty (isEmpty_iff.mp blank)
        · rename_i nonempty
          refine Or.inl ⟨rfl, object, rfl, filled, pattern, found, fun blank => nonempty ?_⟩
          exact isEmpty_iff.mpr blank
      · rename_i none
        refine Or.inr ⟨_, rfl, rfl, ?_⟩
        rintro ⟨other, same, -, text, present, -⟩
        cases same
        exact none text present
    · have invalid : ¬ ValidRule (.object object) := by
        rintro ⟨other, same, filled, -⟩
        cases same
        exact unfilled (filled field among)
      rcases failed with missing | null
      · rw [missing]
        exact Or.inr ⟨_, rfl, rfl, invalid⟩
      · rw [null]
        exact Or.inr ⟨_, rfl, rfl, invalid⟩

/-- All rules pass, or the error names the first that is not valid. -/
theorem checkRules_spec (rules : List Tree) (index : Nat) :
    (checkRules index rules = .ok () ∧ forall rule, rule ∈ rules -> ValidRule rule) ∨
      Exists fun error => Exists fun before => Exists fun rule => Exists fun after =>
        checkRules index rules = .error error ∧ rules = before ++ rule :: after ∧
          error.index = some (index + before.length) ∧ ¬ ValidRule rule ∧
            forall earlier, earlier ∈ before -> ValidRule earlier := by
  induction rules generalizing index with
  | nil => exact Or.inl ⟨rfl, fun _ member => absurd member List.not_mem_nil⟩
  | cons rule rules inductionHypothesis =>
      unfold checkRules
      rcases checkRule_spec index rule with ⟨passed, valid⟩ | ⟨error, failed, named, invalid⟩
      · rw [passed]
        change (checkRules (index + 1) rules = .ok () ∧ _) ∨ Exists fun error => _
        rcases inductionHypothesis (index + 1) with
          ⟨rest, all⟩ | ⟨error, before, first, after, failed, rfl, named, invalid, earlier⟩
        · refine Or.inl ⟨rest, ?_⟩
          intro other member
          rcases List.mem_cons.mp member with rfl | later
          · exact valid
          · exact all other later
        · refine Or.inr ⟨error, rule :: before, first, after, failed, rfl, ?_, invalid, ?_⟩
          · rw [named, List.length_cons, Nat.add_assoc, Nat.add_comm 1]
          · intro other member
            rcases List.mem_cons.mp member with rfl | later
            · exact valid
            · exact earlier other later
      · rw [failed]
        exact Or.inr ⟨error, [], rule, rules, rfl, rfl, named, invalid,
          fun _ member => absurd member List.not_mem_nil⟩

/-- The front half passes exactly what is parsed to a bundle. -/
theorem parseRulesArray_ok {value : Tree} {count : Nat} :
    parseRulesArray serde content = .ok (value, count) ↔
      trim content ≠ "" ∧ serde.fromStr (trim content) = .ok value ∧
        Exists fun rules => Bundle value rules ∧ count = rules.length := by
  simp only [bundle_iff]
  unfold parseRulesArray
  dsimp only
  split
  · rename_i blank
    constructor
    · intro impossible
      cases impossible
    · intro accepted
      exact absurd (isEmpty_iff.mp blank) accepted.1
  rename_i nonempty
  have some' : trim content ≠ "" := fun blank => nonempty (isEmpty_iff.mpr blank)
  split
  · rename_i failed
    rw [failed]
    constructor
    · intro impossible
      cases impossible
    · rintro ⟨-, impossible, -⟩
      cases impossible
  rename_i parsed found
  rw [found]
  split
  · rename_i other
    constructor
    · intro impossible
      cases impossible
    · rintro ⟨-, same, rules, ⟨bundle, -⟩, -⟩
      cases same
      rw [other] at bundle
      cases bundle
  rename_i object isObject
  split
  · rename_i other
    constructor
    · intro impossible
      cases impossible
    · rintro ⟨-, same, rules, ⟨bundle, -⟩, -⟩
      cases same
      rw [isObject, Option.bind_some, other] at bundle
      cases bundle
  rename_i rules hasRules
  have bundled : parsed.asObject.bind rulesOf = some rules := by
    rw [isObject, Option.bind_some, hasRules]
  split
  · rename_i empty
    constructor
    · intro impossible
      cases impossible
    · rintro ⟨-, same, others, ⟨bundle, someRules⟩, -⟩
      cases same
      rw [bundled] at bundle
      cases bundle
      exact absurd (List.isEmpty_iff.mp empty) someRules
  · rename_i someRules
    constructor
    · intro same
      cases same
      exact ⟨some', rfl, rules, ⟨bundled, fun empty => someRules (List.isEmpty_iff.mpr empty)⟩, rfl⟩
    · rintro ⟨-, same, others, ⟨bundle, -⟩, rfl⟩
      cases same
      rw [bundled] at bundle
      cases bundle
      rfl

end Checks
end RegexRules
end KrakenUi
