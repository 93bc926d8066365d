import KrakenUi.Controllers.Acl
import KrakenUi.JavaScript.LowerCase
import KrakenUi.View.PasswordScore

namespace KrakenUi
namespace PasswordScore

open JavaScript Text

/-!
# The browser's password policy and the server's

Both count the same character classes.  The browser measures a password in code
units and the server in characters; the browser compares trimmed identities in
the lower case of Unicode, the whole address among them, and the server the
user name and the local part in the lower case of ASCII.  The two agree unless
a password falls between these.
-/

variable {toLowerCase : JsString -> JsString} {lowering : Lowering}

/-! ## Character classes -/

theorem between_of_toNat {first last : Char} {code : UInt16} {character : Char}
    (same : code.toNat = character.toNat) :
    between first last code = (first ≤ character && character ≤ last) := by
  unfold between
  rw [same]
  rfl

theorem basic_between (first last : Char) (small : last.toNat < 0xD800) :
    Basic (between first last) fun character => first ≤ character && character ≤ last where
  single := fun _ _ same => between_of_toNat same
  paired := by
    intro code low _
    unfold between
    rw [decide_eq_false (by omega : ¬ code.toNat ≤ last.toNat), Bool.and_false]
  beyond := by
    intro character big
    have above : ¬ character ≤ last := by
      intro below
      have below' : character.toNat ≤ last.toNat := below
      omega
    rw [decide_eq_false above, Bool.and_false]

theorem basic_digit : Basic (between '0' '9') isAsciiDigit :=
  basic_between '0' '9' (by decide)

theorem basic_lower : Basic (between 'a' 'z') isAsciiLowercase :=
  basic_between 'a' 'z' (by decide)

theorem basic_upper : Basic (between 'A' 'Z') isAsciiUppercase :=
  basic_between 'A' 'Z' (by decide)

theorem basic_alphanumeric : Basic (fun code => !isSymbol code) isAsciiAlphanumeric where
  single := by
    intro code character same
    change (!!(_ || _ || _)) = _
    rw [Bool.not_not, basic_upper.single code character same,
      basic_lower.single code character same, basic_digit.single code character same,
      isAsciiAlphanumeric, Bool.or_comm (isAsciiUppercase character),
      Bool.or_comm _ (isAsciiDigit character), ← Bool.or_assoc]
  paired := by
    intro code low high
    change (!!(_ || _ || _)) = _
    rw [basic_upper.paired code low high, basic_lower.paired code low high,
      basic_digit.paired code low high]
    rfl
  beyond := by
    intro character big
    rw [isAsciiAlphanumeric, basic_upper.beyond character big, basic_lower.beyond character big,
      basic_digit.beyond character big]
    rfl

/-- Each half of a pair is a symbol, and so is every character outside ASCII. -/
theorem isSymbol_char (character : Char) :
    (encodeChar character).any isSymbol = !isAsciiAlphanumeric character := by
  rcases encodeChar_cases character with ⟨only, whole, same, -⟩ | ⟨high, low, whole, code, -, big⟩
  · have single := basic_alphanumeric.single only character same
    rw [whole, List.any_cons, List.any_nil, Bool.or_false, ← single, Bool.not_not]
  · have valid := toNat_valid character
    have paired : (!isSymbol high) = false := basic_alphanumeric.paired high (by omega) (by omega)
    have symbol : isSymbol high = true := by simpa using paired
    rw [whole, List.any_cons, basic_alphanumeric.beyond character big, symbol]
    rfl

theorem characterClasses_encode (toLowerCase : JsString -> JsString) (password : String)
    (username email : JsString) :
    (rulesOf toLowerCase (encode password.toList) username email).characterClasses =
      Password.characterClasses password := by
  have lower := basic_lower.any password.toList
  have upper := basic_upper.any password.toList
  have digit := basic_digit.any password.toList
  have symbol := any_encode isSymbol_char password.toList
  unfold Rules.characterClasses rulesOf Password.characterClasses
  dsimp only
  rw [lower, upper, digit, symbol]
  exact (List.Perm.swap _ _ _).countP_eq id

/-! ## Identities -/

/-- The user name, the whole address and its local part, as the browser compares
them. -/
def identities (lowering : Lowering) (username email : String) : List (List Char) :=
  [lowering.fold (trimText username.toList), lowering.fold (trimText email.toList),
    lowering.fold (trimText (lowering.fold (firstPart '@' email).toList))]

/-- An identity of at least three units is in the password. -/
def Recognized (lowering : Lowering) (password username email : String) : Prop :=
  Exists fun identity => identity ∈ identities lowering username email ∧
    3 ≤ (encode identity).length ∧ identity <:+: lowering.fold password.toList

/-- The text is in the password when the letters of ASCII are lowered. -/
def Occurs (password text : String) : Prop :=
  (toAsciiLowercase text).toList <:+: (toAsciiLowercase password).toList

/-- The server finds the user name, or a local part of at least three bytes. -/
def Refused (password username email : String) : Prop :=
  Occurs password username ∨ (3 ≤ len (firstPart '@' email) ∧ Occurs password (firstPart '@' email))

theorem localPart_encode (email : String) :
    localPart (encode email.toList) = encode (firstPart '@' email).toList := by
  have sign : (unit '@').toNat = '@'.toNat := rfl
  have only : Basic (· == unit '@') (· == '@') :=
    { single := by
        intro code character same
        rw [Bool.eq_iff_iff, beq_iff_eq, beq_iff_eq, ← UInt16.toNat_inj, ← Char.toNat_inj, same,
          sign]
      paired := by
        intro code low _
        rw [beq_eq_false_iff_ne]
        intro same
        rw [same, sign] at low
        exact absurd low (by decide)
      beyond := by
        intro character big
        rw [beq_eq_false_iff_ne]
        intro same
        rw [same] at big
        exact absurd big (by decide) }
  have parts := only.takeWhile email.toList
  rw [firstPart, String.toList_ofList]
  refine parts.trans ?_
  congr 2
  funext character
  rw [Bool.eq_iff_iff]
  simp

/-- The browser's tokens are the identities of at least three units. -/
theorem identityTokens_encode (describes : lowering.Describes toLowerCase)
    (username email : String) :
    identityTokens toLowerCase (encode username.toList) (encode email.toList) =
      ((identities lowering username email).map encode).filter fun token => 3 ≤ token.length := by
  unfold identityTokens identities
  simp only [List.map_cons, List.map_nil]
  rw [localPart_encode, describes, trim_encode, trim_encode, trim_encode, describes, describes,
    describes]

theorem identity_rule (describes : lowering.Describes toLowerCase)
    (password username email : String) :
    (rulesOf toLowerCase (encode password.toList) (encode username.toList)
        (encode email.toList)).identity = true ↔ ¬ Recognized lowering password username email := by
  unfold rulesOf Recognized includes
  dsimp only
  rw [identityTokens_encode describes, describes]
  simp only [Bool.not_eq_true', List.any_eq_false, List.mem_filter, List.mem_map, and_imp,
    forall_exists_index, decide_eq_true_eq, not_exists, not_and]
  constructor
  · intro rule identity listed long inside
    exact rule (encode identity) identity listed rfl long (infix_encode.mpr inside)
  · intro unseen token identity listed same long inside
    rw [← same] at long inside
    exact unseen identity listed long (infix_encode.mp inside)

/-! ## What each side requires -/

theorem passwordScore_ok (describes : lowering.Describes toLowerCase)
    (password username email : String) :
    (passwordScore toLowerCase (encode password.toList) (encode username.toList)
        (encode email.toList) false).ok = true ↔
      14 ≤ (encode password.toList).length ∧ 3 ≤ Password.characterClasses password ∧
        ¬ Recognized lowering password username email := by
  have classes := characterClasses_encode toLowerCase password (encode username.toList)
    (encode email.toList)
  have identity := identity_rule describes password username email
  unfold passwordScore
  rw [Bool.false_and, if_neg Bool.false_ne_true]
  dsimp only
  rw [classes, Bool.and_eq_true, Bool.and_eq_true, identity, decide_eq_true_eq]
  unfold rulesOf
  dsimp only
  rw [decide_eq_true_eq]
  constructor
  · rintro ⟨⟨long, unseen⟩, mixed⟩
    exact ⟨long, mixed, unseen⟩
  · rintro ⟨long, mixed, unseen⟩
    exact ⟨⟨long, unseen⟩, mixed⟩

theorem accepts_iff (password identity : String) :
    Password.accepts password identity = true ↔
      14 ≤ password.toList.length ∧ 3 ≤ Password.characterClasses password ∧
        ¬ (3 ≤ len identity ∧ Occurs password identity) := by
  have occurs : contains (toAsciiLowercase password) (toAsciiLowercase identity) = true ↔
      Occurs password identity := by
    rw [contains, decide_eq_true_eq, Occurs]
  unfold Password.accepts Password.validate
  dsimp only
  by_cases long : password.toList.length < Password.minimumPasswordLength
  · rw [if_pos long]
    have short : ¬ 14 ≤ password.toList.length := Nat.not_le.mpr long
    simp [short]
  · rw [if_neg long]
    have enough : 14 ≤ password.toList.length := Nat.not_lt.mp long
    by_cases mixed : Password.characterClasses password < 3
    · rw [if_pos mixed]
      have few : ¬ 3 ≤ Password.characterClasses password := Nat.not_le.mpr mixed
      simp [few]
    · rw [if_neg mixed]
      have several : 3 ≤ Password.characterClasses password := Nat.not_lt.mp mixed
      by_cases found : 3 ≤ len identity ∧ Occurs password identity
      · have both : (decide (3 ≤ len identity) &&
            contains (toAsciiLowercase password) (toAsciiLowercase identity)) = true := by
          rw [Bool.and_eq_true, decide_eq_true_eq, occurs]
          exact found
        rw [if_pos both]
        simp [found]
      · have neither : ¬ (decide (3 ≤ len identity) &&
            contains (toAsciiLowercase password) (toAsciiLowercase identity)) = true := by
          rw [Bool.and_eq_true, decide_eq_true_eq, occurs]
          exact found
        rw [if_neg neither]
        exact iff_of_true rfl ⟨enough, several, found⟩

theorem asciiLower_eq (character : Char) : asciiLower character = character.toLower := by
  by_cases small : character.toNat < 128
  · exact @Lowering.ascii_of_codes (fun character => asciiLower character = character.toLower)
      (by decide) character small
  · have kept : ¬ isAsciiUppercase character = true := by
      intro upper
      unfold isAsciiUppercase at upper
      rw [Bool.and_eq_true, decide_eq_true_eq, decide_eq_true_eq] at upper
      have below : character.toNat ≤ 90 := upper.2
      omega
    rw [Lowering.toLower_beyond small, asciiLower, if_neg kept]

/-- What is found in the lower case of ASCII is found in that of Unicode. -/
theorem folded_of_occurs (stable : lowering.Stable) {password text : String}
    (plain : 'Σ' ∉ text.toList) (occurs : Occurs password text) :
    lowering.fold text.toList <:+: lowering.fold password.toList := by
  unfold Occurs toAsciiLowercase at occurs
  rw [String.toList_ofList, String.toList_ofList, funext asciiLower_eq] at occurs
  have same : (text.toList.map Char.toLower).flatMap lowering.lower =
      text.toList.flatMap lowering.lower := by
    rw [List.flatMap_map]
    exact List.flatMap_congr fun character _ => stable.lower_toLower character
  have plain' : 'Σ' ∉ text.toList.map Char.toLower := by
    intro member
    rcases List.mem_map.mp member with ⟨character, inside, lowered⟩
    exact plain (Lowering.toLower_eq_sigma lowered ▸ inside)
  have found := stable.fold_infix plain' occurs
  rw [same] at found
  rw [Lowering.fold_plain plain]
  exact found

/-- A character that a user name may have. -/
def isNameCharacter (character : Char) : Bool :=
  isAsciiAlphanumeric character || character = '_' || character = '.' || character = '-'

theorem isNameCharacter_ascii {character : Char} (allowed : isNameCharacter character = true) :
    character.toNat < 128 := by
  unfold isNameCharacter isAsciiAlphanumeric isAsciiDigit isAsciiLowercase isAsciiUppercase at allowed
  simp only [Bool.or_eq_true, Bool.and_eq_true, decide_eq_true_eq] at allowed
  rcases allowed with ((((digit | lower) | upper) | rfl) | rfl) | rfl
  · have below : character.toNat ≤ 57 := digit.2
    omega
  · have below : character.toNat ≤ 122 := lower.2
    omega
  · have below : character.toNat ≤ 90 := upper.2
    omega
  · decide
  · decide
  · decide

theorem isNameCharacter_kept {character : Char} (allowed : isNameCharacter character = true) :
    isWhiteSpaceChar character = false := by
  have kept : isNameCharacter character = true -> isWhiteSpaceChar character = false :=
    @Lowering.ascii_of_codes
      (fun character => isNameCharacter character = true -> isWhiteSpaceChar character = false)
      (by decide) character (isNameCharacter_ascii allowed)
  exact kept allowed

theorem allowed_of_validUsername {username : String} (valid : Acl.validUsername username = true)
    {character : Char} (member : character ∈ username.toList) :
    isNameCharacter character = true := by
  rw [Acl.validUsername, Bool.and_eq_true, List.all_eq_true] at valid
  exact valid.2 character member

/-- Such a text has as many bytes as characters. -/
theorem len_eq_length {text : String}
    (allowed : forall character, character ∈ text.toList -> isNameCharacter character = true) :
    len text = text.toList.length := by
  have single : forall characters : List Char,
      (forall character, character ∈ characters -> isNameCharacter character = true) ->
        (characters.map Char.utf8Size).sum = characters.length := by
    intro characters
    induction characters with
    | nil => exact fun _ => rfl
    | cons character characters inductionHypothesis =>
        intro allowed
        have small := isNameCharacter_ascii (allowed character List.mem_cons_self)
        have one : character.utf8Size = 1 := if_pos (Nat.le_of_lt_succ small)
        rw [List.map_cons, List.sum_cons, one, List.length_cons,
          inductionHypothesis fun other member => allowed other
            (List.mem_cons_of_mem character member),
          Nat.add_comm]
  exact single text.toList allowed

/-- A user name is one of the browser's tokens as it is. -/
theorem recognized_of_username (stable : lowering.Stable) {password username : String}
    (email : String) (valid : Acl.validUsername username = true)
    (occurs : Occurs password username) : Recognized lowering password username email := by
  have allowed : forall character, character ∈ username.toList ->
    isNameCharacter character = true :=
    fun _ member => allowed_of_validUsername valid member
  have plain : 'Σ' ∉ username.toList := by
    intro member
    exact absurd (isNameCharacter_ascii (allowed 'Σ' member)) (by decide)
  have same : trimText username.toList = username.toList :=
    trimText_keeps fun character member => isNameCharacter_kept (allowed character member)
  refine ⟨_, List.mem_cons_self, ?_, ?_⟩
  · have mapped : lowering.fold username.toList = username.toList.map Char.toLower := by
      rw [Lowering.fold_plain plain, List.map_eq_flatMap]
      exact List.flatMap_congr fun character member =>
        stable.ascii character (isNameCharacter_ascii (allowed character member))
    have long : 3 ≤ len username := by
      simp only [Acl.validUsername, Bool.and_eq_true, decide_eq_true_eq] at valid
      exact valid.1.1
    rw [len_eq_length allowed] at long
    have units := length_le_encode (username.toList.map Char.toLower)
    rw [List.length_map] at units
    rw [same, mapped]
    exact long.trans units
  · rw [same]
    exact folded_of_occurs stable plain occurs

/-- A local part is recognised unless trimming leaves under three units of it. -/
theorem recognized_of_local (stable : lowering.Stable) {password email : String} (username : String)
    (occurs : Occurs password (firstPart '@' email)) (plain : 'Σ' ∉ (firstPart '@' email).toList)
    (long : 3 ≤ (encode (trimText (lowering.fold (firstPart '@' email).toList))).length) :
    Recognized lowering password username email := by
  have images : forall image, image ∈ lowering.fold (firstPart '@' email).toList ->
      Exists fun character => image ∈ lowering.lower character := by
    intro image member
    rw [Lowering.fold_plain plain] at member
    rcases List.mem_flatMap.mp member with ⟨character, -, mapped⟩
    exact ⟨character, mapped⟩
  have inside := trimText_infix (lowering.fold (firstPart '@' email).toList)
  have images' : forall image, image ∈ trimText (lowering.fold (firstPart '@' email).toList) ->
      Exists fun character => image ∈ lowering.lower character :=
    fun image member => images image (inside.subset member)
  have plain' : 'Σ' ∉ trimText (lowering.fold (firstPart '@' email).toList) := by
    intro member
    rcases images' 'Σ' member with ⟨character, mapped⟩
    exact (stable.lowered character 'Σ' mapped).1 rfl
  have same : lowering.fold (trimText (lowering.fold (firstPart '@' email).toList)) =
      trimText (lowering.fold (firstPart '@' email).toList) := by
    rw [Lowering.fold_plain plain', stable.flatMap_image images']
  refine ⟨_, List.mem_cons_of_mem _ (List.mem_cons_of_mem _ List.mem_cons_self), ?_, ?_⟩
  · rw [same]
    exact long
  · rw [same]
    exact inside.trans (folded_of_occurs stable plain occurs)

/-! ## Agreement -/

/-- The passwords on which the two sides differ, if their character classes are
enough for both. -/
inductive Mismatch (lowering : Lowering) (password username email : String) : Prop where
  /-- Long enough in units, but not in characters. -/
  | longInUnits (short : password.toList.length < 14)
      (long : 14 ≤ (encode password.toList).length)
      (unseen : ¬ Recognized lowering password username email)
  /-- The local part occurs, but the browser has no token of it. -/
  | localUnseen (long : 14 ≤ password.toList.length) (bytes : 3 ≤ len (firstPart '@' email))
      (occurs : Occurs password (firstPart '@' email))
      (noToken : (encode (trimText (lowering.fold (firstPart '@' email).toList))).length < 3 ∨
        'Σ' ∈ (firstPart '@' email).toList)
      (unseen : ¬ Recognized lowering password username email)
  /-- A token of the browser occurs, but neither identity of the server. -/
  | onlyRecognized (long : 14 ≤ password.toList.length)
      (recognized : Recognized lowering password username email)
      (unseen : ¬ Refused password username email)

theorem passwordIsAcceptable_iff {password username email : String}
    (valid : Acl.validUsername username = true) :
    Acl.passwordIsAcceptable password username email = true ↔
      14 ≤ password.toList.length ∧ 3 ≤ Password.characterClasses password ∧
        ¬ Refused password username email := by
  have long : 3 ≤ len username := by
    simp only [Acl.validUsername, Bool.and_eq_true, decide_eq_true_eq] at valid
    exact valid.1.1
  rw [Acl.passwordIsAcceptable, Bool.and_eq_true, accepts_iff, accepts_iff]
  unfold Refused
  constructor
  · rintro ⟨⟨enough, mixed, apart⟩, -, -, apart'⟩
    refine ⟨enough, mixed, ?_⟩
    rintro (named | owned)
    · exact apart ⟨long, named⟩
    · exact apart' owned
  · rintro ⟨enough, mixed, apart⟩
    exact ⟨⟨enough, mixed, fun named => apart (Or.inl named.2)⟩,
      enough, mixed, fun owned => apart (Or.inr owned)⟩

/-- The browser and the server apply the same policy exactly to the passwords
outside these three kinds. -/
theorem same_policy_iff (stable : lowering.Stable) (describes : lowering.Describes toLowerCase)
    {username : String} (valid : Acl.validUsername username = true) (password email : String) :
    ((passwordScore toLowerCase (encode password.toList) (encode username.toList)
          (encode email.toList) false).ok = true ↔
        Acl.passwordIsAcceptable password username email = true) ↔
      Password.characterClasses password < 3 ∨ ¬ Mismatch lowering password username email := by
  have units := length_le_encode password.toList
  rw [passwordScore_ok describes, passwordIsAcceptable_iff valid]
  constructor
  · intro same
    by_cases mixed : Password.characterClasses password < 3
    · exact Or.inl mixed
    · have several : 3 ≤ Password.characterClasses password := Nat.not_lt.mp mixed
      refine Or.inr ?_
      rintro (⟨short, long, unseen⟩ | ⟨long, bytes, occurs, -, unseen⟩ | ⟨long, recognized, unseen⟩)
      · exact Nat.not_le.mpr short (same.mp ⟨long, several, unseen⟩).1
      · exact (same.mp ⟨long.trans units, several, unseen⟩).2.2 (Or.inr ⟨bytes, occurs⟩)
      · exact (same.mpr ⟨long, several, unseen⟩).2.2 recognized
  · rintro (few | matched)
    · have few' : ¬ 3 ≤ Password.characterClasses password := Nat.not_le.mpr few
      exact iff_of_false (fun accepted => few' accepted.2.1) (fun accepted => few' accepted.2.1)
    · constructor
      · rintro ⟨long, several, unseen⟩
        have enough : 14 ≤ password.toList.length := by
          by_contra short
          exact matched (.longInUnits (Nat.not_le.mp short) long unseen)
        refine ⟨enough, several, ?_⟩
        rintro (named | ⟨bytes, occurs⟩)
        · exact unseen (recognized_of_username stable email valid named)
        · -- a token of the local part would have been recognised
          have noToken : (encode
            (trimText (lowering.fold (firstPart '@' email).toList))).length < 3 ∨
              'Σ' ∈ (firstPart '@' email).toList := by
            by_contra token
            rw [not_or, Nat.not_lt] at token
            exact unseen (recognized_of_local stable username occurs token.2 token.1)
          exact matched (.localUnseen enough bytes occurs noToken unseen)
      · rintro ⟨enough, several, unseen⟩
        refine ⟨enough.trans units, several, fun recognized => ?_⟩
        exact matched (.onlyRecognized enough recognized unseen)

end PasswordScore

namespace Sample

open JavaScript PasswordScore Text

/-- The lower case of ASCII and of the capital sigma. -/
def lowerUnit (code : UInt16) : UInt16 :=
  if between 'A' 'Z' code then code + 32 else if code = unit 'Σ' then unit 'σ' else code

def lowerUnits (text : JsString) : JsString := text.map lowerUnit

def lowerChar (character : Char) : Char :=
  if character = 'Σ' then 'σ' else character.toLower

def lowerTable : Lowering where
  lower character := [lowerChar character]
  sigma _ _ := 'σ'

theorem lowerUnit_beyond {code : UInt16} (beyond : 128 ≤ code.toNat)
    (other : code.toNat ≠ 'Σ'.toNat) : lowerUnit code = code := by
  have above : ¬ code.toNat ≤ 'Z'.toNat := by
    intro below
    have below' : code.toNat ≤ 90 := below
    omega
  have letter : between 'A' 'Z' code = false := by
    rw [between, decide_eq_false above, Bool.and_false]
  have apart : code ≠ unit 'Σ' := fun same => other (same ▸ rfl)
  rw [lowerUnit, letter, if_neg Bool.false_ne_true, if_neg apart]

theorem lowerUnits_encodeChar (character : Char) :
    lowerUnits (encodeChar character) = encodeChar (lowerChar character) := by
  by_cases small : character.toNat < 128
  · exact @Lowering.ascii_of_codes
      (fun character => lowerUnits (encodeChar character) = encodeChar (lowerChar character))
      (by decide) character small
  · by_cases sigma : character = 'Σ'
    · rw [sigma]
      decide
    · have kept : lowerChar character = character := by
        rw [lowerChar, if_neg sigma, Lowering.toLower_beyond small]
      have other : character.toNat ≠ 'Σ'.toNat := fun same => sigma (Char.toNat_inj.mp same)
      rw [kept, lowerUnits]
      rcases encodeChar_cases character with ⟨only, whole, code, -⟩ |
        ⟨high, low, whole, code, code', -⟩
      · rw [whole, List.map_singleton, lowerUnit_beyond (by omega) (by omega)]
      · have value : 'Σ'.toNat = 0x3A3 := rfl
        rw [whole, List.map_cons, List.map_singleton, lowerUnit_beyond (by omega) (by omega),
          lowerUnit_beyond (by omega) (by omega)]

theorem lowerTable_describes : lowerTable.Describes lowerUnits := by
  have converted : forall text before : List Char,
      lowerUnits (encode text) = encode (lowerTable.convert before text) := by
    intro text
    induction text with
    | nil => exact fun _ => rfl
    | cons character text inductionHypothesis =>
        intro before
        have mapped : lowerTable.inContext before character text = [lowerChar character] := by
          by_cases sigma : character = 'Σ'
          · rw [sigma]
            rfl
          · exact Lowering.inContext_of_ne sigma before text
        rw [Lowering.convert, mapped, List.singleton_append, encode_cons, encode_cons, lowerUnits,
          List.map_append]
        exact congrArg₂ (· ++ ·) (lowerUnits_encodeChar character) (inductionHypothesis _)
  exact fun text => converted text []

theorem lowerTable_stable : lowerTable.Stable where
  ascii := by
    intro character small
    have other : character ≠ 'Σ' := by
      rintro rfl
      exact absurd small (by decide)
    change [lowerChar character] = _
    rw [lowerChar, if_neg other]
  lowered := by
    intro character image member
    have whole : image = lowerChar character := List.mem_singleton.mp member
    rw [whole]
    change _ ∧ [lowerChar (lowerChar character)] = [lowerChar character]
    by_cases small : character.toNat < 128
    · exact @Lowering.ascii_of_codes (fun character => lowerChar character ≠ 'Σ' ∧
        [lowerChar (lowerChar character)] = [lowerChar character]) (by decide) character small
    · by_cases sigma : character = 'Σ'
      · rw [sigma]
        decide
      · have kept : lowerChar character = character := by
          rw [lowerChar, if_neg sigma, Lowering.toLower_beyond small]
        rw [kept, kept]
        exact ⟨sigma, rfl⟩

theorem same_policy_iff_alice :
    ((passwordScore lowerUnits (encode "Correct-Horse-9".toList) (encode "alice".toList)
          (encode "alice@example.org".toList) false).ok = true ↔
        Acl.passwordIsAcceptable "Correct-Horse-9" "alice" "alice@example.org" = true) ↔
      Password.characterClasses "Correct-Horse-9" < 3 ∨
        ¬ Mismatch lowerTable "Correct-Horse-9" "alice" "alice@example.org" :=
  same_policy_iff lowerTable_stable lowerTable_describes (by decide) "Correct-Horse-9"
    "alice@example.org"

/-- Nine characters that are fourteen units. -/
theorem short_password_promised :
    (Acl.validUsername "alice" = true ∧ toAsciiLowercase (trim "alice") = "alice") ∧
      (Acl.validEmail "alice@example.org" = true ∧
        toAsciiLowercase (trim "alice@example.org") = "alice@example.org") ∧
      (lowerTable.Stable ∧ lowerTable.Describes lowerUnits) ∧
      (passwordScore lowerUnits (encode "Aa1-😀😀😀😀😀".toList) (encode "alice".toList)
          (encode "alice@example.org".toList) false).ok = true ∧
        Acl.passwordIsAcceptable "Aa1-😀😀😀😀😀" "alice" "alice@example.org" = false := by
  refine ⟨by decide, by decide, ⟨lowerTable_stable, lowerTable_describes⟩, ?_, ?_⟩
  · decide
  · decide

end Sample
end KrakenUi
