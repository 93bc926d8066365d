import Mathlib.Data.List.Infix

namespace Html

/-!
# Text with character references

Text of a document is read with its character references decoded, and written with
references for the four characters that may not stand in it as they are.
Which references there are is a long table and a parameter here, apart from
the few that stand for those four.

A text comes back as it was, up to the case of letters, exactly when all its
ampersands begin one of these references.
-/

def noBreakSpace : Char := Char.ofNat 0xA0

/-- What the text behind an ampersand stands for, and how much of it is used up. -/
abbrev References := List Char -> Option (List Char × Nat)

/-- Decode a text of which so many characters are used up already. -/
def decodeFrom (references : References) : Nat -> List Char -> List Char
  | _, [] => []
  | used + 1, _ :: rest => decodeFrom references used rest
  | 0, character :: rest =>
      if character = '&' then
        match references rest with
        | some (characters, taken) => characters ++ decodeFrom references taken rest
        | none => '&' :: decodeFrom references 0 rest
      else character :: decodeFrom references 0 rest

def decode (references : References) (text : List Char) : List Char :=
  decodeFrom references 0 text

/-- The references that are written. -/
def written : List (List Char × Char) :=
  [("amp;".toList, '&'), ("lt;".toList, '<'), ("gt;".toList, '>'), ("nbsp;".toList, noBreakSpace)]

/-- And those that are read as the same characters. -/
def known : List (List Char × Char) :=
  written ++ [("AMP;".toList, '&'), ("LT;".toList, '<'), ("GT;".toList, '>')]

def escapeChar (character : Char) : List Char :=
  match written.find? fun entry => entry.2 = character with
  | some entry => '&' :: entry.1
  | none => [character]

/-- Write a text. -/
def escape (text : List Char) : List Char := text.flatMap escapeChar

/-- Read a text and write it again. -/
def rewrite (references : References) (text : List Char) : List Char :=
  escape (decode references text)

/-- What is known of the table: the entries above, that in other capitals there is at most a
mathematical sign, and that every entry stands for something. -/
structure Documented (references : References) : Prop where
  named : forall name character, (name, character) ∈ known -> forall rest,
    references (name ++ rest) = some ([character], name.length)
  capitals : forall name character, (name, character) ∈ written -> forall other,
    other.map Char.toLower = name -> (forall entry, entry ∈ known -> entry.1 ≠ other) ->
      forall rest, references (other ++ rest) = none ∨
        Exists fun sign => sign ∈ ['≪', '≫'] ∧ references (other ++ rest) = some ([sign], 3)
  some' : forall rest characters taken, references rest = some (characters, taken) ->
    characters ≠ []

/-! ## Writing -/

@[simp] theorem escape_nil : escape [] = [] := rfl

@[simp] theorem escape_cons (character : Char) (text : List Char) :
    escape (character :: text) = escapeChar character ++ escape text := List.flatMap_cons

@[simp] theorem escape_append (front behind : List Char) :
    escape (front ++ behind) = escape front ++ escape behind := List.flatMap_append

/-- A character is written as it is, or as one of the references. -/
theorem escapeChar_cases (character : Char) :
    (escapeChar character = [character] ∧ character ≠ '&') ∨
      Exists fun name => (name, character) ∈ written ∧ escapeChar character = '&' :: name := by
  unfold escapeChar
  cases found : written.find? fun entry => entry.2 = character with
  | none =>
      apply Or.inl
      refine ⟨rfl, ?_⟩
      rintro rfl
      have missing := List.find?_eq_none.mp found ("amp;".toList, '&') (by decide)
      exact missing (by decide)
  | some entry =>
      have same : entry.2 = character := by simpa using List.find?_some found
      refine Or.inr ⟨entry.1, ?_, rfl⟩
      rw [← same]
      exact List.mem_of_find?_eq_some found

theorem escapeChar_plain {character : Char}
    (plain : forall entry, entry ∈ written -> entry.2 ≠ character) :
    escapeChar character = [character] := by
  rcases escapeChar_cases character with same | ⟨name, entry, -⟩
  · exact same.1
  · exact absurd rfl (plain _ entry)

/-- Up to case a known reference is written as it is read. -/
theorem escapeChar_known {name : List Char} {character : Char}
    (entry : (name, character) ∈ known) :
    (escapeChar character).map Char.toLower = '&' :: name.map Char.toLower := by
  have all : forall entry, entry ∈ known ->
      (escapeChar entry.2).map Char.toLower = '&' :: entry.1.map Char.toLower := by decide
  exact all (name, character) entry

/-- Every ampersand that is written begins one of the references. -/
theorem written_of_ampersand (text : List Char) {front behind : List Char}
    (parts : escape text = front ++ '&' :: behind) :
    Exists fun entry => entry ∈ written ∧ entry.1 <+: behind := by
  induction text generalizing front with
  | nil => simp at parts
  | cons character text inductionHypothesis =>
      rw [escape_cons] at parts
      rcases escapeChar_cases character with ⟨same, apart⟩ | ⟨name, entry, same⟩
      · rw [same] at parts
        cases front with
        | nil => exact absurd (List.cons.inj parts).1 apart
        | cons first front => exact inductionHypothesis (List.cons.inj parts).2
      · rw [same] at parts
        cases front with
        | nil =>
            refine ⟨(name, character), entry, ?_⟩
            rw [← (List.cons.inj parts).2]
            exact List.prefix_append _ _
        | cons first front =>
            have tails := (List.cons.inj parts).2
            have inside : '&' ∉ name := by
              have all : forall entry, entry ∈ written -> '&' ∉ entry.1 := by decide
              exact all (name, character) entry
            rcases List.append_eq_append_iff.mp tails with ⟨more, rfl, later⟩ | ⟨more, rfl, later⟩
            · exact inductionHypothesis later
            · cases more with
              | nil => exact @inductionHypothesis [] later.symm
              | cons other more =>
                  have ampersand := (List.cons.inj later).1
                  rw [← ampersand] at inside
                  exact absurd (by simp) inside

/-! ## Reading and writing -/

variable {references : References}

theorem decodeFrom_drop (used : Nat) (text : List Char) :
    decodeFrom references used text = decode references (text.drop used) := by
  induction text generalizing used with
  | nil =>
      rw [List.drop_nil]
      cases used <;> rfl
  | cons character rest inductionHypothesis =>
      cases used with
      | zero => rfl
      | succ used => exact inductionHypothesis used

@[simp] theorem rewrite_nil : rewrite references [] = [] := rfl

theorem rewrite_plain {character : Char} (plain : character ≠ '&') (rest : List Char) :
    rewrite references (character :: rest) = escapeChar character ++ rewrite references rest := by
  rw [rewrite, decode, decodeFrom, if_neg plain, escape_cons]
  rfl

theorem rewrite_reference {rest characters : List Char} {taken : Nat}
    (read : references rest = some (characters, taken)) :
    rewrite references ('&' :: rest) =
      escape characters ++ rewrite references (rest.drop taken) := by
  rw [rewrite, decode, decodeFrom, if_pos rfl, read]
  dsimp only
  rw [escape_append, decodeFrom_drop]
  rfl

theorem rewrite_ampersand {rest : List Char} (read : references rest = none) :
    rewrite references ('&' :: rest) = '&' :: ("amp;".toList ++ rewrite references rest) := by
  rw [rewrite, decode, decodeFrom, if_pos rfl, read]
  dsimp only
  rw [escape_cons]
  rfl

theorem rewrite_known (documented : Documented references) {name : List Char} {character : Char}
    (entry : (name, character) ∈ known) (rest : List Char) :
    rewrite references ('&' :: (name ++ rest)) =
      escapeChar character ++ rewrite references rest := by
  rw [rewrite_reference (documented.named name character entry rest), List.drop_left, escape_cons,
    escape_nil, List.append_nil]

/-! ## Texts that come back -/

/-- Every ampersand begins a known reference, and no character has to be replaced. -/
def Canonical (text : List Char) : Prop :=
  noBreakSpace ∉ text ∧ forall rest, '&' :: rest <:+ text ->
    Exists fun entry => entry ∈ known ∧ entry.1 <+: rest

theorem canonical_nil : Canonical [] := by
  constructor
  · exact List.not_mem_nil
  · intro rest suffix
    cases List.suffix_nil.mp suffix

theorem Canonical.plain {character : Char} {rest : List Char} (canonical : Canonical rest)
    (apart : character ≠ '&') (visible : character ≠ noBreakSpace) :
    Canonical (character :: rest) := by
  constructor
  · intro member
    rcases List.mem_cons.mp member with first | later
    · exact visible first.symm
    · exact canonical.1 later
  · intro others suffix
    rcases List.suffix_cons_iff.mp suffix with whole | later
    · exact absurd (List.cons.inj whole).1.symm apart
    · exact canonical.2 others later

theorem known_plain {name : List Char} {character : Char} (entry : (name, character) ∈ known) :
    forall letter, letter ∈ name -> letter ≠ '&' ∧ letter ≠ noBreakSpace := by
  have all : (known.all fun entry => entry.1.all fun letter =>
      decide (letter ≠ '&' ∧ letter ≠ noBreakSpace)) = true := by decide
  intro letter member
  exact of_decide_eq_true (List.all_eq_true.mp (List.all_eq_true.mp all _ entry) letter member)

theorem Canonical.append_plain {name rest : List Char} (canonical : Canonical rest)
    (plain : forall letter, letter ∈ name -> letter ≠ '&' ∧ letter ≠ noBreakSpace) :
    Canonical (name ++ rest) := by
  induction name with
  | nil => exact canonical
  | cons letter name inductionHypothesis =>
      have first := plain letter List.mem_cons_self
      exact (inductionHypothesis fun other member =>
        plain other (List.mem_cons_of_mem letter member)).plain first.1 first.2

theorem Canonical.reference {name rest : List Char} {character : Char}
    (entry : (name, character) ∈ known) (canonical : Canonical rest) :
    Canonical ('&' :: (name ++ rest)) := by
  have later := canonical.append_plain (known_plain entry)
  constructor
  · intro member
    rcases List.mem_cons.mp member with first | among
    · exact absurd first (by decide)
    · exact later.1 among
  · intro others suffix
    rcases List.suffix_cons_iff.mp suffix with whole | inside
    · refine ⟨(name, character), entry, ?_⟩
      rw [(List.cons.inj whole).2]
      exact List.prefix_append name rest
    · exact later.2 others inside

theorem Canonical.suffix {text rest : List Char} (canonical : Canonical text)
    (suffix : rest <:+ text) : Canonical rest := by
  constructor
  · exact fun member => canonical.1 (suffix.subset member)
  · intro others inside
    exact canonical.2 others (inside.trans suffix)

/-- A canonical text without markup comes back, up to the case of the references. -/
theorem Canonical.rewrite (documented : Documented references) (size : Nat) :
    forall text : List Char, text.length ≤ size -> Canonical text -> '<' ∉ text -> '>' ∉ text ->
      (Html.rewrite references text).map Char.toLower = text.map Char.toLower := by
  induction size with
  | zero =>
      intro text short canonical less greater
      have empty : text = [] := List.length_eq_zero_iff.mp (Nat.le_zero.mp short)
      rw [empty]
      rfl
  | succ size inductionHypothesis =>
      intro text short canonical less greater
      cases text with
      | nil => rfl
      | cons character rest =>
          by_cases ampersand : character = '&'
          · subst ampersand
            rcases canonical.2 rest (List.suffix_refl _) with
                ⟨⟨name, character⟩, entry, behind, rfl⟩
            have suffix : behind <:+ '&' :: (name ++ behind) :=
              ⟨'&' :: name, by simp⟩
            have later := inductionHypothesis behind (by simp at short; omega)
              (canonical.suffix suffix) (fun member => less (suffix.subset member))
              (fun member => greater (suffix.subset member))
            rw [rewrite_known documented entry, List.map_append, escapeChar_known entry, later,
              List.map_cons, List.map_append]
            rfl
          · have suffix : rest <:+ character :: rest := List.suffix_cons character rest
            have later := inductionHypothesis rest (by simpa using short)
              (canonical.suffix suffix) (fun member => less (suffix.subset member))
              (fun member => greater (suffix.subset member))
            have plain : escapeChar character = [character] := by
              apply escapeChar_plain
              rintro entry member rfl
              simp only [written, List.mem_cons, List.not_mem_nil, or_false] at member
              rcases member with rfl | rfl | rfl | rfl
              · exact ampersand rfl
              · exact less List.mem_cons_self
              · exact greater List.mem_cons_self
              · exact canonical.1 List.mem_cons_self
            rw [rewrite_plain ampersand, plain, List.map_append, later]
            rfl

/-! ## Texts that do not -/

/-- Characters that no reference is written with. -/
def Foreign (text : List Char) : Prop :=
  forall character, character ∈ text -> character ∉ "&ampltgnbs;".toList

theorem written_letters {name : List Char} {character : Char}
    (entry : (name, character) ∈ written) :
    name ≠ [] ∧ (forall letter, letter ∈ name -> letter ∈ "&ampltgnbs;".toList) ∧
      name.map Char.toLower = name := by
  have all : forall entry, entry ∈ written -> entry.1 ≠ [] ∧
      (entry.1.all fun letter => decide (letter ∈ "&ampltgnbs;".toList)) = true ∧
        entry.1.map Char.toLower = entry.1 := by decide
  have each := all (name, character) entry
  refine ⟨each.1, ?_, each.2.2⟩
  intro letter member
  exact of_decide_eq_true (List.all_eq_true.mp each.2.1 letter member)

theorem escapeChar_sign {sign : Char} (member : sign ∈ ['≪', '≫']) :
    escapeChar sign = [sign] := by
  rcases List.mem_cons.mp member with rfl | later
  · decide
  · rw [List.mem_singleton.mp later]
    decide

/-- A name does not reach into what follows. -/
theorem name_inside {name text tail rest : List Char} (foreign : Foreign tail)
    (letters : forall letter, letter ∈ name -> letter ∈ "&ampltgnbs;".toList)
    (same : name ++ rest = text ++ tail) :
    Exists fun more => text = name ++ more ∧ rest = more ++ tail := by
  rcases List.append_eq_append_iff.mp same with ⟨more, inside, later⟩ | ⟨more, inside, later⟩
  · exact ⟨more, inside, later⟩
  · cases more with
    | nil =>
        rw [List.append_nil] at inside
        rw [List.nil_append] at later
        exact ⟨[], by rw [inside, List.append_nil], later.symm⟩
    | cons letter more =>
        have used : letter ∈ name := by
          rw [inside]
          simp
        have outside : letter ∈ tail := by
          rw [later]
          exact List.mem_cons_self
        exact absurd (letters letter used) (foreign letter outside)

theorem toLower_ampersand {character : Char} (same : character.toLower = '&') :
    character = '&' := by
  by_cases upper : character.val ≥ 'A'.val ∧ character.val ≤ 'Z'.val
  · have value : character.toLower.val = character.val + ('a'.val - 'A'.val) :=
      congrArg Char.val (dif_pos upper)
    rw [same] at value
    have sum := congrArg UInt32.toNat value
    have lower := UInt32.le_iff_toNat_le.mp upper.1
    have higher := UInt32.le_iff_toNat_le.mp upper.2
    simp at sum lower higher
    omega
  · have value : character.toLower = character := dif_neg upper
    rw [← value]
    exact same

/-- A text that is written with a name, up to case, has that name in it. -/
theorem name_of_lower {name more text : List Char}
    (same : text.map Char.toLower = name ++ more) :
    Exists fun other => Exists fun rest => text = other ++ rest ∧ other.map Char.toLower = name ∧
      rest.map Char.toLower = more :=
  List.map_eq_append_iff.mp same

theorem rewrite_letters {front : List Char}
    (plain : forall letter, letter ∈ front -> forall entry, entry ∈ written -> entry.2 ≠ letter)
    (rest : List Char) :
    rewrite references (front ++ rest) = front ++ rewrite references rest := by
  induction front with
  | nil => rfl
  | cons letter front inductionHypothesis =>
      have first := plain letter List.mem_cons_self
      have later := inductionHypothesis fun other member =>
        plain other (List.mem_cons_of_mem letter member)
      have apart : letter ≠ '&' := fun same => first ("amp;".toList, '&') (by decide) same.symm
      rw [List.cons_append, rewrite_plain apart, escapeChar_plain first, later]
      rfl

/-- What a written ampersand adds is not made up for by what follows. -/
theorem shifted_ampersand (size : Nat) :
    forall text tail : List Char, text.length ≤ size -> Foreign tail ->
      "amp;".toList ++ (rewrite references text).map Char.toLower ≠
        text.map Char.toLower ++ tail := by
  have ampersand : ("amp;".toList, '&') ∈ written := List.mem_cons_self
  have letters := (written_letters ampersand).2.1
  induction size with
  | zero =>
      intro text tail short foreign same
      have empty : text = [] := List.length_eq_zero_iff.mp (Nat.le_zero.mp short)
      subst empty
      rcases name_inside foreign letters same with ⟨more, inside, -⟩
      cases inside
  | succ size inductionHypothesis =>
      intro text tail short foreign same
      rcases name_inside foreign letters same with ⟨more, inside, later⟩
      rcases name_of_lower inside with ⟨other, rest, rfl, lower, rfl⟩
      have plain : forall letter, letter ∈ other -> forall entry, entry ∈ written ->
          entry.2 ≠ letter := by
        have apart : forall entry, entry ∈ written -> entry.2.toLower ∉ "amp;".toList := by decide
        rintro letter member entry among rfl
        have used := List.mem_map_of_mem (f := Char.toLower) member
        rw [lower] at used
        exact apart entry among used
      rw [rewrite_letters plain, List.map_append, lower] at later
      have length : other.length = 4 := by
        have sizes := congrArg List.length lower
        rw [List.length_map] at sizes
        exact sizes
      apply inductionHypothesis rest tail _ foreign later
      rw [List.length_append] at short
      omega

/-- At an ampersand, a text that comes back has a known reference. -/
theorem known_of_rewrite (documented : Documented references) {rest tail : List Char}
    (foreign : Foreign tail)
    (same : (rewrite references ('&' :: rest)).map Char.toLower =
      '&' :: (rest.map Char.toLower ++ tail)) :
    Exists fun entry => entry ∈ known ∧ entry.1 <+: rest := by
  cases read : references rest with
  | none =>
      rw [rewrite_ampersand read, List.map_cons, List.map_append] at same
      exact absurd (List.cons.inj same).2 (shifted_ampersand rest.length rest tail
        (Nat.le_refl _) foreign)
  | some found =>
      rcases found with ⟨characters, taken⟩
      cases characters with
      | nil => exact absurd rfl (documented.some' rest [] taken read)
      | cons first characters =>
          rw [rewrite_reference read, escape_cons] at same
          rcases escapeChar_cases first with ⟨plain, apart⟩ | ⟨name, entry, whole⟩
          · rw [plain] at same
            exact absurd (toLower_ampersand (List.cons.inj same).1) apart
          · rw [whole] at same
            have letters := written_letters entry
            rw [List.cons_append, List.cons_append, List.append_assoc] at same
            have tails := (List.cons.inj same).2
            rw [List.map_append, letters.2.2] at tails
            rcases name_inside foreign letters.2.1 tails with ⟨more, inside, -⟩
            rcases name_of_lower inside with ⟨other, behind, rfl, lower, -⟩
            by_contra unknown
            have absent : forall entry, entry ∈ known -> entry.1 ≠ other := by
              rintro entry member rfl
              exact unknown ⟨entry, member, List.prefix_append _ _⟩
            rcases documented.capitals name first entry other lower absent behind with
              none' | ⟨sign, member, some'⟩
            · rw [read] at none'
              cases none'
            · rw [read] at some'
              cases some'
              rw [escapeChar_sign member] at whole
              cases whole
              exact letters.1 rfl

/-- Only a canonical text comes back. -/
theorem canonical_of_rewrite (documented : Documented references) (size : Nat) :
    forall text tail : List Char, text.length ≤ size -> Foreign tail ->
      (rewrite references text).map Char.toLower = text.map Char.toLower ++ tail ->
        Canonical text := by
  induction size with
  | zero =>
      intro text tail short foreign same
      have empty : text = [] := List.length_eq_zero_iff.mp (Nat.le_zero.mp short)
      rw [empty]
      exact canonical_nil
  | succ size inductionHypothesis =>
      intro text tail short foreign same
      cases text with
      | nil => exact canonical_nil
      | cons character rest =>
          by_cases ampersand : character = '&'
          · subst ampersand
            rcases known_of_rewrite documented foreign same with
                ⟨⟨name, character⟩, entry, behind, rfl⟩
            rw [rewrite_known documented entry, List.map_append, escapeChar_known entry,
              List.map_cons, List.map_append, List.cons_append, List.cons_append,
              List.append_assoc] at same
            have later := List.append_cancel_left (List.cons.inj same).2
            apply Canonical.reference entry
            apply inductionHypothesis behind tail _ foreign later
            rw [List.length_cons, List.length_append] at short
            omega
          · rw [rewrite_plain ampersand] at same
            rcases escapeChar_cases character with ⟨plain, -⟩ | ⟨name, entry, whole⟩
            · rw [plain] at same
              have later := (List.cons.inj same).2
              have rest' := inductionHypothesis rest tail (by simpa using short) foreign later
              apply rest'.plain ampersand
              rintro rfl
              have replaced : escapeChar noBreakSpace ≠ [noBreakSpace] := by decide
              exact replaced plain
            · rw [whole] at same
              have first := (List.cons.inj same).1
              exact absurd (toLower_ampersand first.symm) ampersand

/-- When a reference is decoded to something that is not written with an ampersand, what comes
later is not written like the text itself. -/
theorem sign_of_shift (documented : Documented references) {rest front core tail more : List Char}
    {first : Char} (foreign : Foreign tail) (apart : first ≠ '&')
    (starts : rewrite references ('&' :: rest) = first :: more)
    (parts : rewrite references ('&' :: rest) = front ++ '&' :: (core ++ tail))
    (same : core.map Char.toLower = rest.map Char.toLower) : first ∈ ['≪', '≫'] := by
  rcases written_of_ampersand _ parts with ⟨⟨name, character⟩, entry, behind, inside⟩
  have letters := written_letters entry
  rcases name_inside foreign letters.2.1 inside with ⟨later, rfl, -⟩
  rw [List.map_append, letters.2.2] at same
  rcases name_of_lower same.symm with ⟨other, others, rfl, lower, -⟩
  by_cases unknown : forall entry, entry ∈ known -> entry.1 ≠ other
  · rcases documented.capitals name character entry other lower unknown others with
      none' | ⟨sign, member, read⟩
    · rw [rewrite_ampersand none'] at starts
      exact absurd (List.cons.inj starts).1.symm apart
    · rw [rewrite_reference read, escape_cons, escapeChar_sign member] at starts
      rw [← (List.cons.inj starts).1]
      exact member
  · push Not at unknown
    rcases unknown with ⟨⟨spelled, meaning⟩, among, rfl⟩
    rw [rewrite_known documented among] at starts
    have lowered := escapeChar_known among
    cases written' : escapeChar meaning with
    | nil =>
        rw [written'] at lowered
        cases lowered
    | cons head letters' =>
        rw [written'] at lowered starts
        have ampersand := toLower_ampersand (List.cons.inj lowered).1
        rw [ampersand] at starts
        exact absurd (List.cons.inj starts).1.symm apart

end Html
