import KrakenUi.Controllers.Waf
import KrakenUi.Html.References

namespace KrakenUi
namespace Waf

open Text Sql Html VulnerabilityRepository

/-!
# What the search in the attacks table finds

A search text goes through the HTML sanitiser before it is compared with what
the firewall has stored, which never did.  So the text is found where it was
typed only if the sanitiser leaves it as it is, and it writes every ampersand
that does not begin one of a few references with four more letters.
-/

/-- On a text without markup the sanitiser decodes character references and writes the text. -/
def CleansText (references : References) (clean : String -> String) : Prop :=
  forall text : String, '<' ∉ text.toList -> '>' ∉ text.toList ->
    clean text = String.ofList (rewrite references text.toList)

/-- The text that a request asks to search for. -/
def searchText (query : Query) : Option String :=
  (query "search[value]").or (query "search")

/-- The rows in which a selected column contains the text, up to the case of ASCII letters. -/
def containing (text : String) (searchField : AttackSearchField) (rows : List Vulnerability) :
    List Vulnerability :=
  rows.filter fun row =>
    searchField.columns.any fun column => decide (Occurs text.toList (column row).toList)

/-- Every search for the text counts the rows that contain it. -/
def Finds (clean : String -> String) (text : String) : Prop :=
  forall query database, searchText query = some text ->
    (apiAttacks clean (some database) query).2.recordsFiltered =
      (containing text (searchField clean query) database.rows).length

/-! ## Texts that are the same up to case -/

theorem toLower_whitespace {character : Char} (blank : isWhitespace character = true) :
    character.toLower = character := by
  apply dif_neg
  intro upper
  have lower := UInt32.le_iff_toNat_le.mp upper.1
  have higher := UInt32.le_iff_toNat_le.mp upper.2
  have bounds : 65 ≤ character.toNat ∧ character.toNat ≤ 90 := ⟨lower, higher⟩
  unfold isWhitespace at blank
  simp only [Bool.or_eq_true, Bool.and_eq_true, decide_eq_true_eq, beq_iff_eq] at blank
  omega

theorem isWhitespace_of_toLower {character other : Char}
    (same : character.toLower = other.toLower) (visible : isWhitespace other = false) :
    isWhitespace character = false := by
  by_contra blank
  rw [Bool.not_eq_false] at blank
  rw [toLower_whitespace blank] at same
  by_cases upper : other.val ≥ 'A'.val ∧ other.val ≤ 'Z'.val
  · have value : other.toLower.val = other.val + ('a'.val - 'A'.val) := congrArg Char.val (dif_pos upper)
    rw [← same] at value
    have sum := congrArg UInt32.toNat value
    have lower := UInt32.le_iff_toNat_le.mp upper.1
    have higher := UInt32.le_iff_toNat_le.mp upper.2
    unfold isWhitespace at blank
    simp only [Bool.or_eq_true, Bool.and_eq_true, decide_eq_true_eq, beq_iff_eq] at blank
    simp at sum lower higher
    omega
  · have value : other.toLower = other := dif_neg upper
    rw [same, value] at blank
    rw [blank] at visible
    cases visible

theorem trimmed_of_lower {text other : List Char}
    (same : text.map Char.toLower = other.map Char.toLower) (trimmed : Trimmed other) :
    Trimmed text := by
  rintro character (first | last)
  · have heads := congrArg List.head? same
    rw [List.head?_map, List.head?_map, first, Option.map_some] at heads
    rcases Option.map_eq_some_iff.mp heads.symm with ⟨head, found, lower⟩
    exact isWhitespace_of_toLower lower.symm (trimmed head (Or.inl found))
  · have ends := congrArg List.getLast? same
    rw [List.getLast?_map, List.getLast?_map, last, Option.map_some] at ends
    rcases Option.map_eq_some_iff.mp ends.symm with ⟨tail, found, lower⟩
    exact isWhitespace_of_toLower lower.symm (trimmed tail (Or.inr found))

theorem foreign_of_blank {text : List Char}
    (blank : forall character, character ∈ text -> isWhitespace character = true) :
    Foreign text := by
  intro character member used
  have letters : forall letter, letter ∈ "&ampltgnbs;".toList -> isWhitespace letter = false := by
    decide
  have visible := letters character used
  rw [blank character member] at visible
  cases visible

/-! ## Texts that the sanitiser leaves as they are -/

section

variable {references : References} {clean : String -> String}

/-- A trimmed text that comes back through the sanitiser and the trimming is canonical. -/
theorem canonical_of_trimChars (documented : Documented references) {text : List Char}
    (trimmed : Trimmed text)
    (same : (trimChars (rewrite references text)).map Char.toLower = text.map Char.toLower) :
    Canonical text := by
  rcases trimChars_parts (rewrite references text) with ⟨front, back, parts, before, after⟩
  generalize core : trimChars (rewrite references text) = middle at parts same
  cases front with
  | nil =>
      have foreign : Foreign (back.map Char.toLower) := by
        apply foreign_of_blank
        intro character member
        rcases List.mem_map.mp member with ⟨other, among, rfl⟩
        rw [toLower_whitespace (after other among)]
        exact after other among
      apply canonical_of_rewrite documented text.length text _ (Nat.le_refl _) foreign
      rw [parts, List.nil_append, List.map_append, same]
  | cons first front =>
      exfalso
      have blank := before first List.mem_cons_self
      have apart : first ≠ '&' := by
        rintro rfl
        exact absurd blank (by decide)
      cases text with
      | nil => cases parts
      | cons character rest =>
          by_cases ampersand : character = '&'
          · subst ampersand
            cases middle with
            | nil => cases same
            | cons head middle =>
                have heads := toLower_ampersand (List.cons.inj same).1
                subst heads
                have shift : rewrite references ('&' :: rest) =
                    (first :: front) ++ '&' :: (middle ++ back) := parts
                have sign := sign_of_shift documented (foreign_of_blank after) apart parts shift
                  (List.cons.inj same).2
                have visible : forall sign, sign ∈ ['≪', '≫'] -> isWhitespace sign = false := by
                  decide
                rw [visible first sign] at blank
                cases blank
          · rw [rewrite_plain ampersand] at parts
            rcases escapeChar_cases character with ⟨plain, -⟩ | ⟨name, entry, whole⟩
            · rw [plain] at parts
              have visible := trimmed character (Or.inl rfl)
              rw [(List.cons.inj parts).1, blank] at visible
              cases visible
            · rw [whole] at parts
              exact apart (List.cons.inj parts).1.symm

/-- The sanitiser keeps a trimmed text without markup, up to case, exactly when it is canonical. -/
theorem plainText_lower_iff (documented : Documented references)
    (cleans : CleansText references clean) {text : String} (less : '<' ∉ text.toList)
    (greater : '>' ∉ text.toList) (trimmed : Trimmed text.toList) :
    (Sanitize.plainText clean text).toList.map Char.toLower = text.toList.map Char.toLower ↔
      Canonical text.toList := by
  have cleaned : (Sanitize.plainText clean text).toList =
      trimChars (rewrite references text.toList) := by
    rw [Sanitize.plainText, trim, cleans text less greater, String.toList_ofList,
      String.toList_ofList]
  rw [cleaned]
  constructor
  · exact canonical_of_trimChars documented trimmed
  · intro canonical
    have same := canonical.rewrite documented _ text.toList (Nat.le_refl _) less greater
    rw [(trimmed_of_lower same trimmed).trimChars]
    exact same

/-! ## The search -/

theorem search_eq {query : Query} {text : String} (given : searchText query = some text) :
    search clean query = Sanitize.plainText clean text := by
  unfold searchText at given
  rw [search, given]
  rfl

theorem recordsFiltered_eq (database : WafDatabase) {query : Query} {text : String}
    (given : searchText query = some text) :
    (apiAttacks clean (some database) query).2.recordsFiltered =
      (database.rows.filter (isListed (Sanitize.plainText clean text)
        (searchField clean query))).length := by
  simp only [apiAttacks, VulnerabilityRepository.page, search_eq given]

theorem isListed_eq {search : String} (some' : search.toList ≠ [])
    (searchField : AttackSearchField) (row : Vulnerability) :
    isListed search searchField row =
      searchField.columns.any fun column => decide (Occurs search.toList (column row).toList) := by
  have given : isEmpty search = false := List.isEmpty_eq_false_iff.mpr some'
  rw [isListed, given, Bool.false_or]
  congr 1
  funext column
  rw [Bool.eq_iff_iff, isLike_likeContains, decide_eq_true_eq]

theorem finds_of_lower {text : String} (some' : text.toList ≠ [])
    (same : (Sanitize.plainText clean text).toList.map Char.toLower =
      text.toList.map Char.toLower) : Finds clean text := by
  intro query database given
  have given' : (Sanitize.plainText clean text).toList ≠ [] := by
    intro none'
    rw [none', List.map_nil] at same
    exact some' (List.map_eq_nil_iff.mp same.symm)
  have rows : database.rows.filter (isListed (Sanitize.plainText clean text)
      (searchField clean query)) = containing text (searchField clean query) database.rows := by
    apply List.filter_congr
    intro row _
    rw [isListed_eq given']
    apply congrArg (List.any (searchField clean query).columns)
    funext column
    apply decide_eq_decide.mpr
    unfold Occurs
    rw [same]
  rw [recordsFiltered_eq database given, rows]

/-- A database with one row. -/
def single (row : Vulnerability) : WafDatabase :=
  { rows := [row]
    unique := List.nodup_singleton row.id
    arrange := fun _ rows => rows }

def titled (title : String) : Vulnerability :=
  { id := 1
    title := title
    severity := ""
    cwe := ""
    description := ""
    referenceUrl := ""
    occurredAt := ""
    ruleMatch := ""
    ruleLineMatch := ""
    clientIp := ""
    country := ""
    continentName := ""
    httpMethod := ""
    requestUri := ""
    fullpathEvidence := ""
    engine := ""
    requestPayload := ""
    requestId := "" }

/-- A search for a text in the titles. -/
def titleQuery (text : String) : Query := fun key =>
  if key = "search[value]" then some text
  else if key = "search_field" then some "title"
  else none

theorem searchField_titleQuery (cleans : CleansText references clean) (text : String) :
    searchField clean (titleQuery text) = .title := by
  have letters : rewrite references "title".toList = "title".toList := by
    have kept := @rewrite_letters references "title".toList (by decide) []
    rw [List.append_nil] at kept
    exact kept
  have cleaned : Sanitize.plainText clean "title" = "title" := by
    rw [Sanitize.plainText, cleans "title" (by decide) (by decide), letters]
    decide
  have given : titleQuery text "search_field" = some "title" := by
    rw [titleQuery, if_neg (by decide), if_pos rfl]
  rw [searchField, given, Option.map_some, cleaned]
  decide

/-- Searched among titles, what the sanitiser makes of the text is found, and nothing else. -/
theorem finds_title (cleans : CleansText references clean) {text : String}
    (finds : Finds clean text) (title : String) :
    (isListed (Sanitize.plainText clean text) .title (titled title)) =
      decide (Occurs text.toList title.toList) := by
  have given : searchText (titleQuery text) = some text := rfl
  have counted := finds (titleQuery text) (single (titled title)) given
  have rows : (single (titled title)).rows = [titled title] := rfl
  rw [recordsFiltered_eq _ given, containing, searchField_titleQuery cleans, rows] at counted
  have column : (AttackSearchField.title.columns.any fun column =>
      decide (Occurs text.toList (column (titled title)).toList)) =
        decide (Occurs text.toList title.toList) := Bool.or_false _
  rw [List.filter_singleton, List.filter_singleton, column] at counted
  cases left : isListed (Sanitize.plainText clean text) .title (titled title) with
  | true =>
      cases right : decide (Occurs text.toList title.toList) with
      | true => rfl
      | false =>
          rw [left, right] at counted
          cases counted
  | false =>
      cases right : decide (Occurs text.toList title.toList) with
      | true =>
          rw [left, right] at counted
          cases counted
      | false => rfl

theorem lower_of_finds (cleans : CleansText references clean) {text : String}
    (some' : text.toList ≠ []) (finds : Finds clean text) :
    (Sanitize.plainText clean text).toList.map Char.toLower = text.toList.map Char.toLower := by
  have given : (Sanitize.plainText clean text).toList ≠ [] := by
    intro none'
    have listed := finds_title cleans finds ""
    have all : isListed (Sanitize.plainText clean text) .title (titled "") = true := by
      rw [isListed, isEmpty, none']
      rfl
    rw [all] at listed
    have empty := (of_decide_eq_true listed.symm).length_le
    rw [List.length_map, List.length_map] at empty
    exact some' (List.length_eq_zero_iff.mp (Nat.le_zero.mp empty))
  have same : forall title : String, Occurs (Sanitize.plainText clean text).toList title.toList ↔
      Occurs text.toList title.toList := by
    intro title
    have listed := finds_title cleans finds title
    have column : (AttackSearchField.title.columns.any fun column =>
        decide (Occurs (Sanitize.plainText clean text).toList (column (titled title)).toList)) =
          decide (Occurs (Sanitize.plainText clean text).toList title.toList) := Bool.or_false _
    rw [isListed_eq given, column] at listed
    exact decide_eq_decide.mp listed
  exact occurs_antisymm ((same text).mpr (occurs_self text.toList))
    ((same _).mp (occurs_self (Sanitize.plainText clean text).toList))

/-- A search text is found where it occurs, for every field and table, exactly when each of its
ampersands begins a reference that the sanitiser writes as it stands. -/
theorem search_finds_iff (documented : Documented references)
    (cleans : CleansText references clean) {text : String} (some' : text.toList ≠ [])
    (less : '<' ∉ text.toList) (greater : '>' ∉ text.toList) (trimmed : Trimmed text.toList) :
    Finds clean text ↔ Canonical text.toList := by
  rw [← plainText_lower_iff documented cleans less greater trimmed]
  constructor
  · exact lower_of_finds cleans some'
  · exact finds_of_lower some'

end

end Waf

namespace Sample

open Waf Sql Html Text

/-- A table of the known references only. -/
def references : References := fun rest =>
  (known.find? fun entry => entry.1.isPrefixOf rest).map fun entry =>
    ([entry.2], entry.1.length)

/-- No known reference begins with another one. -/
theorem known_apart {left right : List Char × Char} (first : left ∈ known) (second : right ∈ known)
    {rest : List Char} (within : left.1 <+: right.1 ++ rest) : left = right := by
  have mismatch : forall left, left ∈ known -> forall right, right ∈ known -> left ≠ right ->
      Exists fun place => place < left.1.length ∧ place < right.1.length ∧
        left.1[place]? ≠ right.1[place]? := by
    intro left first right second apart
    have short : forall left, left ∈ known -> forall right, right ∈ known -> left ≠ right ->
        Exists fun place : Fin 5 => place.val < left.1.length ∧ place.val < right.1.length ∧
          left.1[place.val]? ≠ right.1[place.val]? := by decide
    rcases short left first right second apart with ⟨place, found⟩
    exact ⟨place.val, found⟩
  by_contra apart
  rcases mismatch left first right second apart with ⟨place, inLeft, inRight, differ⟩
  rcases within with ⟨more, same⟩
  apply differ
  rw [← @List.getElem?_append_left _ _ more _ inLeft, same, List.getElem?_append_left inRight]

theorem references_documented : Documented references := by
  constructor
  · intro name character entry rest
    have found : known.find? (fun entry => entry.1.isPrefixOf (name ++ rest)) =
        some (name, character) := by
      cases first : known.find? fun entry => entry.1.isPrefixOf (name ++ rest) with
      | none =>
          have missing := List.find?_eq_none.mp first (name, character) entry
          apply absurd _ missing
          exact List.isPrefixOf_iff_prefix.mpr (List.prefix_append name rest)
      | some other =>
          have within := List.find?_some first
          have among := List.mem_of_find?_eq_some first
          rw [known_apart among entry (List.isPrefixOf_iff_prefix.mp within)]
    rw [references, found]
    rfl
  · intro name character entry other lower absent rest
    apply Or.inl
    rw [references, Option.map_eq_none_iff]
    apply List.find?_eq_none.mpr
    intro found among within
    have spelled := List.isPrefixOf_iff_prefix.mp within
    have lowered : found.1.map Char.toLower <+: name ++ rest.map Char.toLower := by
      rw [← lower, ← List.map_append]
      exact spelled.map Char.toLower
    have small : forall entry, entry ∈ known -> Exists fun other => other ∈ written ∧
        other.1 = entry.1.map Char.toLower := by decide
    rcases small found among with ⟨spelling, listed, same⟩
    rw [← same] at lowered
    have equal := known_apart (List.mem_append_left _ listed) (List.mem_append_left _ entry) lowered
    have sizes : found.1.length = other.length := by
      rw [← @List.length_map _ _ found.1 Char.toLower, ← same, equal, ← lower,
        List.length_map]
    have whole := List.IsPrefix.eq_of_length (List.prefix_of_prefix_length_le spelled
      (List.prefix_append other rest) (Nat.le_of_eq sizes)) sizes
    exact absent found among whole
  · intro rest characters taken read
    rcases Option.map_eq_some_iff.mp read with ⟨entry, -, same⟩
    rw [← (Prod.mk.inj same).1]
    exact List.cons_ne_nil _ _

/-- The sanitiser, on a text without markup. -/
def cleanText (text : String) : String := String.ofList (rewrite references text.toList)

/-- A query string without an ampersand is found. -/
theorem search_finds_iff_plain : Finds cleanText "user=demo" :=
  (search_finds_iff references_documented (fun _ _ _ => rfl) (by decide) (by decide) (by decide)
    (by
      intro character ends
      have visible : forall character, character ∈ ['u', 'o'] -> isWhitespace character = false := by
        decide
      apply visible
      rcases ends with first | last
      · cases first
        decide
      · cases last
        decide)).mpr ⟨by decide, fun rest suffix => by
          have absent : '&' ∉ "user=demo".toList := by decide
          exact absurd (suffix.subset List.mem_cons_self) absent⟩

/-- A finding with two parameters in its request. -/
def twoParameters : Vulnerability := { titled "" with requestUri := "/login?a=1&b=2" }

def uriQuery : Query := fun key =>
  if key = "search[value]" then some "a=1&b=2"
  else if key = "search_field" then some "request_uri"
  else none

/-- A query string with one is not. -/
theorem ampersand_not_found :
    (apiAttacks cleanText (some (single twoParameters)) uriQuery).2.recordsFiltered = 0 ∧
      (containing "a=1&b=2" (searchField cleanText uriQuery) [twoParameters]).length = 1 := by
  decide

end Sample
end KrakenUi
