import KrakenUi.Services.RegexRules

namespace KrakenUi
namespace RegexRules

open Text Json

/-!
# What the codecs of the rule lists send

A regex bundle passes when every rule in it has its fields, and is sent as it was
written, without the space around it; otherwise the first rule that is wrong is
named.

A scanner list is sent as its lines.  Trimming takes away what the source of the
lines leaves at their ends, so the lines are what stands between line feeds, and
they come out again when they are put together.
-/

section Bundles

variable {serde : SerdeJson} {content : String}

theorem trim_trim (content : String) : trim (trim content) = trim content := by
  unfold trim
  rw [String.toList_ofList, trimChars_trimChars]

/-- The second look at the value finds the same rules. -/
theorem buildUpdateBody_bundle {value : Tree} {rules : List Tree} (nonblank : trim content ≠ "")
    (parsed : serde.fromStr (trim content) = .ok value) (bundle : Bundle value rules) :
    RegexBundleCodec.buildUpdateBody serde content =
      (checkRules 0 rules).map fun _ => (trim content).toUTF8 := by
  have front := (@parseRulesArray_ok serde content value rules.length).mpr
    ⟨nonblank, parsed, rules, bundle, rfl⟩
  unfold RegexBundleCodec.buildUpdateBody
  rw [front]
  dsimp only [bind, Except.bind]
  rw [(bundle_iff.mp bundle).1]
  dsimp only
  cases checkRules 0 rules with
  | error error => rfl
  | ok passed => rfl

/-- Only a bundle gets to the check of its rules. -/
theorem exists_bundle {body : ByteArray}
    (built : RegexBundleCodec.buildUpdateBody serde content = .ok body) :
    Exists fun value => Exists fun rules => trim content ≠ "" ∧
      serde.fromStr (trim content) = .ok value ∧ Bundle value rules := by
  unfold RegexBundleCodec.buildUpdateBody at built
  cases front : parseRulesArray serde content with
  | error error =>
      rw [front] at built
      cases built
  | ok found =>
      rcases (@parseRulesArray_ok serde content found.1 found.2).mp front with
          ⟨nonblank, parsed, rules, bundle, -⟩
      exact ⟨found.1, rules, nonblank, parsed, bundle⟩

end Bundles

/-- A regex bundle is accepted exactly when it has the documented shape, as what
was written without the space around it; else the first rule that is not valid is
named. -/
theorem regex_bundle_accepts_iff (serde : SerdeJson)
    (blank : forall value, serde.fromStr "" ≠ .ok value) (content : String) :
    ((Exists fun body => RegexBundleCodec.buildUpdateBody serde content = .ok body) ↔
      Exists fun value => Exists fun rules => serde.fromStr (trim content) = .ok value ∧
        Bundle value rules ∧ forall rule, rule ∈ rules -> ValidRule rule) ∧
    (forall body, RegexBundleCodec.buildUpdateBody serde content = .ok body ->
      body = (trim content).toUTF8 ∧
        RegexBundleCodec.buildUpdateBody serde (trim content) = .ok body) ∧
    (forall value rules error, serde.fromStr (trim content) = .ok value -> Bundle value rules ->
      RegexBundleCodec.buildUpdateBody serde content = .error error ->
        Exists fun before => Exists fun rule => Exists fun after =>
          rules = before ++ rule :: after ∧ error.index = some before.length ∧
            ¬ ValidRule rule ∧ forall earlier, earlier ∈ before -> ValidRule earlier) := by
  have nonblank : forall {value}, serde.fromStr (trim content) = .ok value ->
      trim content ≠ "" := by
    intro value parsed empty
    rw [empty] at parsed
    exact blank value parsed
  refine ⟨⟨?_, ?_⟩, ?_, ?_⟩
  · rintro ⟨body, built⟩
    rcases exists_bundle built with ⟨value, rules, some', parsed, bundle⟩
    refine ⟨value, rules, parsed, bundle, ?_⟩
    rw [buildUpdateBody_bundle some' parsed bundle] at built
    rcases checkRules_spec rules 0 with ⟨-, all⟩ | ⟨error, _, _, _, failed, -⟩
    · exact all
    · rw [failed] at built
      cases built
  · rintro ⟨value, rules, parsed, bundle, all⟩
    rw [buildUpdateBody_bundle (nonblank parsed) parsed bundle]
    rcases checkRules_spec rules 0 with
      ⟨passed, -⟩ | ⟨error, before, rule, after, -, rfl, -, invalid, -⟩
    · rw [passed]
      exact ⟨_, rfl⟩
    · exact absurd (all rule (List.mem_append_right _ List.mem_cons_self)) invalid
  · intro body built
    rcases exists_bundle built with ⟨value, rules, some', parsed, bundle⟩
    rw [buildUpdateBody_bundle some' parsed bundle] at built
    rw [buildUpdateBody_bundle ((trim_trim content).symm ▸ some')
      ((trim_trim content).symm ▸ parsed) bundle, trim_trim]
    refine ⟨?_, built⟩
    cases passed : checkRules 0 rules with
    | error error =>
        rw [passed] at built
        cases built
    | ok checked =>
        rw [passed] at built
        cases built
        rfl
  · intro value rules error parsed bundle built
    rw [buildUpdateBody_bundle (nonblank parsed) parsed bundle] at built
    rcases checkRules_spec rules 0 with
      ⟨passed, -⟩ | ⟨found, before, rule, after, failed, whole, named, invalid, earlier⟩
    · rw [passed] at built
      cases built
    · rw [failed] at built
      cases built
      rw [Nat.zero_add] at named
      exact ⟨before, rule, after, whole, named, invalid, earlier⟩

/-! ## Lines -/

section Lines

/-- A line with something else than whitespace. -/
def hasText (line : List Char) : Bool :=
  line.any fun character => !isWhitespace character

/-- The trimmed lines of a text that are not blank. -/
def textLines (content : String) : List String :=
  ((lines content.toList).filter hasText).map fun line => String.ofList (trimChars line)

variable {content : String}

theorem hasText_iff (line : List Char) : hasText line = !(trimChars line).isEmpty := by
  rw [Bool.eq_iff_iff]
  simp only [hasText, List.any_eq_true, Bool.not_eq_true', List.isEmpty_eq_false_iff]
  rw [ne_eq, trimChars_eq_nil]
  push Not
  simp only [Bool.not_eq_true]

/-- The code trims first and asks then. -/
theorem keptLines_eq (content : String) : keptLines content = textLines content := by
  unfold keptLines textLines
  rw [List.map_map, List.filter_map]
  have asked : ((fun line => !isEmpty line) ∘ (trim ∘ String.ofList)) = hasText := by
    ext line
    simp [Function.comp, isEmpty, trim, hasText_iff]
  have trimmed : trim ∘ String.ofList = fun line => String.ofList (trimChars line) := by
    ext line
    simp [Function.comp, trim]
  rw [asked, trimmed]

/-- The ends of the lines play no part. -/
theorem textLines_eq (content : String) : textLines content =
    (((content.toList.splitOn '\n').map trimChars).filter fun line => !line.isEmpty).map
      String.ofList := by
  rw [← filter_lines, List.filter_map, List.map_map]
  unfold textLines
  have asked : ((fun line => !line.isEmpty) ∘ trimChars) = hasText := by
    ext line
    simp [Function.comp, hasText_iff]
  rw [asked]
  rfl

/-- What is known of a line that is sent. -/
structure Sent (line : String) : Prop where
  oneLine : '\n' ∉ line.toList
  trimmed : trimChars line.toList = line.toList
  nonempty : line.toList.isEmpty = false

theorem sent_of_mem {line : String} (member : line ∈ textLines content) : Sent line := by
  rw [textLines_eq] at member
  rcases List.mem_map.mp member with ⟨text, kept, rfl⟩
  rcases List.mem_filter.mp kept with ⟨among, nonempty⟩
  rcases List.mem_map.mp among with ⟨piece, isPiece, rfl⟩
  constructor
  · rw [String.toList_ofList]
    intro newline
    exact not_mem_of_mem_splitOn isPiece (mem_of_mem_trimChars newline)
  · rw [String.toList_ofList, trimChars_trimChars]
  · rw [String.toList_ofList]
    simpa using nonempty

theorem map_ofList_toList (kept : List String) :
    (kept.map String.toList).map String.ofList = kept := by
  rw [List.map_map]
  exact List.map_id'' (fun _ => String.ofList_toList) kept

/-- Lines that are put together come out again. -/
theorem textLines_intercalate {kept : List String} (some' : kept ≠ [])
    (sent : forall line, line ∈ kept -> Sent line) :
    textLines ("\n".intercalate kept) = kept := by
  have apart : forall text, text ∈ kept.map String.toList -> '\n' ∉ text := by
    intro text member
    rcases List.mem_map.mp member with ⟨line, among, rfl⟩
    exact (sent line among).oneLine
  have pieces : ("\n".intercalate kept).toList.splitOn '\n' = kept.map String.toList := by
    rw [String.toList_intercalate]
    exact List.splitOn_intercalate '\n' apart fun none => some' (List.map_eq_nil_iff.mp none)
  rw [textLines_eq, pieces]
  calc (((kept.map String.toList).map trimChars).filter fun line => !line.isEmpty).map String.ofList
      = ((kept.map String.toList).filter fun line => !line.isEmpty).map String.ofList := by
        rw [List.map_map]
        congr 2
        apply List.map_congr_left
        intro line member
        exact (sent line member).trimmed
    _ = (kept.map String.toList).map String.ofList := by
        congr 1
        apply List.filter_eq_self.mpr
        intro text member
        rcases List.mem_map.mp member with ⟨line, among, rfl⟩
        rw [(sent line among).nonempty]
        rfl
    _ = kept := map_ofList_toList kept

theorem textLines_eq_nil : textLines content = [] ↔ forall line, line ∈ lines content.toList ->
    forall character, character ∈ line -> isWhitespace character = true := by
  unfold textLines
  rw [List.map_eq_nil_iff, List.filter_eq_nil_iff]
  apply forall₂_congr
  intro line _
  rw [hasText_iff, ← trimChars_eq_nil]
  simp

end Lines

/-- A library that reads a list of strings as it has written it. -/
def Faithful (serde : SerdeJson) : Prop :=
  forall kept, Exists fun bytes => serde.toVec (linesBody kept) = .ok bytes ∧
    serde.fromSlice bytes = .ok (linesBody kept)

/-- A text without lines that have text is refused.  Of any other the trimmed
lines are sent, and these are sent again when they are submitted as they were
read. -/
theorem line_list_is_stable (serde : SerdeJson) (faithful : Faithful serde) (content : String) :
    ((Exists fun error => LineListCodec.buildUpdateBody serde content = .error error) ↔
      forall line, line ∈ lines content.toList ->
        forall character, character ∈ line -> isWhitespace character = true) ∧
    forall body, LineListCodec.buildUpdateBody serde content = .ok body ->
      serde.fromSlice body = .ok (linesBody (textLines content)) ∧
      (forall line, line ∈ textLines content -> '\n' ∉ line.toList) ∧
      LineListCodec.buildUpdateBody serde ("\n".intercalate (textLines content)) = .ok body := by
  rcases faithful (textLines content) with ⟨bytes, written, read⟩
  have built : LineListCodec.buildUpdateBody serde content =
      if (textLines content).isEmpty then .error .empty else .ok bytes := by
    unfold LineListCodec.buildUpdateBody
    rw [keptLines_eq]
    dsimp only
    rw [written]
  rw [← textLines_eq_nil, built]
  constructor
  · constructor
    · rintro ⟨error, failed⟩
      split at failed
      · rename_i empty
        exact List.isEmpty_iff.mp empty
      · cases failed
    · intro empty
      rw [empty]
      exact ⟨.empty, rfl⟩
  · intro body accepted
    split at accepted
    · cases accepted
    · rename_i some'
      cases accepted
      refine ⟨read, fun line member => (sent_of_mem member).oneLine, ?_⟩
      unfold LineListCodec.buildUpdateBody
      rw [keptLines_eq, textLines_intercalate _ fun line member => sent_of_mem member]
      · dsimp only
        rw [if_neg some', written]
      · intro empty
        exact some' (List.isEmpty_iff.mpr empty)

end RegexRules

namespace Sample

open RegexRules Text Json

/-! ## Bundles of one rule -/

def filled (title : Tree) : Tree :=
  .object [("enable", .number "1"), ("http_action", .string "Request"), ("title", title),
    ("severity", .string "high"), ("cwe", .string "CWE-78"), ("description", .string "d"),
    ("url", .string "u"), ("rule_match", .string "wget"), ("id", .number "7"),
    ("score", .number "9")]

def bundleOf (rule : Tree) : Tree := .object [("rules", .array [rule])]

/-- The text of a bundle, from that of the title. -/
def bundleText (title : String) : String :=
  "\x7b" ++ ("\"rules\":[\x7b\"enable\":1,\"http_action\":\"Request\",\"title\":" ++ title ++
    ",\"severity\":\"high\",\"cwe\":\"CWE-78\",\"description\":\"d\",\"url\":\"u\"," ++
    "\"rule_match\":\"wget\",\"id\":7,\"score\":9\x7d]") ++ "\x7d"

/-- A library that is asked for one text. -/
def libraryOf (text : String) (tree : Tree) : SerdeJson where
  fromStr := fun asked =>
    if asked = text then .ok tree else .error "EOF while parsing a value at line 1 column 0"
  toVec := fun _ => .error "no body"
  fromSlice := fun _ => .error "no body"

theorem trim_bundleText (title : String) :
    trim (bundleText title) = bundleText title ∧
      trim (bundleText title ++ "\n") = bundleText title := by
  have trimmed : trimChars (bundleText title).toList = (bundleText title).toList := by
    apply Trimmed.trimChars
    rintro character (first | last)
    · simp only [bundleText, String.toList_append] at first
      cases first
      rfl
    · simp only [bundleText, String.toList_append] at last
      rw [show "\x7d".toList = ['\x7d'] from rfl, List.getLast?_append] at last
      cases last
      rfl
  constructor
  · rw [trim, trimmed, String.ofList_toList]
  · rw [trim, String.toList_append, show "\n".toList = ['\n'] from rfl,
      trimChars_concat (by decide), trimmed, String.ofList_toList]

theorem libraryOf_text (text : String) (tree : Tree) :
    (libraryOf text tree).fromStr text = .ok tree := if_pos rfl

theorem libraryOf_blank (title : String) (tree value : Tree) :
    (libraryOf (bundleText title) tree).fromStr "" ≠ .ok value := by
  have other : "" ≠ bundleText title := by
    intro same
    have texts := congrArg String.toList same
    simp only [bundleText, String.toList_append] at texts
    cases texts
  rw [libraryOf]
  dsimp only
  rw [if_neg other]
  exact nofun

theorem validRule_filled : ValidRule (filled (.string "t")) := by
  refine ⟨_, rfl, ?_, "wget", rfl, by decide⟩
  intro field member
  simp only [requiredRuleFields, List.mem_cons, List.not_mem_nil, or_false] at member
  rcases member with rfl | rfl | rfl | rfl | rfl | rfl | rfl | rfl | rfl | rfl
  all_goals exact ⟨_, rfl, nofun⟩

theorem bundle_bundleOf (rule : Tree) : Bundle (bundleOf rule) [rule] :=
  ⟨_, rfl, rfl, List.cons_ne_nil _ _⟩

/-- A bundle that is sent, and one in which the title is null. -/
theorem regex_bundle_accepts_iff_bundles :
    RegexBundleCodec.buildUpdateBody
        (libraryOf (bundleText "\"t\"") (bundleOf (filled (.string "t"))))
        (bundleText "\"t\"" ++ "\n") = .ok (bundleText "\"t\"").toUTF8 ∧
      (forall error, RegexBundleCodec.buildUpdateBody
        (libraryOf (bundleText "null") (bundleOf (filled .null))) (bundleText "null") =
          .error error -> error.index = some 0 ∧ ¬ ValidRule (filled .null)) := by
  have accepts := regex_bundle_accepts_iff
    (libraryOf (bundleText "\"t\"") (bundleOf (filled (.string "t"))))
    (libraryOf_blank "\"t\"" _) (bundleText "\"t\"" ++ "\n")
  have refuses := regex_bundle_accepts_iff
    (libraryOf (bundleText "null") (bundleOf (filled .null)))
    (libraryOf_blank "null" _) (bundleText "null")
  rw [(trim_bundleText _).2] at accepts
  rw [(trim_bundleText _).1] at refuses
  constructor
  · have valid : forall rule, rule ∈ [filled (.string "t")] -> ValidRule rule := by
      intro rule member
      rw [List.mem_singleton.mp member]
      exact validRule_filled
    rcases accepts.1.mpr ⟨_, _, libraryOf_text _ _, bundle_bundleOf _, valid⟩ with ⟨body, built⟩
    rw [built, (accepts.2.1 body built).1]
  · intro error failed
    rcases refuses.2.2 _ _ error (libraryOf_text _ _) (bundle_bundleOf _) failed with
        ⟨before, rule, after, whole, named, invalid, -⟩
    cases before with
    | nil =>
        cases whole
        exact ⟨named, invalid⟩
    | cons first rest =>
        have lengths := congrArg List.length whole
        simp at lengths

/-! ## A library for lists of lines -/

def linesLead : List Char := "\x7b\"lines\":[".toList

def writeLines (kept : List String) : String :=
  String.ofList (linesLead ++ ([','].intercalate ((kept.map String.toList).map quoted) ++
    [']', '\x7d']))

def stringsOf : List Tree -> Option (List String)
  | [] => some []
  | .string text :: rest => (stringsOf rest).map (text :: ·)
  | _ => none

def readLines (text : List Char) : Option (List String) :=
  if linesLead.isPrefixOf text then
    let rest := text.drop linesLead.length
    if rest = [']', '\x7d'] then some []
    else match readStrings rest.length rest with
      | some (texts, ['\x7d']) => some (texts.map String.ofList)
      | _ => none
  else none

/-- The texts of bodies with lines, and of nothing else. -/
def lineLibrary : SerdeJson where
  fromStr := fun _ => .error "unused"
  toVec := fun tree =>
    match tree with
    | .object [("lines", .array elements)] =>
        match stringsOf elements with
        | some kept => .ok (writeLines kept).toUTF8
        | none => .error "unused"
    | _ => .error "unused"
  fromSlice := fun bytes =>
    match (String.fromUTF8? bytes).bind fun text => readLines text.toList with
    | some kept => .ok (linesBody kept)
    | none => .error "unused"

theorem stringsOf_map (kept : List String) : stringsOf (kept.map .string) = some kept := by
  induction kept with
  | nil => rfl
  | cons line kept inductionHypothesis =>
      rw [List.map_cons, stringsOf, inductionHypothesis]
      rfl

theorem readLines_writeLines (kept : List String) :
    readLines (writeLines kept).toList = some kept := by
  unfold readLines writeLines
  rw [String.toList_ofList, if_pos (List.isPrefixOf_iff_prefix.mpr (List.prefix_append _ _)),
    List.drop_left]
  dsimp only
  cases kept with
  | nil => rfl
  | cons line rest =>
      have texts : (line :: rest).map String.toList ≠ [] := List.cons_ne_nil _ _
      have enough := length_le_quoted ((line :: rest).map String.toList)
      rw [if_neg, readStrings_quoted texts]
      · change some (((line :: rest).map String.toList).map String.ofList) = _
        rw [map_ofList_toList]
      · rw [List.length_append]
        omega
      · intro empty
        have lengths := congrArg List.length empty
        rw [List.length_append] at lengths
        cases rest with
        | nil => simp [quoted, List.intercalate_singleton] at lengths
        | cons second rest =>
            simp [quoted, List.intercalate_cons_cons] at lengths

theorem faithful_lines : Faithful lineLibrary := by
  intro kept
  refine ⟨(writeLines kept).toUTF8, ?_, ?_⟩
  · change (match stringsOf (kept.map .string) with
      | some kept => Except.ok (writeLines kept).toUTF8
      | none => _) = _
    rw [stringsOf_map]
  · have decoded : String.fromUTF8? (writeLines kept).toUTF8 = some (writeLines kept) :=
      dif_pos (writeLines kept).isValidUTF8
    change (match (String.fromUTF8? (writeLines kept).toUTF8).bind _ with
      | some kept => Except.ok (linesBody kept)
      | none => _) = _
    rw [decoded, Option.bind_some, readLines_writeLines]

set_option maxRecDepth 10000 in
theorem line_list_is_stable_scanners :
    Exists fun body =>
      LineListCodec.buildUpdateBody lineLibrary "arachni\r\n  sqlmap\rx  \n\nnikto\r" = .ok body ∧
        lineLibrary.fromSlice body = .ok (linesBody ["arachni", "sqlmap\rx", "nikto"]) := by
  have result := line_list_is_stable lineLibrary faithful_lines
    "arachni\r\n  sqlmap\rx  \n\nnikto\r"
  have kept : textLines "arachni\r\n  sqlmap\rx  \n\nnikto\r" =
      ["arachni", "sqlmap\rx", "nikto"] := by decide
  cases built : LineListCodec.buildUpdateBody lineLibrary
      "arachni\r\n  sqlmap\rx  \n\nnikto\r" with
  | error error =>
      have blank := textLines_eq_nil.mpr (result.1.mp ⟨error, built⟩)
      rw [kept] at blank
      cases blank
  | ok body =>
      refine ⟨body, rfl, ?_⟩
      rw [← kept]
      exact (result.2 body built).1

end Sample
end KrakenUi
