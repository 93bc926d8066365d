import KrakenUi.Security.Headers

namespace KrakenUi
namespace Headers

open Net Text

/-!
# The file and the responses

What an operator writes into the file of the security headers is what every
response carries.  The file may have blank lines, comments and whitespace
wherever lines allow it, and line feeds with or without carriage returns.  A
file with a fault is refused as a whole, and the message names the first line
that has one.
-/

section Lines

variable {Name Value : Type} {library : HeaderLibrary Name Value}

/-- Only what is left of a line after trimming counts. -/
theorem readLine_trimmed {number : Nat} {line other : List Char}
    (same : trimChars line = trimChars other) :
    readLine library number line = readLine library number other := by
  unfold readLine
  rw [same]

theorem readLine_blank {number : Nat} {line : List Char} (blank : trimChars line = []) :
    readLine library number line = .ok none := by
  unfold readLine
  rw [blank]
  rfl

variable [DecidableEq Name]

/-- The pieces between line feeds are read like the lines. -/
theorem readLines_linesOf (number : Nat) (headers : HeaderMap Name Value)
    (pieces : List (List Char)) :
    readLines library number headers (linesOf pieces) =
      readLines library number headers pieces := by
  induction pieces generalizing number headers with
  | nil => rfl
  | cons piece pieces inductionHypothesis =>
      cases pieces with
      | nil =>
          rw [linesOf]
          split
          · -- an empty last piece is no line, and as a line it would be blank
            rename_i empty
            rw [List.isEmpty_iff.mp empty, readLines, readLines, readLine_blank rfl]
            rfl
          · rfl
      | cons second pieces =>
          have cut : linesOf (piece :: second :: pieces) =
              stripCarriageReturn piece :: linesOf (second :: pieces) := rfl
          rw [cut, readLines, readLines, readLine_trimmed (trimChars_stripCarriageReturn piece)]
          split
          · rfl
          · exact inductionHypothesis (number + 1) headers
          · exact inductionHypothesis (number + 1) _

/-- The message of the first line with a fault. -/
theorem readLines_error {number : Nat} {headers : HeaderMap Name Value}
    {pieces : List (List Char)} {message : String} :
    readLines library number headers pieces = .error message ↔
      Exists fun before => Exists fun line => Exists fun after =>
        pieces = before ++ line :: after ∧
        (forall place earlier, before[place]? = some earlier ->
          Exists fun header => readLine library (number + place) earlier = .ok header) ∧
        readLine library (number + before.length) line = .error message := by
  induction pieces generalizing number headers with
  | nil =>
      constructor
      · intro read
        cases read
      · rintro ⟨before, line, after, whole, -⟩
        exact absurd whole.symm (by simp)
  | cons piece pieces inductionHypothesis =>
      rw [readLines]
      cases first : readLine library number piece with
      | error text =>
          constructor
          · intro same
            cases same
            refine ⟨[], piece, pieces, rfl, ?_, first⟩
            intro place earlier found
            cases found
          · rintro ⟨before, line, after, whole, fine, fault⟩
            cases before with
            | nil =>
                cases whole
                rw [List.length_nil, Nat.add_zero, first] at fault
                cases fault
                rfl
            | cons head before =>
                cases whole
                rcases fine 0 piece rfl with ⟨header, read⟩
                rw [Nat.add_zero, first] at read
                cases read
      | ok header =>
          have later : forall headers, readLines library (number + 1) headers pieces =
              .error message ↔ _ := fun headers => @inductionHypothesis (number + 1) headers
          have shift : forall place : Nat, number + 1 + place = number + (place + 1) := by
            intro place
            omega
          have step : (Exists fun before => Exists fun line => Exists fun after =>
              pieces = before ++ line :: after ∧
              (forall place earlier, before[place]? = some earlier ->
                Exists fun header => readLine library (number + 1 + place) earlier = .ok header) ∧
              readLine library (number + 1 + before.length) line = .error message) ↔
              Exists fun before => Exists fun line => Exists fun after =>
                piece :: pieces = before ++ line :: after ∧
                (forall place earlier, before[place]? = some earlier ->
                  Exists fun header => readLine library (number + place) earlier = .ok header) ∧
                readLine library (number + before.length) line = .error message := by
            constructor
            · rintro ⟨before, line, after, rfl, fine, fault⟩
              refine ⟨piece :: before, line, after, rfl, ?_, ?_⟩
              · intro place earlier found
                cases place with
                | zero =>
                    cases found
                    exact ⟨header, first⟩
                | succ place =>
                    rw [← shift]
                    exact fine place earlier found
              · rw [List.length_cons, ← shift]
                exact fault
            · rintro ⟨before, line, after, whole, fine, fault⟩
              cases before with
              | nil =>
                  cases whole
                  rw [List.length_nil, Nat.add_zero, first] at fault
                  cases fault
              | cons head before =>
                  cases whole
                  refine ⟨before, line, after, rfl, ?_, ?_⟩
                  · intro place earlier found
                    rw [shift]
                    exact fine (place + 1) earlier found
                  · rw [shift]
                    exact fault
          cases header with
          | none => exact (later headers).trans step
          | some found => exact (later _).trans step

end Lines

/-! ## Files as they are written -/

/-- A line of the file.  Whitespace may stand around its parts. -/
inductive Item where
  | blank (space : List Char)
  | comment (space text : List Char)
  | header (front name before after value back : List Char)

namespace Item

def text : Item -> List Char
  | blank space => space
  | comment space text => space ++ '#' :: text
  | header front name before after value back =>
      front ++ ((name ++ (before ++ ':' :: (after ++ value))) ++ back)

/-- Whitespace within a line. -/
def Space (space : List Char) : Prop :=
  forall character, character ∈ space -> isWhitespace character = true ∧ character ≠ '\n'

variable {Name Value : Type} (library : HeaderLibrary Name Value)

/-- The header that the line sets. -/
def sets : Item -> Option (Name × Value)
  | blank _ => none
  | comment _ _ => none
  | header _ name _ _ value _ =>
      (library.name name).bind fun headerName =>
        (library.value value).map fun headerValue => (headerName, headerValue)

/-- The parts of a line are what they are called. -/
def WellFormed : Item -> Prop
  | blank space => Space space
  | comment space text => Space space ∧ '\n' ∉ text
  | header front name before after value back =>
      Space front ∧ Space before ∧ Space after ∧ Space back ∧
        Trimmed name ∧ name ≠ [] ∧ ':' ∉ name ∧ '\n' ∉ name ∧ name.head? ≠ some '#' ∧
        Trimmed value ∧ value ≠ [] ∧ '\n' ∉ value ∧
        (library.name name).isSome = true ∧ (library.value value).isSome = true

end Item

/-- The lines of a file, one after the other. -/
def fileOf (items : List Item) : String :=
  String.ofList (['\n'].intercalate (items.map Item.text))

section Files

variable {Name Value : Type} {library : HeaderLibrary Name Value}

theorem Item.Space.white {space : List Char} (blank : Item.Space space) :
    forall character, character ∈ space -> isWhitespace character = true :=
  fun character member => (blank character member).1

theorem Item.Space.absent {space : List Char} (blank : Item.Space space) : '\n' ∉ space :=
  fun member => (blank '\n' member).2 rfl

theorem Item.WellFormed.oneLine {item : Item} (wellFormed : item.WellFormed library) :
    '\n' ∉ item.text := by
  cases item with
  | blank space => exact Item.Space.absent wellFormed
  | comment space text =>
      intro member
      rcases List.mem_append.mp member with inside | later
      · exact wellFormed.1.absent inside
      · rcases List.mem_cons.mp later with impossible | inside
        · exact absurd impossible (by decide)
        · exact wellFormed.2 inside
  | header front name before after value back =>
      rcases wellFormed with
        ⟨first, gap, next, last, -, -, -, nameLine, -, -, -, valueLine, -, -⟩
      have colon : '\n' ≠ ':' := by decide
      simp only [Item.text, List.mem_append, List.mem_cons, not_or]
      exact ⟨first.absent, ⟨nameLine, gap.absent, colon, next.absent, valueLine⟩, last.absent⟩

/-- A text that begins with one trimmed text and ends with another one is trimmed. -/
theorem trimmed_between {name value : List Char} (front : Trimmed name) (some' : name ≠ [])
    (back : Trimmed value) (some'' : value ≠ []) (middle : List Char) :
    Trimmed (name ++ (middle ++ value)) := by
  rintro character (first | last)
  · rw [List.head?_append_of_ne_nil _ some'] at first
    exact front character (Or.inl first)
  · rw [← List.append_assoc, List.getLast?_append_of_ne_nil _ some''] at last
    exact back character (Or.inr last)

/-- A line is read as what it sets. -/
theorem Item.WellFormed.read {item : Item} (wellFormed : item.WellFormed library) (number : Nat) :
    readLine library number item.text = .ok (item.sets library) := by
  cases item with
  | blank space => exact readLine_blank (trimChars_eq_nil.mpr (Item.Space.white wellFormed))
  | comment space text =>
      have whole := trimChars_surrounded wellFormed.1.white
        (fun _ member => absurd member List.not_mem_nil) ('#' :: text)
      rw [List.append_nil] at whole
      have hash : forall character, ([] ++ ['#']).head? = some character ->
          isWhitespace character = false := by
        intro character same
        cases same
        decide
      rcases trimmed_front hash (by decide) text with ⟨rest, trimmed⟩
      have line : trimChars (Item.text (.comment space text)) = '#' :: rest :=
        whole.trans trimmed
      unfold readLine
      rw [line]
      rfl
  | header front name before after value back =>
      rcases wellFormed with
        ⟨first, gap, next, last, trimmedName, someName, plain, -, noComment, trimmedValue,
          someValue, -, validName, validValue⟩
      have inner : name ++ (before ++ ':' :: (after ++ value)) =
          name ++ ((before ++ ':' :: after) ++ value) := by simp
      have line : trimChars (Item.text (.header front name before after value back)) =
          (name ++ before) ++ ':' :: (after ++ value) := by
        have whole := trimChars_surrounded first.white last.white
          (name ++ (before ++ ':' :: (after ++ value)))
        have kept := (trimmed_between trimmedName someName trimmedValue someValue
          (before ++ ':' :: after)).trimChars
        rw [← inner] at kept
        rw [List.append_assoc]
        exact whole.trans kept
      have head : ((name ++ before) ++ ':' :: (after ++ value)).head? = name.head? := by
        rw [List.append_assoc, List.head?_append_of_ne_nil name someName]
      have absent : ':' ∉ name ++ before := by
        intro member
        rcases List.mem_append.mp member with inside | white
        · exact plain inside
        · exact absurd (gap.white ':' white) (by decide)
      have nothing : forall character : Char, character ∈ [] -> isWhitespace character = true :=
        fun _ member => absurd member List.not_mem_nil
      have nameText : trimChars (name ++ before) = name := by
        have around := trimChars_surrounded nothing gap.white name
        rw [List.nil_append] at around
        exact around.trans trimmedName.trimChars
      have valueText : trimChars (after ++ value) = value := by
        have around := trimChars_surrounded next.white nothing value
        rw [List.append_nil] at around
        exact around.trans trimmedValue.trimChars
      rcases Option.isSome_iff_exists.mp validName with ⟨headerName, named⟩
      rcases Option.isSome_iff_exists.mp validValue with ⟨headerValue, valued⟩
      have some' : ((name ++ before) ++ ':' :: (after ++ value)).isEmpty = false := by
        rw [List.isEmpty_eq_false_iff]
        simp
      unfold readLine Item.sets
      simp only [line, head, some', noComment, splitOnce_append absent, nameText, valueText,
        List.isEmpty_eq_false_iff.mpr someName, List.isEmpty_eq_false_iff.mpr someValue, named,
        valued, decide_false, Bool.or_self, Bool.false_eq_true, if_false, Option.bind_some,
        Option.map_some]

variable [DecidableEq Name]

/-- Lines that are well formed are all read. -/
theorem readLines_items {items : List Item}
    (wellFormed : forall item, item ∈ items -> item.WellFormed library) (number : Nat)
    (headers : HeaderMap Name Value) :
    readLines library number headers (items.map Item.text) =
      .ok (headers.insertAll (items.filterMap (Item.sets library))) := by
  induction items generalizing number headers with
  | nil => rfl
  | cons item items inductionHypothesis =>
      have later := fun headers => inductionHypothesis
        (fun other member => wellFormed other (List.mem_cons_of_mem item member)) (number + 1) headers
      rw [List.map_cons, readLines, (wellFormed item List.mem_cons_self).read number]
      cases set : item.sets library with
      | none =>
          rw [List.filterMap_cons_none set]
          exact later headers
      | some header =>
          rw [List.filterMap_cons_some set]
          exact later (headers.insert header.1 header.2)

/-- Something is set as long as anything was. -/
theorem insertAll_ne_nil {headers : HeaderMap Name Value} (some' : headers ≠ []) :
    HeaderMap.insertAll [] headers ≠ [] := by
  intro empty
  cases headers with
  | nil => exact some' rfl
  | cons header headers =>
      have values := HeaderMap.getAll_insertAll [] (header :: headers) header.1
      rw [empty, HeaderMap.last, if_pos rfl] at values
      cases later : HeaderMap.last headers header.1 with
      | none =>
          rw [later] at values
          cases values
      | some value =>
          rw [later] at values
          cases values

theorem parse_fileOf {items : List Item}
    (wellFormed : forall item, item ∈ items -> item.WellFormed library)
    (some' : items.filterMap (Item.sets library) ≠ []) :
    parse library (fileOf items) =
      .ok (HeaderMap.insertAll [] (items.filterMap (Item.sets library))) := by
  have items' : items.map Item.text ≠ [] := by
    intro empty
    rw [List.map_eq_nil_iff.mp empty] at some'
    exact some' rfl
  have apart : forall line, line ∈ items.map Item.text -> '\n' ∉ line := by
    intro line member
    rcases List.mem_map.mp member with ⟨item, inside, rfl⟩
    exact (wellFormed item inside).oneLine
  have read := readLines_items wellFormed 1 []
  unfold parse fileOf lines
  rw [String.toList_ofList, List.splitOn_intercalate '\n' apart items', readLines_linesOf, read]
  dsimp only
  rw [if_neg]
  intro empty
  exact insertAll_ne_nil some' (List.isEmpty_iff.mp empty)

/-- A file is refused for its first line with a fault, or because it sets nothing. -/
theorem parse_error {content message : String} :
    parse library content = .error message ↔
      (Exists fun before => Exists fun line => Exists fun after =>
        content.toList.splitOn '\n' = before ++ line :: after ∧
        (forall place earlier, before[place]? = some earlier ->
          Exists fun header => readLine library (1 + place) earlier = .ok header) ∧
        readLine library (1 + before.length) line = .error message) ∨
      (readLines library 1 [] (content.toList.splitOn '\n') = .ok [] ∧
        message = "security header file cannot be empty") := by
  unfold parse lines
  rw [readLines_linesOf]
  cases read : readLines library 1 [] (content.toList.splitOn '\n') with
  | error text =>
      rw [← @readLines_error _ _ library _ 1 [], read]
      constructor
      · intro same
        cases same
        exact Or.inl rfl
      · rintro (same | ⟨impossible, -⟩)
        · cases same
          rfl
        · cases impossible
  | ok headers =>
      rw [← @readLines_error _ _ library _ 1 [], read]
      dsimp only
      split
      · rename_i empty
        rw [List.isEmpty_iff.mp empty]
        constructor
        · intro same
          cases same
          exact Or.inr ⟨rfl, rfl⟩
        · rintro (impossible | ⟨-, rfl⟩)
          · cases impossible
          · rfl
      · rename_i some'
        constructor
        · intro impossible
          cases impossible
        · rintro (impossible | ⟨same, -⟩)
          · cases impossible
          · cases same
            exact absurd rfl some'

/-- What a file says is what every response has: each header that it sets with the last of its
values, and the headers that it does not set as they were.  A file that is not accepted has a
fault, and the message is that of its first line with one, or sets nothing. -/
theorem security_headers_served (library : HeaderLibrary Name Value) :
    (forall items, (forall item, item ∈ items -> item.WellFormed library) ->
      items.filterMap (Item.sets library) ≠ [] ->
      Exists fun headers => parse library (fileOf items) = .ok headers ∧
        forall response name, (apply headers response).getAll name =
          (HeaderMap.last (items.filterMap (Item.sets library)) name).elim
            (HeaderMap.getAll response name) fun value => [value]) ∧
    forall content message, parse library content = .error message ↔
      (Exists fun before => Exists fun line => Exists fun after =>
        content.toList.splitOn '\n' = before ++ line :: after ∧
        (forall place earlier, before[place]? = some earlier ->
          Exists fun header => readLine library (1 + place) earlier = .ok header) ∧
        readLine library (1 + before.length) line = .error message) ∨
      (readLines library 1 [] (content.toList.splitOn '\n') = .ok [] ∧
        message = "security header file cannot be empty") := by
  refine ⟨?_, fun content message => parse_error⟩
  intro items wellFormed some'
  refine ⟨_, parse_fileOf wellFormed some', ?_⟩
  intro response name
  rw [apply, HeaderMap.getAll_insertAll, HeaderMap.last_insertAll]

end Files

end Headers

namespace Sample

open Headers Net Text

/-- A library that knows lowercase names only. -/
def lowercaseLibrary : HeaderLibrary (List Char) (List Char) where
  name := fun text => if text.all fun c => isAsciiLowercase c || c == '-' then some text else none
  value := fun text => if text.all fun c => c.toNat < 127 then some text else none

/-- A comment and two settings of one header, with a colon in the last value. -/
def headerFile : List Item :=
  [.comment [] " framing".toList,
    .header [] "x-frame-options".toList [] [' '] "SAMEORIGIN".toList ['\r'],
    .header [' '] "x-frame-options".toList [' '] [] "a:b".toList []]

theorem trimmed_of_trimChars {text : List Char} (same : trimChars text = text) : Trimmed text :=
  same ▸ trimChars_trimmed text

theorem headerFile_wellFormed :
    forall item, item ∈ headerFile -> item.WellFormed lowercaseLibrary := by
  have space : forall space : List Char, space = [] ∨ space = [' '] ∨ space = ['\r'] ->
      Item.Space space := by
    rintro space (rfl | rfl | rfl)
    · unfold Item.Space
      decide
    · unfold Item.Space
      decide
    · unfold Item.Space
      decide
  intro item member
  rcases List.mem_cons.mp member with rfl | later
  · exact ⟨space [] (Or.inl rfl), by decide⟩
  · rcases List.mem_cons.mp later with rfl | last
    · exact ⟨space [] (Or.inl rfl), space [] (Or.inl rfl), space [' '] (Or.inr (Or.inl rfl)),
        space ['\r'] (Or.inr (Or.inr rfl)), trimmed_of_trimChars (by decide), by decide, by decide,
        by decide, by decide, trimmed_of_trimChars (by decide), by decide, by decide, by decide,
        by decide⟩
    · rw [List.mem_singleton.mp last]
      exact ⟨space [' '] (Or.inr (Or.inl rfl)), space [' '] (Or.inr (Or.inl rfl)),
        space [] (Or.inl rfl), space [] (Or.inl rfl), trimmed_of_trimChars (by decide), by decide,
        by decide, by decide, by decide, trimmed_of_trimChars (by decide), by decide, by decide,
        by decide, by decide⟩

/-- A response that has the header already gets the last value of the file. -/
theorem security_headers_served_twice :
    Exists fun headers => parse lowercaseLibrary (fileOf headerFile) = .ok headers ∧
      (apply headers [("x-frame-options".toList, "ALLOW".toList)]).getAll
        "x-frame-options".toList = ["a:b".toList] := by
  rcases (security_headers_served lowercaseLibrary).1 headerFile headerFile_wellFormed
      (by decide) with ⟨headers, accepted, served⟩
  exact ⟨headers, accepted, served _ _⟩

end Sample
end KrakenUi
