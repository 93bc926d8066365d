import KrakenUi.View.Payload

namespace KrakenUi
namespace Payload

open JavaScript RegExp

/-!
# What the highlighted payload still says

The text of the nodes is the payload again, with one exception.  A first line
that is a request or a status line is rebuilt from its groups with one space
between them, whatever stood there.
-/

/-! ## JSON tokens -/

/-- The text between two positions is appended as it was. -/
def Covers (position found : Position) : Prop :=
  forall parent, textContent (appendMatch parent found) =
    textContent parent ++ position.readUntil found

theorem readUntil_ne_nil {position next : Position}
    (short : next.after.length < position.after.length) :
    position.readUntil next ≠ [] := by
  intro nothing
  have counted := congrArg List.length nothing
  rw [Position.readUntil, List.length_take, List.length_nil] at counted
  omega

/-- Two texts read after each other are what was read in all. -/
theorem readUntil_append {first middle last : Position} (before : Follows first middle)
    (behind : Follows middle last) :
    first.readUntil last = first.readUntil middle ++ middle.readUntil last := by
  have front := before.append_readUntil.1
  have back := behind.append_readUntil.1
  have whole := (before.trans behind).append_readUntil.1
  rw [← front, ← back, ← List.append_assoc] at whole
  exact List.append_cancel_right whole

theorem appendMatch_single {found : Position} {number : Nat} {text : JsString}
    (groups : found.groups = [(number, text)]) (some' : text ≠ [])
    (shown : number = 1 ∨ number = 3 ∨ number = 4) (parent : List Node) :
    textContent (appendMatch parent found) = textContent parent ++ text := by
  unfold appendMatch Position.group
  rw [groups]
  rcases shown with rfl | rfl | rfl
  · simp [List.lookup_cons, some']
  · simp [List.lookup_cons, some']
  · simp [List.lookup_cons, some']

theorem appendMatch_key {found : Position} {name colon : JsString}
    (groups : found.groups = [(2, colon), (1, name)]) (some' : name ≠ []) (some'' : colon ≠ [])
    (parent : List Node) :
    textContent (appendMatch parent found) = textContent parent ++ (name ++ colon) := by
  unfold appendMatch Position.group
  rw [groups]
  simp [List.lookup_cons, some', some'']

/-- Of a single group that reads something, its text is appended. -/
theorem covers_single {before after : JsString} {found : Position} {number : Nat} {body : RegExp}
    (without : groupless body = true) (advancing : advances body = true)
    (shown : number = 1 ∨ number = 3 ∨ number = 4)
    (member : found ∈ outcomes (.group number body) ⟨before, after, []⟩) :
    Covers ⟨before, after, []⟩ found := by
  rcases mem_group.mp member with ⟨inner, inside, rfl⟩
  have kept : inner.groups = [] := groups_kept without inside
  have some' : (⟨before, after, []⟩ : Position).readUntil inner ≠ [] :=
    readUntil_ne_nil (shorter advancing inside)
  exact appendMatch_single (congrArg _ kept) some' shown

theorem covers_token {before after : JsString} {found : Position}
    (member : found ∈ outcomes Pattern.token ⟨before, after, []⟩) :
    Covers ⟨before, after, []⟩ found := by
  rcases mem_either.mp member with text | rest
  · rcases mem_seq.mp text with ⟨middle, first, second⟩
    rcases mem_either.mp second with colon | nothing
    · have parts := readUntil_append (follows first) (follows colon)
      rcases mem_group.mp first with ⟨inner, inside, rfl⟩
      rcases mem_group.mp colon with ⟨inner', inside', rfl⟩
      have kept : inner.groups = [] := groups_kept rfl inside
      have kept' := groups_kept rfl inside'
      intro parent
      rw [parts]
      refine appendMatch_key ?_ (readUntil_ne_nil (shorter rfl inside))
        (readUntil_ne_nil (shorter rfl inside')) parent
      exact congrArg (_ :: ·) (kept'.trans (congrArg (_ :: ·) kept))
    · rw [mem_empty.mp nothing]
      exact covers_single rfl rfl (Or.inl rfl) first
  · rcases mem_either.mp rest with number | keyword
    · exact covers_single rfl rfl (Or.inr (Or.inl rfl)) number
    · exact covers_single rfl rfl (Or.inr (Or.inr rfl)) keyword

/-! ## Body lines -/

/-- The loop ends, and what is left of the line is appended as it is. -/
theorem highlightFrom_text : forall fuel parent before after, after.length < fuel ->
    Exists fun nodes => highlightFrom parent fuel before after = some nodes ∧
      textContent nodes = textContent parent ++ after := by
  intro fuel
  induction fuel with
  | zero => exact fun _ _ _ short => absurd short (Nat.not_lt_zero _)
  | succ fuel inductionHypothesis =>
      intro parent before after short
      rw [highlightFrom]
      cases searched : Pattern.token.search before after with
      | none => exact ⟨_, rfl, textContent_appendText parent after⟩
      | some match' =>
          rcases match' with ⟨skipped, found⟩
          rcases search_some searched with ⟨rest, whole, member⟩
          have read := (follows member).append_readUntil.1
          have further : found.after.length < rest.length := shorter rfl member
          have counted := congrArg List.length whole
          rw [List.length_append] at counted
          rcases inductionHypothesis (appendMatch (appendText parent skipped) found) found.before
            found.after (by omega) with ⟨nodes, shown, content⟩
          refine ⟨nodes, shown, ?_⟩
          rw [content, covers_token member, textContent_appendText, whole, List.append_assoc,
            List.append_assoc]
          exact congrArg (textContent parent ++ ·) (congrArg (skipped ++ ·) read)

theorem highlightBodyLine_text (parent : List Node) (line : JsString) :
    Exists fun nodes => highlightBodyLine parent line = some nodes ∧
      textContent nodes = textContent parent ++ line :=
  highlightFrom_text (line.length + 1) parent [] line (Nat.lt_succ_self _)

/-! ## Header lines -/

theorem headerLine_groups {line : JsString} {found : Position}
    (executed : Pattern.headerLine.exec line = some found) :
    Exists fun name => Exists fun value => line = name ++ (literal ":" ++ value) ∧
      found.groups = [(2, value), (1, name)] := by
  have known := exec_all (.seq ((Reads.plus Pattern.isHeaderCharacter).group 1)
    (.seq (Reads.one ':') (.seq ((Reads.star fun _ => true).group 2) .finish))) executed
  rcases known with ⟨name, rest, _, groups, rfl, whole, ⟨_, ⟨-, rfl⟩, rfl⟩, further⟩
  rcases further with ⟨colon, _, _, groups', rfl, rfl, ⟨rfl, rfl⟩, further⟩
  rcases further with ⟨value, last, _, _, rfl, rfl, ⟨_, ⟨-, rfl⟩, rfl⟩, rfl, rfl⟩
  refine ⟨name, value, ?_, whole⟩
  rw [List.append_nil]
  rfl

theorem headerLine_text {line : JsString} {found : Position}
    (executed : Pattern.headerLine.exec line = some found) (parent : List Node) :
    textContent (appendHeaderLine parent found) = textContent parent ++ line := by
  rcases headerLine_groups executed with ⟨name, value, rfl, groups⟩
  unfold appendHeaderLine Position.group
  rw [groups]
  simp [List.lookup_cons]

/-! ## Request and status lines -/

/-- Whitespace between two parts of a line. -/
def IsGap (text : JsString) : Prop :=
  text ≠ [] ∧ forall code, code ∈ text -> isWhiteSpace code = true

def IsProtocol (text : JsString) : Prop :=
  Exists fun major => Exists fun minor => isDigit major = true ∧
    text = literal "HTTP/" ++ major :: minor ∧
      (minor = [] ∨ Exists fun digit => isDigit digit = true ∧ minor = [unit '.', digit])

structure IsRequestLine (line method gap uri gap' protocol tail : JsString) : Prop where
  whole : line = method ++ (gap ++ (uri ++ (gap' ++ (protocol ++ tail))))
  bounds : 3 ≤ method.length ∧ method.length ≤ 10
  upper : forall code, code ∈ method -> between 'A' 'Z' code = true
  apart : IsGap gap
  target : uri ≠ [] ∧ forall code, code ∈ uri -> isWhiteSpace code = false
  apart' : IsGap gap'
  version : IsProtocol protocol
  spaces : forall code, code ∈ tail -> isWhiteSpace code = true

/-- The reason begins where the whitespace behind the status code ends. -/
structure IsStatusLine (line protocol gap status gap' reason : JsString) : Prop where
  whole : line = protocol ++ (gap ++ (status ++ (gap' ++ reason)))
  version : IsProtocol protocol
  apart : IsGap gap
  digits : status.length = 3 ∧ forall code, code ∈ status -> isDigit code = true
  spaces : forall code, code ∈ gap' -> isWhiteSpace code = true
  oneLine : forall code, code ∈ reason -> isLineTerminator code = false
  trimmed : forall code, reason.head? = some code -> isWhiteSpace code = false

theorem reads_protocol : Reads Pattern.protocol (only IsProtocol) := by
  refine ((Reads.word "HTTP/").onlySeq ((Reads.unit isDigit).onlySeq
    ((Reads.one '.').onlySeq (Reads.unit isDigit)).optional)).congr fun text groups =>
      and_congr_left fun _ => ?_
  constructor
  · rintro ⟨_, _, rfl, rfl, _, _, rfl, ⟨major, rfl, digit⟩, minor⟩
    refine ⟨major, _, digit, rfl, ?_⟩
    rcases minor with ⟨_, _, rfl, rfl, ⟨other, rfl, digit'⟩⟩ | rfl
    · exact Or.inr ⟨other, digit', rfl⟩
    · exact Or.inl rfl
  · rintro ⟨major, minor, digit, rfl, shape⟩
    refine ⟨_, _, rfl, rfl, [major], minor, rfl, ⟨major, rfl, digit⟩, ?_⟩
    rcases shape with rfl | ⟨other, digit', rfl⟩
    · exact Or.inr rfl
    · exact Or.inl ⟨[unit '.'], [other], rfl, rfl, other, rfl, digit'⟩

theorem reads_method : Reads (.seq (times Pattern.upper 3) (upTo Pattern.upper 7))
    (only fun text => (3 ≤ text.length ∧ text.length ≤ 10) ∧
      forall code, code ∈ text -> between 'A' 'Z' code = true) := by
  refine ((Reads.times _ 3).onlySeq (Reads.upTo _ 7)).congr fun text groups =>
    and_congr_left fun _ => ?_
  constructor
  · rintro ⟨first, more, rfl, ⟨three, all⟩, few, all'⟩
    rw [List.length_append]
    refine ⟨⟨by omega, by omega⟩, fun code member => ?_⟩
    rcases List.mem_append.mp member with before | behind
    · exact all code before
    · exact all' code behind
  · rintro ⟨⟨least, most⟩, all⟩
    refine ⟨text.take 3, text.drop 3, (List.take_append_drop 3 text).symm, ⟨?_, ?_⟩, ?_, ?_⟩
    · rw [List.length_take]
      omega
    · exact fun code member => all code (List.mem_of_mem_take member)
    · rw [List.length_drop]
      omega
    · exact fun code member => all code (List.mem_of_mem_drop member)

theorem reads_uri : Reads (plus Pattern.noSpace) (only fun text => text ≠ [] ∧
    forall code, code ∈ text -> isWhiteSpace code = false) := by
  refine (Reads.plus _).congr fun text groups => and_congr_left fun _ => and_congr_right fun _ => ?_
  simp only [Bool.not_eq_true']

def requestBody : RegExp :=
  .seq (.group 1 (.seq (times Pattern.upper 3) (upTo Pattern.upper 7))) (.seq (plus space)
    (.seq (.group 2 (plus Pattern.noSpace)) (.seq (plus space)
      (.seq (.group 3 Pattern.protocol) (.seq (.star space) .finish)))))

theorem reads_requestLine : ReadsAll requestBody fun line groups =>
    Exists fun method => Exists fun gap => Exists fun uri => Exists fun gap' =>
      Exists fun protocol => Exists fun tail =>
        IsRequestLine line method gap uri gap' protocol tail ∧
          groups = [(3, protocol), (2, uri), (1, method)] := by
  refine ReadsAll.congr (.seq (reads_method.group 1) (.seq (Reads.plus isWhiteSpace)
    (.seq (reads_uri.group 2) (.seq (Reads.plus isWhiteSpace) (.seq (reads_protocol.group 3)
      (.seq (Reads.star isWhiteSpace) .finish)))))) fun line groups => ?_
  constructor
  · rintro ⟨method, _, _, _, rfl, rfl, ⟨_, ⟨⟨bounds, upper⟩, rfl⟩, rfl⟩, further⟩
    rcases further with ⟨gap, _, _, _, rfl, rfl, ⟨apart, rfl⟩, further⟩
    rcases further with ⟨uri, _, _, _, rfl, rfl, ⟨_, ⟨target, rfl⟩, rfl⟩, further⟩
    rcases further with ⟨gap', _, _, _, rfl, rfl, ⟨apart', rfl⟩, further⟩
    rcases further with ⟨protocol, _, _, _, rfl, rfl, ⟨_, ⟨version, rfl⟩, rfl⟩, further⟩
    rcases further with ⟨tail, _, _, _, rfl, rfl, ⟨blank, rfl⟩, rfl, rfl⟩
    exact ⟨method, gap, uri, gap', protocol, tail,
      ⟨by rw [List.append_nil], bounds, upper, apart, target, apart', version, blank⟩, rfl⟩
  · rintro ⟨method, gap, uri, gap', protocol, tail, shape, rfl⟩
    refine ⟨method, _, _, _, shape.whole, ?_, ⟨[], ⟨⟨shape.bounds, shape.upper⟩, rfl⟩, rfl⟩,
      gap, _, _, _, rfl, rfl, ⟨shape.apart, rfl⟩,
      uri, _, _, _, rfl, rfl, ⟨[], ⟨shape.target, rfl⟩, rfl⟩,
      gap', _, _, _, rfl, rfl, ⟨shape.apart', rfl⟩,
      protocol, _, _, _, rfl, rfl, ⟨[], ⟨shape.version, rfl⟩, rfl⟩,
      tail, [], _, _, (List.append_nil tail).symm, rfl, ⟨shape.spaces, rfl⟩, rfl, rfl⟩
    rfl

theorem requestLine_some {line : JsString} {found : Position}
    (executed : Pattern.requestLine.exec line = some found) :
    Exists fun method => Exists fun gap => Exists fun uri => Exists fun gap' =>
      Exists fun protocol => Exists fun tail =>
        IsRequestLine line method gap uri gap' protocol tail ∧
          found.groups = [(3, protocol), (2, uri), (1, method)] :=
  exec_all reads_requestLine executed

theorem requestLine_none {line method gap uri gap' protocol tail : JsString}
    (executed : Pattern.requestLine.exec line = none) :
    ¬ IsRequestLine line method gap uri gap' protocol tail := by
  intro shape
  exact exec_none reads_requestLine executed _ ⟨method, gap, uri, gap', protocol, tail, shape, rfl⟩

theorem reads_reason : ReadsAll (.seq (.group 3 (.star dot)) .finish) fun text groups =>
    (forall code, code ∈ text -> isLineTerminator code = false) ∧ groups = [(3, text)] := by
  refine ReadsAll.congr (.seq ((Reads.star _).group 3) .finish) fun text groups => ?_
  simp only [Bool.not_eq_true']
  constructor
  · rintro ⟨reason, _, _, _, rfl, rfl, ⟨_, ⟨all, rfl⟩, rfl⟩, rfl, rfl⟩
    rw [List.append_nil]
    exact ⟨all, rfl⟩
  · rintro ⟨all, rfl⟩
    exact ⟨text, [], _, [], (List.append_nil text).symm, rfl, ⟨[], ⟨all, rfl⟩, rfl⟩, rfl, rfl⟩

theorem statusLine_some {line : JsString} {found : Position}
    (executed : Pattern.statusLine.exec line = some found) :
    Exists fun protocol => Exists fun gap => Exists fun status => Exists fun gap' =>
      Exists fun reason => IsStatusLine line protocol gap status gap' reason ∧
        found.groups = [(3, reason), (2, status), (1, protocol)] := by
  rw [Pattern.statusLine, exec_start] at executed
  rcases first_seq executed with ⟨atGap, first, executed⟩
  rcases first_seq executed with ⟨atStatus, second, executed⟩
  rcases first_seq executed with ⟨atReason, third, executed⟩
  rcases (reads_protocol.group 1 _ _).mp first with
    ⟨protocol, rest, _, whole, ⟨_, ⟨version, rfl⟩, rfl⟩, rfl⟩
  rcases (Reads.plus isWhiteSpace _ _).mp second with ⟨gap, rest', _, whole', ⟨apart, rfl⟩, rfl⟩
  rcases ((Reads.times isDigit 3).group 2 _ _).mp third with
    ⟨status, rest'', _, whole'', ⟨_, ⟨digits, rfl⟩, rfl⟩, rfl⟩
  rcases first_star_seq reads_reason (fun front back groups known =>
    ⟨_, fun code member => known.1 code (List.mem_append_right front member), rfl⟩) executed with
      ⟨_, ⟨oneLine, rfl⟩, rfl⟩
  refine ⟨protocol, gap, status, rest''.takeWhile isWhiteSpace, rest''.dropWhile isWhiteSpace,
    { whole := ?_, version := version, apart := apart, digits := digits,
      spaces := fun code member => List.mem_takeWhile_imp member, oneLine := oneLine,
      trimmed := ?_ }, rfl⟩
  · have first' : line = protocol ++ rest := whole
    have second' : rest = gap ++ rest' := whole'
    have third' : rest' = status ++ rest'' := whole''
    rw [List.takeWhile_append_dropWhile, first', second', third']
  · intro code first'
    have stopped := List.head?_dropWhile_not isWhiteSpace rest''
    rw [first'] at stopped
    simpa using stopped

theorem statusLine_none {line protocol gap status gap' reason : JsString}
    (executed : Pattern.statusLine.exec line = none) :
    ¬ IsStatusLine line protocol gap status gap' reason := by
  intro shape
  refine exec_none (.seq (reads_protocol.group 1) (.seq (Reads.plus isWhiteSpace)
    (.seq ((Reads.times isDigit 3).group 2) (.seq (Reads.star isWhiteSpace) reads_reason))))
      executed [(3, reason), (2, status), (1, protocol)] ?_
  refine ⟨protocol, _, _, _, shape.whole, ?_, ⟨[], ⟨shape.version, rfl⟩, rfl⟩,
    gap, _, _, _, rfl, rfl, ⟨shape.apart, rfl⟩,
    status, _, _, _, rfl, rfl, ⟨[], ⟨shape.digits, rfl⟩, rfl⟩,
    gap', reason, _, _, rfl, rfl, ⟨shape.spaces, rfl⟩, shape.oneLine, rfl⟩
  rfl

/-! ## One way to take a line apart -/

/-- What comes next does not belong to the run before it. -/
def Stops (holds : UInt16 -> Bool) (rest : JsString) : Prop :=
  forall code, rest.head? = some code -> holds code = false

theorem stops_append {holds : UInt16 -> Bool} {text : JsString} (some' : text ≠ [])
    (other : forall code, code ∈ text -> holds code = false) (rest : JsString) :
    Stops holds (text ++ rest) := by
  intro code first
  cases text with
  | nil => exact absurd rfl some'
  | cons head tail =>
      exact Option.some.inj first ▸ other head List.mem_cons_self

theorem takeWhile_run {holds : UInt16 -> Bool} {run rest : JsString}
    (all : forall code, code ∈ run -> holds code = true) (stops : Stops holds rest) :
    (run ++ rest).takeWhile holds = run := by
  rw [List.takeWhile_append_of_pos all]
  cases rest with
  | nil => exact List.append_nil run
  | cons code rest =>
      rw [List.takeWhile_cons_of_neg (by rw [stops code rfl]; simp), List.append_nil]

/-- A text is a run and what follows it in one way only. -/
theorem runs_unique {holds : UInt16 -> Bool} {run run' rest rest' : JsString}
    (same : run ++ rest = run' ++ rest') (all : forall code, code ∈ run -> holds code = true)
    (stops : Stops holds rest) (all' : forall code, code ∈ run' -> holds code = true)
    (stops' : Stops holds rest') : run = run' ∧ rest = rest' := by
  have runs : run = run' := by
    rw [← takeWhile_run all stops, same, takeWhile_run all' stops']
  rw [runs] at same
  exact ⟨runs, List.append_cancel_left same⟩

theorem basic_codes {code : UInt16} (ascii : 33 ≤ code.toNat ∧ code.toNat < 128) :
    isWhiteSpace code = false := by
  unfold isWhiteSpace
  simp only [Bool.or_eq_false_iff, Bool.and_eq_false_imp, decide_eq_true_eq,
    decide_eq_false_iff_not,
    beq_eq_false_iff_ne]
  omega

theorem upper_noSpace {code : UInt16} (upper : between 'A' 'Z' code = true) :
    isWhiteSpace code = false := by
  unfold between at upper
  rw [Bool.and_eq_true, decide_eq_true_eq, decide_eq_true_eq] at upper
  have least : 65 ≤ code.toNat := upper.1
  have most : code.toNat ≤ 90 := upper.2
  exact basic_codes ⟨by omega, by omega⟩

theorem digit_noSpace {code : UInt16} (digit : isDigit code = true) :
    isWhiteSpace code = false := by
  unfold isDigit between at digit
  rw [Bool.and_eq_true, decide_eq_true_eq, decide_eq_true_eq] at digit
  have least : 48 ≤ code.toNat := digit.1
  have most : code.toNat ≤ 57 := digit.2
  exact basic_codes ⟨by omega, by omega⟩

theorem IsProtocol.noSpace {protocol : JsString} (version : IsProtocol protocol) :
    forall code, code ∈ protocol -> isWhiteSpace code = false := by
  rcases version with ⟨major, minor, digit, rfl, shape⟩
  have name : (literal "HTTP/").all (fun code => !isWhiteSpace code) = true := by decide
  intro code member
  rcases List.mem_append.mp member with before | behind
  · exact (Bool.not_eq_true' _).mp (List.all_eq_true.mp name code before)
  · rcases List.mem_cons.mp behind with rfl | later
    · exact digit_noSpace digit
    · rcases shape with rfl | ⟨other, digit', rfl⟩
      · exact absurd later List.not_mem_nil
      · rcases List.mem_cons.mp later with rfl | last
        · decide
        · rw [List.mem_singleton.mp last]
          exact digit_noSpace digit'

theorem IsProtocol.ne_nil {protocol : JsString} (version : IsProtocol protocol) :
    protocol ≠ [] := by
  rcases version with ⟨major, minor, -, rfl, -⟩
  exact List.cons_ne_nil _ _

/-- Whitespace behind a part without any. -/
theorem IsGap.stops {gap : JsString} (apart : IsGap gap) (rest : JsString) :
    Stops (fun code => !isWhiteSpace code) (gap ++ rest) :=
  stops_append apart.1 (fun code member => by rw [apart.2 code member]; rfl) rest

theorem stops_blank {tail : JsString}
    (blank : forall code, code ∈ tail -> isWhiteSpace code = true) :
    Stops (fun code => !isWhiteSpace code) tail := by
  intro code first
  have white : isWhiteSpace code = true := blank code (List.mem_of_head? first)
  change (!isWhiteSpace code) = false
  rw [white]
  rfl

section Unique

variable {line method gap uri gap' protocol tail status reason : JsString}
variable {method₂ gap₂ uri₂ gap₂' protocol₂ tail₂ status₂ reason₂ : JsString}

theorem noSpace_run {text : JsString}
    (plain : forall code, code ∈ text -> isWhiteSpace code = false) :
    forall code, code ∈ text -> (!isWhiteSpace code) = true := by
  intro code member
  rw [plain code member]
  rfl

theorem IsRequestLine.unique (shape : IsRequestLine line method gap uri gap' protocol tail)
    (shape₂ : IsRequestLine line method₂ gap₂ uri₂ gap₂' protocol₂ tail₂) :
    gap = gap₂ ∧ gap' = gap₂' ∧ tail = tail₂ := by
  have same := shape.whole.symm.trans shape₂.whole
  have first := runs_unique same
    (noSpace_run fun code member => upper_noSpace (shape.upper code member)) (shape.apart.stops _)
    (noSpace_run fun code member => upper_noSpace (shape₂.upper code member)) (shape₂.apart.stops _)
  have second := runs_unique first.2 shape.apart.2 (stops_append shape.target.1 shape.target.2 _)
    shape₂.apart.2 (stops_append shape₂.target.1 shape₂.target.2 _)
  have third := runs_unique second.2 (noSpace_run shape.target.2) (shape.apart'.stops _)
    (noSpace_run shape₂.target.2) (shape₂.apart'.stops _)
  have fourth := runs_unique third.2 shape.apart'.2
    (stops_append shape.version.ne_nil shape.version.noSpace _)
    shape₂.apart'.2 (stops_append shape₂.version.ne_nil shape₂.version.noSpace _)
  have fifth := runs_unique fourth.2 (noSpace_run shape.version.noSpace) (stops_blank shape.spaces)
    (noSpace_run shape₂.version.noSpace) (stops_blank shape₂.spaces)
  exact ⟨second.1, fourth.1, fifth.2⟩

theorem IsStatusLine.unique (shape : IsStatusLine line protocol gap status gap' reason)
    (shape₂ : IsStatusLine line protocol₂ gap₂ status₂ gap₂' reason₂) :
    gap = gap₂ ∧ gap' = gap₂' ∧ reason = reason₂ := by
  have same := shape.whole.symm.trans shape₂.whole
  have first := runs_unique same (noSpace_run shape.version.noSpace) (shape.apart.stops _)
    (noSpace_run shape₂.version.noSpace) (shape₂.apart.stops _)
  have some' : status ≠ [] := List.ne_nil_of_length_eq_add_one shape.digits.1
  have some₂ : status₂ ≠ [] := List.ne_nil_of_length_eq_add_one shape₂.digits.1
  have second := runs_unique first.2 shape.apart.2
    (stops_append some' (fun code member => digit_noSpace (shape.digits.2 code member)) _)
    shape₂.apart.2
    (stops_append some₂ (fun code member => digit_noSpace (shape₂.digits.2 code member)) _)
  have third := List.append_inj second.2 (shape.digits.1.trans shape₂.digits.1.symm)
  have fourth := runs_unique third.2 shape.spaces shape.trimmed shape₂.spaces shape₂.trimmed
  exact ⟨second.1, fourth.1, fourth.2⟩

/-- A method has no slash, and a protocol has one. -/
theorem IsRequestLine.not_status (shape : IsRequestLine line method gap uri gap' protocol tail) :
    ¬ IsStatusLine line protocol₂ gap₂ status₂ gap₂' reason₂ := by
  intro shape₂
  have first := runs_unique (shape.whole.symm.trans shape₂.whole)
    (noSpace_run fun code member => upper_noSpace (shape.upper code member)) (shape.apart.stops _)
    (noSpace_run shape₂.version.noSpace) (shape₂.apart.stops _)
  have slash : unit '/' ∈ protocol₂ := by
    rcases shape₂.version with ⟨major, minor, -, rfl, -⟩
    exact List.mem_append_left _ (by decide)
  rw [← first.1] at slash
  exact absurd (shape.upper _ slash) (by decide)

end Unique

/-! ## What is rebuilt -/

theorem IsGap.length_pos {gap : JsString} (apart : IsGap gap) : 0 < gap.length :=
  List.length_pos_of_ne_nil apart.1

theorem IsRequestLine.kept_iff {line method gap uri gap' protocol tail : JsString}
    (shape : IsRequestLine line method gap uri gap' protocol tail) :
    method ++ (blank ++ (uri ++ (blank ++ protocol))) = line ↔
      gap = blank ∧ gap' = blank ∧ tail = [] := by
  rw [shape.whole]
  constructor
  · intro same
    have some' := shape.apart.length_pos
    have some'' := shape.apart'.length_pos
    have one : blank.length = 1 := rfl
    have inner := List.append_cancel_left same
    have counted := congrArg List.length inner
    simp only [List.length_append] at counted
    have first := List.append_inj inner (by omega)
    have second := List.append_inj (List.append_cancel_left first.2) (by omega)
    have third := List.append_cancel_left ((List.append_nil protocol).trans second.2)
    exact ⟨first.1.symm, second.1.symm, third.symm⟩
  · rintro ⟨rfl, rfl, rfl⟩
    rw [List.append_nil]

/-- The text that is rebuilt of a status line. -/
def statusText (protocol status reason : JsString) : JsString :=
  protocol ++ (blank ++ (status ++ if reason = [] then [] else blank ++ reason))

theorem blank_space : forall code, code ∈ blank -> isWhiteSpace code = true := by
  intro code member
  rw [List.mem_singleton.mp member]
  decide

theorem IsStatusLine.kept_iff {line protocol gap status gap' reason : JsString}
    (shape : IsStatusLine line protocol gap status gap' reason) :
    statusText protocol status reason = line ↔
      gap = blank ∧ gap' = if reason = [] then [] else blank := by
  have some' : status ≠ [] := List.ne_nil_of_length_eq_add_one shape.digits.1
  have stops := @stops_append isWhiteSpace status some'
    (fun code member => digit_noSpace (shape.digits.2 code member))
  rw [shape.whole, statusText]
  constructor
  · intro same
    have first := runs_unique (List.append_cancel_left same) blank_space (stops _) shape.apart.2
      (stops _)
    have second := List.append_cancel_left first.2
    refine ⟨first.1.symm, ?_⟩
    split
    · rename_i nothing
      rw [if_pos nothing, nothing, List.append_nil] at second
      exact second.symm
    · rename_i more
      rw [if_neg more] at second
      exact (List.append_cancel_right second).symm
  · rintro ⟨rfl, rfl⟩
    split
    · rename_i nothing
      rw [nothing]
      rfl
    · rfl

/-- A first line of which nothing is lost. -/
def Kept (line : JsString) : Prop :=
  (forall method gap uri gap' protocol tail,
    IsRequestLine line method gap uri gap' protocol tail ->
      gap = blank ∧ gap' = blank ∧ tail = []) ∧
  forall protocol gap status gap' reason, IsStatusLine line protocol gap status gap' reason ->
    gap = blank ∧ gap' = if reason = [] then [] else blank

theorem appendRequestLine_text {found : Position} {method uri protocol : JsString}
    (groups : found.groups = [(3, protocol), (2, uri), (1, method)]) (parent : List Node) :
    textContent (appendRequestLine parent found) =
      textContent parent ++ (method ++ (blank ++ (uri ++ (blank ++ protocol)))) := by
  unfold appendRequestLine Position.group
  rw [groups]
  simp [List.lookup_cons]

theorem appendStatusLine_text {found : Position} {protocol status reason : JsString}
    (groups : found.groups = [(3, reason), (2, status), (1, protocol)]) (parent : List Node) :
    textContent (appendStatusLine parent found) =
      textContent parent ++ statusText protocol status reason := by
  unfold appendStatusLine Position.group statusText
  rw [groups]
  by_cases nothing : reason = []
  · simp [List.lookup_cons, nothing]
  · simp [List.lookup_cons, nothing]

/-- The first line is shown as some text, and as itself exactly when it is kept. -/
theorem highlightHttpLine_first (parent : List Node) (line : JsString) (inHeaders : Bool) :
    Exists fun nodes => Exists fun headers => Exists fun shown =>
      highlightHttpLine parent line true inHeaders = some (nodes, headers) ∧
        textContent nodes = textContent parent ++ shown ∧ (shown = line ↔ Kept line) := by
  unfold highlightHttpLine
  dsimp only
  rw [if_pos rfl]
  cases request : Pattern.requestLine.exec line with
  | some found =>
      rcases requestLine_some request with ⟨method, gap, uri, gap', protocol, tail, shape, groups⟩
      refine ⟨_, _, _, rfl, appendRequestLine_text groups parent, shape.kept_iff.trans ?_⟩
      constructor
      · rintro ⟨rfl, rfl, rfl⟩
        refine ⟨?_, fun _ _ _ _ _ status => absurd status shape.not_status⟩
        intro method₂ gap₂ uri₂ gap₂' protocol₂ tail₂ shape₂
        have parts := shape.unique shape₂
        exact ⟨parts.1.symm, parts.2.1.symm, parts.2.2.symm⟩
      · exact fun kept => kept.1 _ _ _ _ _ _ shape
  | none =>
      cases status : Pattern.statusLine.exec line with
      | some found =>
          rcases statusLine_some status with ⟨protocol, gap, code, gap', reason, shape, groups⟩
          refine ⟨_, _, _, rfl, appendStatusLine_text groups parent, shape.kept_iff.trans ?_⟩
          constructor
          · intro separated
            refine ⟨fun _ _ _ _ _ _ shape₂ => absurd shape₂ (requestLine_none request), ?_⟩
            intro protocol₂ gap₂ status₂ gap₂' reason₂ shape₂
            have parts := shape.unique shape₂
            rw [← parts.1, ← parts.2.1, ← parts.2.2]
            exact separated
          · exact fun kept => kept.2 _ _ _ _ _ shape
      | none =>
          rcases highlightBodyLine_text parent line with ⟨nodes, shown, content⟩
          refine ⟨nodes, false, line, ?_, content, iff_of_true rfl ⟨?_, ?_⟩⟩
          · dsimp only
            rw [shown]
            rfl
          · exact fun _ _ _ _ _ _ shape => absurd shape (requestLine_none request)
          · exact fun _ _ _ _ _ shape => absurd shape (statusLine_none status)

/-- Every later line is shown as it is. -/
theorem highlightHttpLine_later (parent : List Node) (line : JsString) (inHeaders : Bool) :
    Exists fun nodes => Exists fun headers =>
      highlightHttpLine parent line false inHeaders = some (nodes, headers) ∧
        textContent nodes = textContent parent ++ line := by
  rcases highlightBodyLine_text parent line with ⟨nodes, shown, content⟩
  unfold highlightHttpLine
  dsimp only
  rw [if_neg Bool.false_ne_true, shown]
  split
  · cases executed : Pattern.headerLine.exec line with
    | some found => exact ⟨_, _, rfl, headerLine_text executed parent⟩
    | none => exact ⟨nodes, false, rfl, content⟩
  · exact ⟨nodes, false, rfl, content⟩

/-! ## The whole payload -/

/-- The lines with a line feed before each but the first. -/
def joined : Nat -> List JsString -> JsString
  | _, [] => []
  | index, line :: lines => (if 0 < index then newline else []) ++
    (line ++ joined (index + 1) lines)

theorem joined_succ (lines : List JsString) (index : Nat) :
    joined (index + 1) lines = lines.flatMap (newline ++ ·) := by
  induction lines generalizing index with
  | nil => rfl
  | cons line lines inductionHypothesis =>
      rw [joined, if_pos (Nat.succ_pos index), inductionHypothesis, List.flatMap_cons,
        List.append_assoc]

theorem intercalate_cons (line : JsString) (lines : List JsString) :
    newline.intercalate (line :: lines) = line ++ lines.flatMap (newline ++ ·) := by
  induction lines generalizing line with
  | nil => simp
  | cons next lines inductionHypothesis =>
      rw [List.intercalate_cons_cons, inductionHypothesis, List.flatMap_cons, List.append_assoc,
        List.append_assoc]

theorem joined_splitOn (text : JsString) : joined 0 (text.splitOn (unit '\n')) = text := by
  have whole : newline.intercalate (text.splitOn (unit '\n')) = text := List.intercalate_splitOn _
  cases lines : text.splitOn (unit '\n') with
  | nil => exact absurd lines (List.splitOn_ne_nil _ _)
  | cons line rest =>
      rw [lines, intercalate_cons] at whole
      rw [joined, if_neg (Nat.lt_irrefl 0), List.nil_append, joined_succ, whole]

/-- The first line with something on it. -/
def firstLine (lines : List JsString) : Option JsString :=
  lines.find? fun line => !isBlank line

theorem textContent_newline (nodes : List Node) (index : Nat) :
    textContent (if 0 < index then appendText nodes newline else nodes) =
      textContent nodes ++ if 0 < index then newline else [] := by
  split
  · exact textContent_appendText nodes newline
  · exact (List.append_nil _).symm

/-- A line after the first one with something on it. -/
theorem appendLine_later {rendering : Rendering} (saw : rendering.sawFirst = true) (index : Nat)
    (line : JsString) : Exists fun next => appendLine rendering index line = some next ∧
      next.sawFirst = true ∧ textContent next.code =
        textContent rendering.code ++ ((if 0 < index then newline else []) ++ line) := by
  unfold appendLine
  dsimp only
  rw [saw, Bool.not_true, Bool.false_and, if_neg Bool.false_ne_true, ← List.append_assoc,
    ← textContent_newline]
  split
  · exact ⟨_, rfl, rfl, textContent_appendText _ line⟩
  · rcases highlightHttpLine_later (if 0 < index then appendText rendering.code newline
      else rendering.code) line rendering.inHeaders with ⟨nodes, headers, shown, content⟩
    rw [shown]
    exact ⟨_, rfl, rfl, content⟩

theorem appendLines_later : forall lines rendering index, rendering.sawFirst = true ->
    Exists fun next => appendLines rendering index lines = some next ∧
      textContent next.code = textContent rendering.code ++ joined index lines := by
  intro lines
  induction lines with
  | nil => exact fun rendering _ _ => ⟨rendering, rfl, (List.append_nil _).symm⟩
  | cons line lines inductionHypothesis =>
      intro rendering index saw
      rcases appendLine_later saw index line with ⟨middle, shown, saw', content⟩
      rcases inductionHypothesis middle (index + 1) saw' with ⟨next, shown', content'⟩
      refine ⟨next, ?_, ?_⟩
      · rw [appendLines, shown]
        exact shown'
      · rw [content', content, joined, List.append_assoc, List.append_assoc]

/-- The lines from a point before the first one with something on it. -/
theorem appendLines_first : forall lines rendering index, rendering.sawFirst = false ->
    Exists fun next => Exists fun shown => appendLines rendering index lines = some next ∧
      textContent next.code = textContent rendering.code ++ shown ∧
        (shown = joined index lines ↔ forall line, firstLine lines = some line -> Kept line) := by
  intro lines
  induction lines with
  | nil =>
      intro rendering index _
      exact ⟨rendering, [], rfl, (List.append_nil _).symm,
        iff_of_true rfl fun line none' => absurd none' (Option.some_ne_none line).symm⟩
  | cons line lines inductionHypothesis =>
      intro rendering index saw
      have added := textContent_newline rendering.code index
      unfold appendLines appendLine
      dsimp only
      rw [saw, Bool.not_false, Bool.true_and]
      cases empty : isBlank line with
      | true =>
          rw [if_pos rfl]
          rcases inductionHypothesis ⟨_, false, rendering.inHeaders⟩ (index + 1) rfl with
            ⟨next, shown, appended, content, exact'⟩
          refine ⟨next, (if 0 < index then newline else []) ++ (line ++ shown), appended, ?_, ?_⟩
          · rw [content, textContent_appendText, added, List.append_assoc, List.append_assoc]
          · have passed : firstLine (line :: lines) = firstLine lines :=
              List.find?_cons_of_neg (by rw [empty]; simp)
            rw [passed, joined, ← exact']
            constructor
            · exact fun same => List.append_cancel_left (List.append_cancel_left same)
            · rintro rfl
              rfl
      | false =>
          rw [if_neg Bool.false_ne_true, Bool.and_false, if_neg Bool.false_ne_true]
          have found : firstLine (line :: lines) = some line :=
            List.find?_cons_of_pos (by rw [empty]; rfl)
          rcases highlightHttpLine_first (if 0 < index then appendText rendering.code newline
            else rendering.code) line rendering.inHeaders with
              ⟨nodes, headers, shown, highlighted, content, exact'⟩
          rcases appendLines_later lines ⟨nodes, true, headers⟩ (index + 1) rfl with
            ⟨next, appended, content'⟩
          refine ⟨next, (if 0 < index then newline else []) ++ (shown ++ joined (index + 1) lines),
            ?_,
            ?_, ?_⟩
          · rw [highlighted]
            exact appended
          · rw [content', content, added, List.append_assoc, List.append_assoc]
          · rw [found, joined]
            constructor
            · intro same other first
              cases first
              exact exact'.mp (List.append_cancel_right (List.append_cancel_left same))
            · intro kept
              rw [exact'.mpr (kept line rfl)]

/-- The payload is highlighted without an end to wait for, and nothing of it is
lost exactly when the first line with something on it is kept. -/
theorem highlightWafPayload_text_iff (source : JsString) :
    Exists fun nodes => highlightWafPayload source = some nodes ∧
      (textContent nodes = source ↔
        forall line, firstLine (source.splitOn (unit '\n')) = some line -> Kept line) := by
  unfold highlightWafPayload
  rcases appendLines_first (source.splitOn (unit '\n')) ⟨[], false, true⟩ 0 rfl with
    ⟨next, shown, appended, content, exact'⟩
  rw [joined_splitOn] at exact'
  split
  · rename_i nothing
    refine ⟨[], rfl, iff_of_true nothing.symm ?_⟩
    rw [nothing]
    have none' : firstLine (List.splitOn (unit '\n') []) = none := by decide
    rw [none']
    exact fun line first => absurd first (Option.some_ne_none line).symm
  · have whole : textContent next.code = shown := content
    refine ⟨next.code, ?_, ?_⟩
    · rw [appended]
      rfl
    · rw [whole]
      exact exact'

end Payload

namespace Sample

open JavaScript Payload

/-- Two blanks behind the method are shown as one. -/
theorem blank_lost :
    (highlightWafPayload (literal "GET  / HTTP/1.1\nHost: a\n")).map textContent =
      some (literal "GET / HTTP/1.1\nHost: a\n") ∧
    literal "GET / HTTP/1.1\nHost: a\n" ≠ literal "GET  / HTTP/1.1\nHost: a\n" := by
  refine ⟨?_, ?_⟩
  · decide +kernel
  · decide

end Sample
end KrakenUi
