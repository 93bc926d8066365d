import KrakenUi.JavaScript.Strings

namespace JavaScript

/-!
# Regular expressions

A pattern is matched by backtracking.  From a position it has outcomes in an
order of preference, and the first of them is the match.  What a group has read
is part of the outcome.  Patterns are those without flags that change a unit's
meaning; `matchAt` and `search` are `exec` at one position and from it on.
-/

inductive RegExp where
  | empty
  | unit (holds : UInt16 -> Bool)
  | seq (first second : RegExp)
  | either (preferred other : RegExp)
  /-- As often as possible. -/
  | star (body : RegExp)
  | group (number : Nat) (body : RegExp)
  | start
  | finish
  | boundary

/-- A position in a text, the units before it in reverse, and the groups read. -/
structure Position where
  before : JsString
  after : JsString
  groups : List (Nat × JsString)

namespace Position

variable (position next : Position)

/-- What was read between two positions. -/
def readUntil : JsString :=
  position.after.take (position.after.length - next.after.length)

/-- The text of a group, which is empty for one that took no part. -/
def group (number : Nat) : JsString :=
  (position.groups.lookup number).getD []

def read (text rest : JsString) (groups : List (Nat × JsString)) : Position :=
  ⟨text.reverse ++ position.before, rest, groups ++ position.groups⟩

end Position

/-- `\w`. -/
def isWord (code : UInt16) : Bool :=
  between 'a' 'z' code || between 'A' 'Z' code || between '0' '9' code || code == unit '_'

/-- `\d`. -/
def isDigit (code : UInt16) : Bool := between '0' '9' code

def isLineTerminator (code : UInt16) : Bool :=
  code == 10 || code == 13 || code == 0x2028 || code == 0x2029

namespace RegExp

def one (character : Char) : RegExp := .unit (· == JavaScript.unit character)

/-- `[...]` with single characters. -/
def anyOf (characters : String) : RegExp := .unit fun code => (literal characters).contains code

/-- `[^...]`. -/
def noneOf (characters : String) : RegExp := .unit fun code => !(literal characters).contains code

/-- `.`. -/
def dot : RegExp := .unit fun code => !isLineTerminator code

def space : RegExp := .unit isWhiteSpace

def digit : RegExp := .unit isDigit

def plus (body : RegExp) : RegExp := .seq body (.star body)

/-- `?`, for a body that reads something. -/
def optional (body : RegExp) : RegExp := .either body .empty

def word (characters : String) : RegExp :=
  characters.toList.foldr (fun character rest => .seq (one character) rest) .empty

def times (body : RegExp) : Nat -> RegExp
  | 0 => .empty
  | count + 1 => .seq body (times body count)

/-- At most so often, and as often as possible. -/
def upTo (body : RegExp) : Nat -> RegExp
  | 0 => .empty
  | count + 1 => optional (.seq body (upTo body count))

/-! ## Outcomes -/

/-- Another round is made only after one that has read something. -/
def rounds (body : Position -> List Position) : Nat -> Position -> List Position
  | 0, position => [position]
  | fuel + 1, position =>
      ((body position).filter fun next => next.after.length < position.after.length).flatMap
          (rounds body fuel) ++ [position]

def isBoundary (position : Position) : Bool :=
  (position.before.head?.any isWord) != (position.after.head?.any isWord)

def outcomes : RegExp -> Position -> List Position
  | .empty, position => [position]
  | .unit holds, position =>
      match position.after with
      | [] => []
      | code :: rest =>
          if holds code then [⟨code :: position.before, rest, position.groups⟩] else []
  | .seq first second, position => (outcomes first position).flatMap (outcomes second)
  | .either preferred other, position => outcomes preferred position ++ outcomes other position
  | .star body, position => rounds (outcomes body) position.after.length position
  | .group number body, position =>
      (outcomes body position).map fun next =>
        { next with groups := (number, position.readUntil next) :: next.groups }
  | .start, position => if position.before.isEmpty then [position] else []
  | .finish, position => if position.after.isEmpty then [position] else []
  | .boundary, position => if isBoundary position then [position] else []

def matchAt (pattern : RegExp) (before after : JsString) : Option Position :=
  (pattern.outcomes ⟨before, after, []⟩).head?

/-- What is passed over before the first match, and the match. -/
def search (pattern : RegExp) (before : JsString) : JsString -> Option (JsString × Position)
  | [] => (pattern.matchAt before []).map fun found => ([], found)
  | code :: rest =>
      match pattern.matchAt before (code :: rest) with
      | some found => some ([], found)
      | none =>
          (search pattern (code :: before) rest).map fun found => (code :: found.1, found.2)

/-- `exec` without the flag `g`. -/
def exec (pattern : RegExp) (text : JsString) : Option Position :=
  (pattern.search [] text).map Prod.snd

/-! ## Single patterns -/

section Single

variable {position next : Position} {holds : UInt16 -> Bool}

theorem mem_empty : next ∈ outcomes .empty position ↔ next = position :=
  List.mem_singleton

theorem mem_unit : next ∈ outcomes (.unit holds) position ↔
    Exists fun code => Exists fun rest => position.after = code :: rest ∧ holds code = true ∧
      next = position.read [code] rest [] := by
  unfold outcomes
  cases position with
  | mk before after groups =>
      cases after with
      | nil =>
          constructor
          · exact fun member => absurd member List.not_mem_nil
          · rintro ⟨code, rest, whole, -⟩
            exact absurd whole.symm (List.cons_ne_nil code rest)
      | cons code rest =>
          dsimp only
          split
          · rename_i accepted
            rw [List.mem_singleton]
            constructor
            · rintro rfl
              exact ⟨code, rest, rfl, accepted, rfl⟩
            · rintro ⟨code', rest', whole, -, same⟩
              rw [same, (List.cons.inj whole).1, (List.cons.inj whole).2]
              rfl
          · rename_i refused
            constructor
            · exact fun member => absurd member List.not_mem_nil
            · rintro ⟨code', rest', whole, accepted, -⟩
              rw [(List.cons.inj whole).1] at refused
              exact absurd accepted refused

theorem mem_seq {first second : RegExp} : next ∈ outcomes (.seq first second) position ↔
    Exists fun middle => middle ∈ outcomes first position ∧ next ∈ outcomes second middle :=
  List.mem_flatMap

theorem mem_either {preferred other : RegExp} :
    next ∈ outcomes (.either preferred other) position ↔
      next ∈ outcomes preferred position ∨ next ∈ outcomes other position :=
  List.mem_append

theorem mem_group {number : Nat} {body : RegExp} :
    next ∈ outcomes (.group number body) position ↔
      Exists fun inner => inner ∈ outcomes body position ∧
        { inner with groups := (number, position.readUntil inner) :: inner.groups } = next :=
  List.mem_map

theorem mem_start : next ∈ outcomes .start position ↔ position.before = [] ∧ next = position := by
  unfold outcomes
  cases before : position.before with
  | nil => simp
  | cons code rest => simp

theorem mem_finish : next ∈ outcomes .finish position ↔ position.after = [] ∧ next = position := by
  unfold outcomes
  cases after : position.after with
  | nil => simp
  | cons code rest => simp

theorem mem_boundary (member : next ∈ outcomes .boundary position) : next = position := by
  unfold outcomes at member
  split at member
  · exact List.mem_singleton.mp member
  · exact absurd member List.not_mem_nil

end Single

/-! ## What an outcome has read -/

/-- A position is reached from another by reading. -/
def Follows (position next : Position) : Prop :=
  Exists fun text => position.after = text ++ next.after ∧
    next.before = text.reverse ++ position.before

theorem Follows.refl (position : Position) : Follows position position :=
  ⟨[], rfl, rfl⟩

theorem Follows.trans {first second third : Position} (before : Follows first second)
    (behind : Follows second third) : Follows first third := by
  rcases before with ⟨text, whole, read⟩
  rcases behind with ⟨text', whole', read'⟩
  refine ⟨text ++ text', ?_, ?_⟩
  · rw [whole, whole', List.append_assoc]
  · rw [read', read, List.reverse_append, List.append_assoc]

theorem Follows.length_le {position next : Position} (follows : Follows position next) :
    next.after.length ≤ position.after.length := by
  rcases follows with ⟨text, whole, -⟩
  rw [whole, List.length_append]
  exact Nat.le_add_left _ _

theorem Follows.append_readUntil {position next : Position} (follows : Follows position next) :
    position.readUntil next ++ next.after = position.after ∧
      next.before = (position.readUntil next).reverse ++ position.before := by
  rcases follows with ⟨text, whole, read⟩
  have read' : position.readUntil next = text := by
    rw [Position.readUntil, whole, List.length_append, Nat.add_sub_cancel, List.take_left]
  rw [read']
  exact ⟨whole.symm, read⟩

/-- Rounds lead on as one round does. -/
theorem rounds_induction {body : Position -> List Position} {leads : Position -> Position -> Prop}
    (refl : forall position, leads position position)
    (round : forall position middle next, middle ∈ body position ->
      middle.after.length < position.after.length -> leads middle next -> leads position next) :
    forall fuel position next, next ∈ rounds body fuel position -> leads position next := by
  intro fuel
  induction fuel with
  | zero =>
      intro position next member
      rw [rounds, List.mem_singleton] at member
      exact member ▸ refl position
  | succ fuel inductionHypothesis =>
      intro position next member
      rw [rounds, List.mem_append] at member
      rcases member with further | last
      · rcases List.mem_flatMap.mp further with ⟨middle, inside, rest⟩
        have parts := List.mem_filter.mp inside
        exact round position middle next parts.1 (decide_eq_true_eq.mp parts.2)
          (inductionHypothesis middle next rest)
      · rw [List.mem_singleton.mp last]
        exact refl position

theorem follows {pattern : RegExp} :
    forall {position next}, next ∈ outcomes pattern position -> Follows position next := by
  induction pattern with
  | empty =>
      intro position next member
      exact mem_empty.mp member ▸ Follows.refl position
  | unit holds =>
      intro position next member
      rcases mem_unit.mp member with ⟨code, rest, whole, -, rfl⟩
      exact ⟨[code], whole, rfl⟩
  | seq first second firstReads secondReads =>
      intro position next member
      rcases mem_seq.mp member with ⟨middle, before, behind⟩
      exact (firstReads before).trans (secondReads behind)
  | either preferred other preferredReads otherReads =>
      intro position next member
      rcases mem_either.mp member with before | behind
      · exact preferredReads before
      · exact otherReads behind
  | star body bodyReads =>
      intro position next member
      exact rounds_induction Follows.refl
        (fun position middle next inside _ rest => (bodyReads inside).trans rest) _ _ _ member
  | group number body bodyReads =>
      intro position next member
      rcases mem_group.mp member with ⟨inner, inside, rfl⟩
      have read : Follows position inner := bodyReads inside
      exact read
  | start =>
      intro position next member
      exact (mem_start.mp member).2 ▸ Follows.refl position
  | finish =>
      intro position next member
      exact (mem_finish.mp member).2 ▸ Follows.refl position
  | boundary =>
      intro position next member
      exact mem_boundary member ▸ Follows.refl position

/-- A pattern that cannot match without reading. -/
def advances : RegExp -> Bool
  | .unit _ => true
  | .seq first second => advances first || advances second
  | .either preferred other => advances preferred && advances other
  | .group _ body => advances body
  | _ => false

theorem shorter {pattern : RegExp} : forall {position next},
    advances pattern = true -> next ∈ outcomes pattern position ->
      next.after.length < position.after.length := by
  induction pattern with
  | unit holds =>
      intro position next _ member
      rcases mem_unit.mp member with ⟨code, rest, whole, -, rfl⟩
      rw [whole]
      exact Nat.lt_succ_self _
  | seq first second firstReads secondReads =>
      intro position next advancing member
      rcases mem_seq.mp member with ⟨middle, before, behind⟩
      have short := (follows before).length_le
      have short' := (follows behind).length_le
      rcases Bool.or_eq_true_iff.mp advancing with early | late
      · exact short'.trans_lt (firstReads early before)
      · exact (secondReads late behind).trans_le short
  | either preferred other preferredReads otherReads =>
      intro position next advancing member
      have both := Bool.and_eq_true_iff.mp advancing
      rcases mem_either.mp member with before | behind
      · exact preferredReads both.1 before
      · exact otherReads both.2 behind
  | group number body bodyReads =>
      intro position next advancing member
      rcases mem_group.mp member with ⟨inner, inside, rfl⟩
      have short : inner.after.length < position.after.length := bodyReads advancing inside
      exact short
  | empty => exact fun advancing => absurd advancing Bool.false_ne_true
  | star body => exact fun advancing => absurd advancing Bool.false_ne_true
  | start => exact fun advancing => absurd advancing Bool.false_ne_true
  | finish => exact fun advancing => absurd advancing Bool.false_ne_true
  | boundary => exact fun advancing => absurd advancing Bool.false_ne_true

/-- A pattern without groups. -/
def groupless : RegExp -> Bool
  | .group _ _ => false
  | .seq first second => groupless first && groupless second
  | .either preferred other => groupless preferred && groupless other
  | .star body => groupless body
  | _ => true

theorem groups_kept {pattern : RegExp} : forall {position next},
    groupless pattern = true -> next ∈ outcomes pattern position ->
      next.groups = position.groups := by
  induction pattern with
  | unit holds =>
      intro position next _ member
      rcases mem_unit.mp member with ⟨code, rest, -, -, rfl⟩
      rfl
  | seq first second firstKeeps secondKeeps =>
      intro position next without member
      have both := Bool.and_eq_true_iff.mp without
      rcases mem_seq.mp member with ⟨middle, before, behind⟩
      exact (secondKeeps both.2 behind).trans (firstKeeps both.1 before)
  | either preferred other preferredKeeps otherKeeps =>
      intro position next without member
      have both := Bool.and_eq_true_iff.mp without
      rcases mem_either.mp member with before | behind
      · exact preferredKeeps both.1 before
      · exact otherKeeps both.2 behind
  | star body bodyKeeps =>
      intro position next without member
      exact @rounds_induction _ (fun position next => next.groups = position.groups) (fun _ => rfl)
        (fun position middle next inside _ rest => rest.trans
          (bodyKeeps without inside)) _ _ _ member
  | empty =>
      intro position next _ member
      rw [mem_empty.mp member]
  | start =>
      intro position next _ member
      rw [(mem_start.mp member).2]
  | finish =>
      intro position next _ member
      rw [(mem_finish.mp member).2]
  | boundary =>
      intro position next _ member
      rw [mem_boundary member]
  | group number body => exact fun without => absurd without Bool.false_ne_true

/-! ## Patterns and languages -/

/-- What a pattern reads, with the groups it adds: the last group first. -/
abbrev Language := JsString -> List (Nat × JsString) -> Prop

/-- The outcomes are the ways to read a text of the language. -/
def Reads (pattern : RegExp) (language : Language) : Prop :=
  forall position next, next ∈ outcomes pattern position ↔
    Exists fun text => Exists fun rest => Exists fun groups => position.after = text ++ rest ∧
      language text groups ∧ next = position.read text rest groups

def only (texts : JsString -> Prop) : Language := fun text groups => texts text ∧ groups = []

def chain (first second : Language) : Language := fun text groups =>
  Exists fun front => Exists fun back => Exists fun inner => Exists fun outer =>
    text = front ++ back ∧ groups = outer ++ inner ∧ first front inner ∧ second back outer

theorem Reads.empty : Reads .empty (only (· = [])) := by
  intro position next
  rw [mem_empty]
  constructor
  · rintro rfl
    exact ⟨[], next.after, [], rfl, ⟨rfl, rfl⟩, rfl⟩
  · rintro ⟨text, rest, groups, whole, ⟨rfl, rfl⟩, rfl⟩
    rw [List.nil_append] at whole
    rw [← whole]
    rfl

theorem Reads.unit (holds : UInt16 -> Bool) :
    Reads (.unit holds) (only fun text => Exists fun code =>
      text = [code] ∧ holds code = true) := by
  intro position next
  rw [mem_unit]
  constructor
  · rintro ⟨code, rest, whole, accepted, rfl⟩
    exact ⟨[code], rest, [], whole, ⟨⟨code, rfl, accepted⟩, rfl⟩, rfl⟩
  · rintro ⟨text, rest, groups, whole, ⟨⟨code, rfl, accepted⟩, rfl⟩, rfl⟩
    exact ⟨code, rest, whole, accepted, rfl⟩

theorem Reads.seq {first second : RegExp} {front back : Language} (reads : Reads first front)
    (reads' : Reads second back) : Reads (.seq first second) (chain front back) := by
  intro position next
  rw [mem_seq]
  constructor
  · rintro ⟨middle, before, behind⟩
    rcases (reads position middle).mp before with ⟨text, rest, groups, whole, known, rfl⟩
    rcases (reads' _ next).mp behind with ⟨text', rest', groups', whole', known', rfl⟩
    have parts : rest = text' ++ rest' := whole'
    refine ⟨text ++ text', rest', groups' ++ groups, ?_, ⟨text, text', groups, groups', rfl, rfl,
      known, known'⟩, ?_⟩
    · rw [whole, parts, List.append_assoc]
    · simp only [Position.read, List.reverse_append, List.append_assoc]
  · rintro ⟨text, rest, groups, whole, ⟨front, back, inner, outer, rfl, rfl, known, known'⟩, rfl⟩
    rw [List.append_assoc] at whole
    refine ⟨position.read front (back ++ rest) inner, (reads position _).mpr ⟨front, back ++ rest,
      inner, whole, known, rfl⟩, (reads' _ _).mpr ⟨back, rest, outer, rfl, known', ?_⟩⟩
    simp only [Position.read, List.reverse_append, List.append_assoc]

theorem Reads.either {preferred other : RegExp} {left right : Language}
    (reads : Reads preferred left) (reads' : Reads other right) :
    Reads (.either preferred other) fun text groups => left text groups ∨ right text groups := by
  intro position next
  rw [mem_either, reads position next, reads' position next]
  constructor
  · rintro (⟨text, rest, groups, whole, known, same⟩ | ⟨text, rest, groups, whole, known, same⟩)
    · exact ⟨text, rest, groups, whole, Or.inl known, same⟩
    · exact ⟨text, rest, groups, whole, Or.inr known, same⟩
  · rintro ⟨text, rest, groups, whole, known | known, same⟩
    · exact Or.inl ⟨text, rest, groups, whole, known, same⟩
    · exact Or.inr ⟨text, rest, groups, whole, known, same⟩

theorem Reads.group {body : RegExp} {language : Language} (reads : Reads body language)
    (number : Nat) : Reads (.group number body) fun text groups =>
      Exists fun inner => language text inner ∧ groups = (number, text) :: inner := by
  intro position next
  rw [mem_group]
  constructor
  · rintro ⟨inner, inside, rfl⟩
    have read := (follows inside).append_readUntil.1
    rcases (reads position inner).mp inside with ⟨text, rest, groups, whole, known, rfl⟩
    have rest' : (position.read text rest groups).after = rest := rfl
    rw [rest', whole] at read
    have same := List.append_cancel_right read
    refine ⟨text, rest, (number, text) :: groups, whole, ⟨groups, known, rfl⟩, ?_⟩
    rw [same]
    rfl
  · rintro ⟨text, rest, groups, whole, ⟨inner, known, rfl⟩, rfl⟩
    refine ⟨position.read text rest inner, (reads position _).mpr ⟨text, rest, inner, whole, known,
      rfl⟩, ?_⟩
    have read : position.readUntil (position.read text rest inner) = text := by
      change position.after.take (position.after.length - rest.length) = text
      rw [whole, List.length_append, Nat.add_sub_cancel, List.take_left]
    rw [read]
    rfl

theorem mem_rounds_unit (holds : UInt16 -> Bool) :
    forall fuel position next, position.after.length ≤ fuel ->
      (next ∈ rounds (outcomes (.unit holds)) fuel position ↔
        Exists fun text => Exists fun rest => position.after = text ++ rest ∧
          (forall code, code ∈ text -> holds code = true) ∧ next = position.read text rest []) := by
  intro fuel
  induction fuel with
  | zero =>
      intro position next enough
      have done := List.length_eq_zero_iff.mp (Nat.le_zero.mp enough)
      rw [rounds, List.mem_singleton]
      constructor
      · rintro rfl
        exact ⟨[], next.after, rfl, fun _ member => absurd member List.not_mem_nil, rfl⟩
      · rintro ⟨text, rest, whole, -, rfl⟩
        rw [done] at whole
        have parts := List.append_eq_nil_iff.mp whole.symm
        have unmoved : position.read [] position.after [] = position := rfl
        rw [done] at unmoved
        rw [parts.1, parts.2, unmoved]
  | succ fuel inductionHypothesis =>
      intro position next enough
      rw [rounds, List.mem_append, List.mem_singleton]
      constructor
      · rintro (further | rfl)
        · rcases List.mem_flatMap.mp further with ⟨middle, inside, deeper⟩
          rcases mem_unit.mp (List.mem_filter.mp inside).1 with ⟨code, rest, whole, accepted, rfl⟩
          rw [whole, List.length_cons] at enough
          rcases (inductionHypothesis _ next (Nat.le_of_succ_le_succ enough)).mp deeper with
            ⟨text, rest', whole', all, rfl⟩
          have parts : rest = text ++ rest' := whole'
          refine ⟨code :: text, rest', ?_, ?_, ?_⟩
          · rw [whole, parts, List.cons_append]
          · intro other member
            rcases List.mem_cons.mp member with rfl | later
            · exact accepted
            · exact all other later
          · simp only [Position.read, List.reverse_cons, List.append_assoc, List.nil_append]
            rfl
        · exact ⟨[], next.after, rfl, fun _ member => absurd member List.not_mem_nil, rfl⟩
      · rintro ⟨text, rest, whole, all, rfl⟩
        cases text with
        | nil =>
            rw [List.nil_append] at whole
            refine Or.inr ?_
            rw [← whole]
            rfl
        | cons code text =>
            rw [List.cons_append] at whole
            refine Or.inl (List.mem_flatMap.mpr ⟨position.read [code] (text ++ rest) [], ?_, ?_⟩)
            · refine List.mem_filter.mpr ⟨mem_unit.mpr ⟨code, text ++ rest, whole,
                all code List.mem_cons_self, rfl⟩, ?_⟩
              rw [decide_eq_true_eq, whole]
              exact Nat.lt_succ_self _
            · rw [whole, List.length_cons] at enough
              refine (inductionHypothesis _ _ (Nat.le_of_succ_le_succ enough)).mpr ⟨text, rest, rfl,
                fun other member => all other (List.mem_cons_of_mem code member), ?_⟩
              simp only [Position.read, List.reverse_cons, List.append_assoc, List.nil_append]
              rfl
/-- A run of units of one kind. -/
theorem Reads.star (holds : UInt16 -> Bool) :
    Reads (.star (.unit holds)) (only fun text =>
      forall code, code ∈ text -> holds code = true) := by
  intro position next
  refine (mem_rounds_unit holds position.after.length position next (Nat.le_refl _)).trans ?_
  constructor
  · rintro ⟨text, rest, whole, all, same⟩
    exact ⟨text, rest, [], whole, ⟨all, rfl⟩, same⟩
  · rintro ⟨text, rest, groups, whole, ⟨all, rfl⟩, same⟩
    exact ⟨text, rest, whole, all, same⟩

theorem Reads.congr {pattern : RegExp} {language language' : Language}
    (reads : Reads pattern language)
    (same : forall text groups, language text groups ↔ language' text groups) :
    Reads pattern language' := by
  intro position next
  rw [reads position next]
  simp only [same]

theorem Reads.onlySeq {first second : RegExp} {front back : JsString -> Prop}
    (reads : Reads first (only front)) (reads' : Reads second (only back)) :
    Reads (.seq first second) (only fun text => Exists fun before => Exists fun behind =>
      text = before ++ behind ∧ front before ∧ back behind) := by
  refine (reads.seq reads').congr fun text groups => ?_
  constructor
  · rintro ⟨before, behind, inner, outer, whole, rfl, ⟨known, rfl⟩, known', rfl⟩
    exact ⟨⟨before, behind, whole, known, known'⟩, rfl⟩
  · rintro ⟨⟨before, behind, whole, known, known'⟩, rfl⟩
    exact ⟨before, behind, [], [], whole, rfl, ⟨known, rfl⟩, known', rfl⟩

theorem Reads.optional {body : RegExp} {texts : JsString -> Prop}
    (reads : Reads body (only texts)) :
    Reads (optional body) (only fun text => texts text ∨ text = []) := by
  refine (reads.either Reads.empty).congr fun text groups => ?_
  exact or_and_right.symm

theorem Reads.one (character : Char) :
    Reads (one character) (only (· = [JavaScript.unit character])) := by
  refine (Reads.unit _).congr fun text groups => and_congr_left fun _ => ?_
  constructor
  · rintro ⟨code, rfl, same⟩
    rw [beq_iff_eq.mp same]
  · rintro rfl
    exact ⟨_, rfl, beq_self_eq_true _⟩

theorem Reads.word (characters : String) :
    Reads (word characters) (only (· = literal characters)) := by
  unfold RegExp.word literal
  induction characters.toList with
  | nil => exact Reads.empty
  | cons character rest inductionHypothesis =>
      refine ((Reads.one character).onlySeq inductionHypothesis).congr fun text groups =>
        and_congr_left fun _ => ?_
      constructor
      · rintro ⟨before, behind, rfl, rfl, rfl⟩
        rfl
      · rintro rfl
        exact ⟨_, _, rfl, rfl, rfl⟩

theorem Reads.plus (holds : UInt16 -> Bool) :
    Reads (plus (.unit holds))
      (only fun text => text ≠ [] ∧ forall code, code ∈ text -> holds code = true) := by
  refine ((Reads.unit holds).onlySeq (Reads.star holds)).congr fun text groups =>
    and_congr_left fun _ => ?_
  constructor
  · rintro ⟨before, behind, rfl, ⟨code, rfl, accepted⟩, all⟩
    exact ⟨List.cons_ne_nil code behind, List.forall_mem_cons.mpr ⟨accepted, all⟩⟩
  · rintro ⟨some', all⟩
    cases text with
    | nil => exact absurd rfl some'
    | cons code rest =>
        have each := List.forall_mem_cons.mp all
        exact ⟨[code], rest, rfl, ⟨code, rfl, each.1⟩, each.2⟩

theorem Reads.times (holds : UInt16 -> Bool) (count : Nat) :
    Reads (times (.unit holds) count)
      (only fun text => text.length = count ∧ forall code, code ∈ text -> holds code = true) := by
  induction count with
  | zero =>
      refine Reads.empty.congr fun text groups => and_congr_left fun _ => ?_
      constructor
      · rintro rfl
        exact ⟨rfl, fun _ member => absurd member List.not_mem_nil⟩
      · exact fun known => List.length_eq_zero_iff.mp known.1
  | succ count inductionHypothesis =>
      refine ((Reads.unit holds).onlySeq inductionHypothesis).congr fun text groups =>
        and_congr_left fun _ => ?_
      constructor
      · rintro ⟨before, behind, rfl, ⟨code, rfl, accepted⟩, counted, all⟩
        exact ⟨congrArg Nat.succ counted, List.forall_mem_cons.mpr ⟨accepted, all⟩⟩
      · rintro ⟨counted, all⟩
        cases text with
        | nil => exact absurd counted (Nat.succ_ne_zero count).symm
        | cons code rest =>
            have each := List.forall_mem_cons.mp all
            exact ⟨[code], rest, rfl, ⟨code, rfl, each.1⟩, Nat.succ.inj counted, each.2⟩

theorem Reads.upTo (holds : UInt16 -> Bool) (count : Nat) :
    Reads (upTo (.unit holds) count)
      (only fun text => text.length ≤ count ∧ forall code, code ∈ text -> holds code = true) := by
  induction count with
  | zero =>
      refine Reads.empty.congr fun text groups => and_congr_left fun _ => ?_
      constructor
      · rintro rfl
        exact ⟨Nat.le_refl 0, fun _ member => absurd member List.not_mem_nil⟩
      · exact fun known => List.length_eq_zero_iff.mp (Nat.le_zero.mp known.1)
  | succ count inductionHypothesis =>
      refine ((Reads.unit holds).onlySeq inductionHypothesis).optional.congr fun text groups =>
        and_congr_left fun _ => ?_
      constructor
      · rintro (⟨before, behind, rfl, ⟨code, rfl, accepted⟩, counted, all⟩ | rfl)
        · exact ⟨Nat.succ_le_succ counted, List.forall_mem_cons.mpr ⟨accepted, all⟩⟩
        · exact ⟨Nat.zero_le _, fun _ member => absurd member List.not_mem_nil⟩
      · rintro ⟨counted, all⟩
        cases text with
        | nil => exact Or.inr rfl
        | cons code rest =>
            have each := List.forall_mem_cons.mp all
            exact Or.inl ⟨[code], rest, rfl, ⟨code, rfl, each.1⟩, Nat.le_of_succ_le_succ counted,
              each.2⟩

/-- The outcomes are the ways to read the whole rest as a text of the language. -/
def ReadsAll (pattern : RegExp) (language : Language) : Prop :=
  forall position next, next ∈ outcomes pattern position ↔
    Exists fun groups => language position.after groups ∧
      next = position.read position.after [] groups

theorem ReadsAll.finish : ReadsAll .finish (only (· = [])) := by
  intro position next
  have unmoved : position.read [] position.after [] = position := rfl
  rw [mem_finish]
  constructor
  · rintro ⟨done, rfl⟩
    refine ⟨[], ⟨done, rfl⟩, ?_⟩
    rw [done] at unmoved
    rw [done, unmoved]
  · rintro ⟨groups, ⟨done, rfl⟩, rfl⟩
    rw [done] at unmoved
    exact ⟨done, by rw [done, unmoved]⟩

theorem ReadsAll.seq {first second : RegExp} {front back : Language} (reads : Reads first front)
    (reads' : ReadsAll second back) : ReadsAll (.seq first second) (chain front back) := by
  intro position next
  rw [mem_seq]
  constructor
  · rintro ⟨middle, before, behind⟩
    rcases (reads position middle).mp before with ⟨text, rest, groups, whole, known, rfl⟩
    rcases (reads' _ next).mp behind with ⟨groups', known', rfl⟩
    refine ⟨groups' ++ groups, ⟨text, rest, groups, groups', whole, rfl, known, known'⟩, ?_⟩
    simp only [Position.read, whole, List.reverse_append, List.append_assoc]
  · rintro ⟨groups, ⟨front, back, inner, outer, whole, rfl, known, known'⟩, rfl⟩
    refine ⟨position.read front back inner, (reads position _).mpr
      ⟨front, back, inner, whole, known,
      rfl⟩, (reads' _ _).mpr ⟨outer, known', ?_⟩⟩
    simp only [Position.read, whole, List.reverse_append, List.append_assoc]

theorem ReadsAll.congr {pattern : RegExp} {language language' : Language}
    (reads : ReadsAll pattern language)
    (same : forall text groups, language text groups ↔ language' text groups) :
    ReadsAll pattern language' := by
  intro position next
  rw [reads position next]
  simp only [same]

/-! ## The first outcome -/

theorem head?_flatMap {next : Position} {steps : Position -> List Position}
    {positions : List Position} (first : (positions.flatMap steps).head? = some next) :
    Exists fun middle => middle ∈ positions ∧ (steps middle).head? = some next := by
  induction positions with
  | nil => exact absurd first (Option.some_ne_none next).symm
  | cons middle positions inductionHypothesis =>
      rw [List.flatMap_cons] at first
      cases found : steps middle with
      | nil =>
          rw [found, List.nil_append] at first
          rcases inductionHypothesis first with ⟨other, member, known⟩
          exact ⟨other, List.mem_cons_of_mem middle member, known⟩
      | cons head tail =>
          rw [found] at first
          exact ⟨middle, List.mem_cons_self, found ▸ first⟩

theorem first_seq {first second : RegExp} {position next : Position}
    (found : (outcomes (.seq first second) position).head? = some next) :
    Exists fun middle => middle ∈ outcomes first position ∧
      (outcomes second middle).head? = some next :=
  head?_flatMap found

theorem rounds_greedy (holds : UInt16 -> Bool) :
    forall fuel position, position.after.length ≤ fuel -> Exists fun others =>
      rounds (outcomes (.unit holds)) fuel position = position.read
        (position.after.takeWhile holds) (position.after.dropWhile holds) [] :: others := by
  intro fuel
  induction fuel with
  | zero =>
      intro position enough
      have done := List.length_eq_zero_iff.mp (Nat.le_zero.mp enough)
      have unmoved : position.read [] position.after [] = position := rfl
      rw [done] at unmoved
      refine ⟨[], ?_⟩
      rw [rounds, done, List.takeWhile_nil, List.dropWhile_nil, unmoved]
  | succ fuel inductionHypothesis =>
      intro position enough
      have unmoved : position.read [] position.after [] = position := rfl
      cases after : position.after with
      | nil =>
          rw [after] at unmoved
          refine ⟨[], ?_⟩
          rw [rounds, outcomes, after, List.takeWhile_nil, List.dropWhile_nil, unmoved]
          rfl
      | cons code rest =>
          rw [after, List.length_cons] at enough
          by_cases accepted : holds code = true
          · rcases inductionHypothesis (position.read [code] rest [])
                (Nat.le_of_succ_le_succ enough) with
              ⟨others, further⟩
            have step : outcomes (.unit holds) position = [position.read [code] rest []] := by
              rw [outcomes, after]
              exact if_pos accepted
            have short : (position.read [code] rest []).after.length < (code :: rest).length :=
              Nat.lt_succ_self _
            refine ⟨others ++ [position], ?_⟩
            rw [rounds, step, List.filter_cons_of_pos (by rw [after]; exact decide_eq_true short),
              List.filter_nil, List.flatMap_singleton, further, List.takeWhile_cons_of_pos accepted,
              List.dropWhile_cons_of_pos accepted, List.cons_append]
            simp only [Position.read, List.reverse_cons, List.append_assoc, List.nil_append]
            rfl
          · have step : outcomes (.unit holds) position = [] := by
              rw [outcomes, after]
              exact if_neg accepted
            rw [after] at unmoved
            refine ⟨[], ?_⟩
            rw [rounds, step, List.takeWhile_cons_of_neg accepted,
              List.dropWhile_cons_of_neg accepted, unmoved]
            rfl

/-- A run prefers to read as far as it can. -/
theorem star_greedy (holds : UInt16 -> Bool) (position : Position) :
    Exists fun others => outcomes (.star (.unit holds)) position =
      position.read (position.after.takeWhile holds) (position.after.dropWhile holds) []
        :: others :=
  rounds_greedy holds position.after.length position (Nat.le_refl _)

/-- The first match with a run in the middle lets the run read as far as it can,
if what follows may also begin later. -/
theorem first_star_seq {holds : UInt16 -> Bool} {rest : RegExp} {language : Language}
    (reads : ReadsAll rest language)
    (later : forall front back groups, language (front ++ back) groups ->
      Exists fun groups => language back groups)
    {position found : Position}
    (first : (outcomes (.seq (.star (.unit holds)) rest) position).head? = some found) :
    Exists fun groups => language (position.after.dropWhile holds) groups ∧
      found = position.read position.after [] groups := by
  rcases star_greedy holds position with ⟨others, greedy⟩
  have whole : position.after.takeWhile holds ++ position.after.dropWhile holds = position.after :=
    List.takeWhile_append_dropWhile
  cases here : outcomes rest (position.read (position.after.takeWhile holds)
      (position.after.dropWhile holds) []) with
  | nil =>
      -- another end of the run would leave more for the rest than this one
      rcases mem_seq.mp (List.mem_of_head? first) with ⟨middle, run, behind⟩
      rcases (Reads.star holds position middle).mp run with ⟨text, rest', _, parts, ⟨all, -⟩, rfl⟩
      rcases (reads _ found).mp behind with ⟨groups, known, -⟩
      have dropped : position.after.dropWhile holds = rest'.dropWhile holds := by
        rw [parts, List.dropWhile_append_of_pos all]
      have split : rest' = rest'.takeWhile holds ++ position.after.dropWhile holds := by
        rw [dropped, List.takeWhile_append_dropWhile]
      have known' : language rest' groups := known
      rw [split] at known'
      rcases later _ _ groups known' with ⟨groups', known''⟩
      have member := (reads (position.read (position.after.takeWhile holds)
        (position.after.dropWhile holds) []) _).mpr ⟨groups', known'', rfl⟩
      rw [here] at member
      exact absurd member List.not_mem_nil
  | cons head tail =>
      have same : head = found := by
        rw [outcomes, greedy, List.flatMap_cons, here] at first
        exact Option.some.inj first
      have member : found ∈ outcomes rest (position.read (position.after.takeWhile holds)
          (position.after.dropWhile holds) []) := by
        rw [here, same]
        exact List.mem_cons_self
      rcases (reads _ found).mp member with ⟨groups, known, rfl⟩
      refine ⟨groups, known, ?_⟩
      have read : (position.after.dropWhile holds).reverse ++
          ((position.after.takeWhile holds).reverse ++ position.before) =
            position.after.reverse ++ position.before := by
        rw [← List.append_assoc, ← List.reverse_append, whole]
      change Position.mk _ _ _ = Position.mk _ _ _
      rw [← read]
      rfl

/-- A match lies behind what was passed over. -/
theorem search_some {pattern : RegExp} {found : Position} {after : JsString} :
    forall {before skipped}, pattern.search before after = some (skipped, found) ->
      Exists fun rest => after = skipped ++ rest ∧
        found ∈ outcomes pattern ⟨skipped.reverse ++ before, rest, []⟩ := by
  induction after with
  | nil =>
      intro before skipped searched
      rcases Option.map_eq_some_iff.mp searched with ⟨next, here, same⟩
      cases same
      exact ⟨[], rfl, List.mem_of_head? here⟩
  | cons code rest inductionHypothesis =>
      intro before skipped searched
      rw [search] at searched
      cases here : matchAt pattern before (code :: rest) with
      | some next =>
          rw [here] at searched
          cases searched
          exact ⟨code :: rest, rfl, List.mem_of_head? here⟩
      | none =>
          rw [here] at searched
          rcases Option.map_eq_some_iff.mp searched with ⟨⟨passed, next⟩, later, same⟩
          cases same
          rcases inductionHypothesis later with ⟨behind, whole, member⟩
          refine ⟨behind, by rw [whole, List.cons_append], ?_⟩
          rw [List.reverse_cons, List.append_assoc]
          exact member

theorem search_start {pattern : RegExp} {code : UInt16} {before : JsString} (after : JsString) :
    search (.seq .start pattern) (code :: before) after = none := by
  induction after generalizing code before with
  | nil => rfl
  | cons next rest inductionHypothesis =>
      have here : matchAt (.seq .start pattern) (code :: before) (next :: rest) = none := rfl
      rw [search, here, inductionHypothesis]
      rfl

/-- A pattern that begins with `^` is matched at the start of the text. -/
theorem exec_start (pattern : RegExp) (text : JsString) :
    exec (.seq .start pattern) text = (outcomes pattern ⟨[], text, []⟩).head? := by
  have here : matchAt (.seq .start pattern) [] text = (outcomes pattern ⟨[], text, []⟩).head? := by
    rw [matchAt, outcomes]
    exact congrArg List.head? (List.append_nil _)
  cases text with
  | nil =>
      rw [exec, search, here]
      cases (outcomes pattern ⟨[], [], []⟩).head? with
      | none => rfl
      | some found => rfl
  | cons code rest =>
      rw [exec, search, here, search_start]
      cases (outcomes pattern ⟨[], code :: rest, []⟩).head? with
      | none => rfl
      | some found => rfl

/-- Such a pattern with an end matches the whole text in the ways of its language. -/
theorem exec_all {pattern : RegExp} {language : Language} (reads : ReadsAll pattern language)
    {text : JsString} {found : Position} (executed : exec (.seq .start pattern) text = some found) :
    language text found.groups := by
  rw [exec_start] at executed
  rcases (reads _ found).mp (List.mem_of_head? executed) with ⟨groups, known, rfl⟩
  change language text (groups ++ [])
  rw [List.append_nil]
  exact known

theorem exec_none {pattern : RegExp} {language : Language} (reads : ReadsAll pattern language)
    {text : JsString} (executed : exec (.seq .start pattern) text = none)
    (groups : List (Nat × JsString)) : ¬ language text groups := by
  intro known
  rw [exec_start, List.head?_eq_none_iff] at executed
  have member := (reads ⟨[], text, []⟩ _).mpr ⟨groups, known, rfl⟩
  rw [executed] at member
  exact List.not_mem_nil member

end RegExp
end JavaScript
