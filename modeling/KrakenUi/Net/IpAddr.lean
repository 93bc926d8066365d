import KrakenUi.Net.Numeral
import Mathlib.Data.List.Induction

namespace Net

/-!
# Internet addresses and how they are printed

The two kinds of address and the text that the standard library prints for
each.  An IPv6 address is printed in hexadecimal groups with the longest run of
zero groups left out, and an address that maps an IPv4 address ends in it.

The text of an address uses few characters, and determines the address.
-/

inductive IpAddr where
  | v4 (octets : Vector UInt8 4)
  | v6 (segments : Vector UInt16 8)
  deriving DecidableEq

namespace IpAddr

/-- A run of consecutive groups. -/
structure Span where
  start : Nat
  len : Nat
  deriving DecidableEq

/-- The scan for the longest run of zeros: position, longest run, current run. -/
structure Scan where
  index : Nat
  longest : Span
  current : Span

namespace Scan

def step (scan : Scan) (segment : UInt16) : Scan :=
  if segment = 0 then
    let start := if scan.current.len = 0 then scan.index else scan.current.start
    let current : Span := ⟨start, scan.current.len + 1⟩
    { index := scan.index + 1
      longest := if scan.longest.len < current.len then current else scan.longest
      current := current }
  else { index := scan.index + 1, longest := scan.longest, current := ⟨0, 0⟩ }

end Scan

def zeroes (segments : List UInt16) : Span :=
  (segments.foldl Scan.step ⟨0, ⟨0, 0⟩, ⟨0, 0⟩⟩).longest

def dotted (octets : List UInt8) : List Char :=
  ['.'].intercalate (octets.map fun octet => Nat.toDigits 10 octet.toNat)

def group (segment : UInt16) : List Char := Nat.toDigits 16 segment.toNat

def fmtSubslice (chunk : List UInt16) : List Char :=
  [':'].intercalate (chunk.map group)

/-- The IPv4 address that an IPv6 address maps, if it does. -/
def toIpv4Mapped : List UInt16 -> Option (List UInt8)
  | [0, 0, 0, 0, 0, 0xffff, upper, lower] =>
      some [(upper >>> 8).toUInt8, upper.toUInt8, (lower >>> 8).toUInt8, lower.toUInt8]
  | _ => none

def fmtSegments (segments : List UInt16) : List Char :=
  let zeroes := zeroes segments
  if 1 < zeroes.len then
    fmtSubslice (segments.take zeroes.start) ++ [':', ':'] ++
      fmtSubslice (segments.drop (zeroes.start + zeroes.len))
  else fmtSubslice segments

def chars : IpAddr -> List Char
  | v4 octets => dotted octets.toList
  | v6 segments =>
      match toIpv4Mapped segments.toList with
      | some octets => "::ffff:".toList ++ dotted octets
      | none => fmtSegments segments.toList

/-- `Display`. -/
def toString (address : IpAddr) : String := String.ofList address.chars

example : (v6 #v[0x2001, 0xdb8, 0, 0, 1, 0, 0, 1]).toString = "2001:db8::1:0:0:1" := by decide

/-! ## The characters of the text -/

/-- What an address may be written with. -/
def IsAddressChar (c : Char) : Prop := Numeral.IsHexDigit c ∨ c = '.' ∨ c = ':'

instance (c : Char) : Decidable (IsAddressChar c) :=
  inferInstanceAs (Decidable (_ ∨ _ ∨ _))

theorem mem_intercalate {α : Type} {separator : α} {pieces : List (List α)} {c : α}
    (member : c ∈ [separator].intercalate pieces) :
    c = separator ∨ Exists fun piece => piece ∈ pieces ∧ c ∈ piece := by
  induction pieces with
  | nil => cases member
  | cons piece rest inductionHypothesis =>
      cases rest with
      | nil =>
          rw [List.intercalate_singleton] at member
          exact Or.inr ⟨piece, List.mem_singleton_self _, member⟩
      | cons next rest =>
          rw [List.intercalate_cons_cons] at member
          rcases List.mem_append.mp member with before | after
          · rcases List.mem_append.mp before with first | between
            · exact Or.inr ⟨piece, List.mem_cons_self, first⟩
            · exact Or.inl (List.mem_singleton.mp between)
          · rcases inductionHypothesis after with same | ⟨other, among, inside⟩
            · exact Or.inl same
            · exact Or.inr ⟨other, List.mem_cons_of_mem _ among, inside⟩

theorem dotted_mem {octets : List UInt8} {c : Char} (member : c ∈ dotted octets) :
    Numeral.IsHexDigit c ∨ c = '.' := by
  rcases mem_intercalate member with same | ⟨piece, among, inside⟩
  · exact Or.inr same
  · rcases List.mem_map.mp among with ⟨octet, -, rfl⟩
    exact Or.inl (Numeral.isHexDigit_of_mem (by decide) (by decide) _ c inside)

theorem fmtSubslice_mem {chunk : List UInt16} {c : Char} (member : c ∈ fmtSubslice chunk) :
    Numeral.IsHexDigit c ∨ c = ':' := by
  rcases mem_intercalate member with same | ⟨piece, among, inside⟩
  · exact Or.inr same
  · rcases List.mem_map.mp among with ⟨segment, -, rfl⟩
    exact Or.inl (Numeral.isHexDigit_of_mem (by decide) (by decide) _ c inside)

theorem fmtSegments_mem {segments : List UInt16} {c : Char} (member : c ∈ fmtSegments segments) :
    Numeral.IsHexDigit c ∨ c = ':' := by
  unfold fmtSegments at member
  dsimp only at member
  split at member
  · rcases List.mem_append.mp member with before | after
    · rcases List.mem_append.mp before with first | between
      · exact fmtSubslice_mem first
      · simp only [List.mem_cons, List.not_mem_nil, or_false, or_self] at between
        exact Or.inr between
    · exact fmtSubslice_mem after
  · exact fmtSubslice_mem member

/-- An address is written in hexadecimal digits, dots and colons. -/
theorem isAddressChar_of_mem (address : IpAddr) :
    forall c, c ∈ address.toString.toList -> IsAddressChar c := by
  intro c member
  unfold toString at member
  rw [String.toList_ofList] at member
  cases address with
  | v4 octets => exact (dotted_mem member).imp id Or.inl
  | v6 segments =>
      unfold chars at member
      cases mapped : toIpv4Mapped segments.toList with
      | some octets =>
          simp only [mapped] at member
          rcases List.mem_append.mp member with before | after
          · have lead : "::ffff:".toList.all (fun c => decide (IsAddressChar c)) = true := by decide
            exact of_decide_eq_true (List.all_eq_true.mp lead c before)
          · exact (dotted_mem after).imp id Or.inl
      | none =>
          simp only [mapped] at member
          exact (fmtSegments_mem member).imp id Or.inr

/-! ## The text determines the address -/

theorem dotted_injective {left right : List UInt8} (leftSome : left ≠ []) (rightSome : right ≠ [])
    (same : dotted left = dotted right) : left = right := by
  have dotless : forall octets : List UInt8, forall piece,
      piece ∈ octets.map (fun octet => Nat.toDigits 10 octet.toNat) -> '.' ∉ piece := by
    intro octets piece among inside
    rcases List.mem_map.mp among with ⟨octet, -, rfl⟩
    exact absurd (Numeral.isHexDigit_of_mem (by decide) (by decide) _ _ inside) (by decide)
  have pieces := congrArg (List.splitOn '.') same
  unfold dotted at pieces
  rw [List.splitOn_intercalate _ (dotless left) (by simpa using leftSome),
    List.splitOn_intercalate _ (dotless right) (by simpa using rightSome)] at pieces
  apply List.map_injective_iff.mpr _ pieces
  intro octet other digits
  exact UInt8.toNat_inj.mp (Numeral.toDigits_injective (by decide) (by decide) digits)

theorem toIpv4Mapped_injective {left right : List UInt16} {octets : List UInt8}
    (leftMaps : toIpv4Mapped left = some octets) (rightMaps : toIpv4Mapped right = some octets) :
    left = right := by
  have halves : forall group other : UInt16, (group >>> 8).toUInt8 = (other >>> 8).toUInt8 ->
      group.toUInt8 = other.toUInt8 -> group = other := by
    intro group other upper lower
    have upperNat := congrArg UInt8.toNat upper
    have lowerNat := congrArg UInt8.toNat lower
    simp only [UInt16.toNat_toUInt8, UInt16.toNat_shiftRight] at upperNat lowerNat
    have shift : (8 : UInt16).toNat % 16 = 8 := by decide
    rw [shift, Nat.shiftRight_eq_div_pow, Nat.shiftRight_eq_div_pow] at upperNat
    have groupBound := group.toNat_lt
    have otherBound := other.toNat_lt
    apply UInt16.toNat_inj.mp
    omega
  unfold toIpv4Mapped at leftMaps rightMaps
  split at leftMaps
  · split at rightMaps
    · cases leftMaps
      simp only [Option.some.injEq, List.cons.injEq, and_true] at rightMaps
      rcases rightMaps with ⟨upperHigh, upperLow, lowerHigh, lowerLow⟩
      rw [halves _ _ upperHigh upperLow, halves _ _ lowerHigh lowerLow]
    · cases rightMaps
  · cases leftMaps

/-- Every group of the run is zero. -/
def Span.Zero (span : Span) (segments : List UInt16) : Prop :=
  forall index, span.start ≤ index -> index < span.start + span.len -> segments[index]? = some 0

theorem Span.Zero.append {span : Span} {segments more : List UInt16}
    (zero : span.Zero segments) : span.Zero (segments ++ more) := by
  intro index lower upper
  have found := zero index lower upper
  have inside : index < segments.length := (List.getElem?_eq_some_iff.mp found).1
  rw [List.getElem?_append_left inside]
  exact found

/-- The runs that a scan remembers, after these groups, are runs of zeros. -/
structure Scan.Sound (scan : Scan) (segments : List UInt16) : Prop where
  index : scan.index = segments.length
  longest : scan.longest.Zero segments
  current : scan.current.Zero segments
  open' : 0 < scan.current.len -> scan.current.start + scan.current.len = segments.length

theorem Scan.Sound.step {scan : Scan} {segments : List UInt16} (sound : scan.Sound segments)
    (segment : UInt16) : (scan.step segment).Sound (segments ++ [segment]) := by
  unfold Scan.step
  by_cases zero : segment = 0
  · rw [if_pos zero]
    dsimp only
    have position := sound.index
    have grown : Span.Zero
        ⟨if scan.current.len = 0 then scan.index else scan.current.start, scan.current.len + 1⟩
        (segments ++ [segment]) := by
      intro index lower upper
      dsimp only at lower upper
      by_cases last : index = segments.length
      · rw [last, List.getElem?_append_right (Nat.le_refl _), Nat.sub_self, zero]
        rfl
      · have opened := sound.open'
        split at lower
        · rename_i empty
          rw [if_pos empty] at upper
          omega
        · rename_i running
          rw [if_neg running] at upper
          exact sound.current.append index lower (by omega)
    constructor
    · simp [position]
    · split
      · exact grown
      · exact sound.longest.append
    · exact grown
    · intro _
      have opened := sound.open'
      dsimp only
      rw [List.length_append, List.length_singleton]
      split <;> omega
  · rw [if_neg zero]
    constructor
    · simp [sound.index]
    · exact sound.longest.append
    · intro index lower upper
      dsimp only at lower upper
      omega
    · intro impossible
      exact absurd impossible (Nat.lt_irrefl 0)

/-- What a scan keeps group by group holds after the scan. -/
theorem scanned {kept : Scan -> List UInt16 -> Prop} (start : kept ⟨0, ⟨0, 0⟩, ⟨0, 0⟩⟩ [])
    (step : forall scan segments segment, kept scan segments ->
      kept (scan.step segment) (segments ++ [segment])) (segments : List UInt16) :
    kept (segments.foldl Scan.step ⟨0, ⟨0, 0⟩, ⟨0, 0⟩⟩) segments := by
  induction segments using List.reverseRecOn with
  | nil => exact start
  | append_singleton segments segment inductionHypothesis =>
      rw [List.foldl_append]
      exact step _ segments segment inductionHypothesis

theorem scanned_sound (segments : List UInt16) :
    (segments.foldl Scan.step ⟨0, ⟨0, 0⟩, ⟨0, 0⟩⟩).Sound segments := by
  apply scanned
  · have blank : Span.Zero ⟨0, 0⟩ ([] : List UInt16) := by
      intro index lower upper
      dsimp only at lower upper
      omega
    exact ⟨rfl, blank, blank, fun impossible => absurd impossible (Nat.lt_irrefl 0)⟩
  · intro scan segments segment sound
    exact sound.step segment

/-- The groups that are left out are zero. -/
theorem zeroes_zero (segments : List UInt16) : (zeroes segments).Zero segments :=
  (scanned_sound segments).longest

/-- The longest run has ended at a group that is not zero, or is the current run. -/
def Scan.Closed (scan : Scan) (segments : List UInt16) : Prop :=
  (scan.longest.start + scan.longest.len = segments.length ∧
      scan.longest.len ≤ scan.current.len) ∨
    Exists fun group => segments[scan.longest.start + scan.longest.len]? = some group ∧ group ≠ 0

theorem Scan.Closed.step {scan : Scan} {segments : List UInt16} (sound : scan.Sound segments)
    (closed : scan.Closed segments) (segment : UInt16) :
    (scan.step segment).Closed (segments ++ [segment]) := by
  have lasting : forall {group : UInt16},
      segments[scan.longest.start + scan.longest.len]? = some group ->
      (segments ++ [segment])[scan.longest.start + scan.longest.len]? = some group := by
    intro group found
    rw [List.getElem?_append_left (List.getElem?_eq_some_iff.mp found).1]
    exact found
  unfold Scan.step
  by_cases zero : segment = 0
  · rw [if_pos zero]
    dsimp only
    by_cases longer : scan.longest.len < scan.current.len + 1
    · rw [if_pos longer]
      apply Or.inl
      have opened := sound.open'
      have position := sound.index
      dsimp only
      rw [List.length_append, List.length_singleton]
      split <;> omega
    · rw [if_neg longer]
      rcases closed with ended | ⟨group, found, apart⟩
      · exact absurd (Nat.lt_succ_of_le ended.2) longer
      · exact Or.inr ⟨group, lasting found, apart⟩
  · rw [if_neg zero]
    apply Or.inr
    rcases closed with ended | ⟨group, found, apart⟩
    · refine ⟨segment, ?_, zero⟩
      dsimp only
      rw [ended.1, List.getElem?_append_right (Nat.le_refl _), Nat.sub_self]
      rfl
    · exact ⟨group, lasting found, apart⟩

/-- The run that is left out does not go on. -/
theorem zeroes_closed (segments : List UInt16) {group : UInt16}
    (found : segments[(zeroes segments).start + (zeroes segments).len]? = some group) :
    group ≠ 0 := by
  have both : (segments.foldl Scan.step ⟨0, ⟨0, 0⟩, ⟨0, 0⟩⟩).Sound segments ∧
      (segments.foldl Scan.step ⟨0, ⟨0, 0⟩, ⟨0, 0⟩⟩).Closed segments := by
    refine @scanned (fun scan segments => scan.Sound segments ∧ scan.Closed segments) ?_ ?_ segments
    · exact ⟨scanned_sound [], Or.inl ⟨rfl, Nat.le_refl 0⟩⟩
    · intro scan segments segment kept
      exact ⟨kept.1.step segment, kept.2.step kept.1 segment⟩
  rcases both.2 with ended | ⟨other, same, apart⟩
  · have inside := (List.getElem?_eq_some_iff.mp found).1
    have last : (zeroes segments).start + (zeroes segments).len = segments.length := ended.1
    omega
  · have equal : segments[(zeroes segments).start + (zeroes segments).len]? = some other := same
    rw [found] at equal
    rw [Option.some.inj equal]
    exact apart

/-- So the groups around them determine all groups. -/
theorem Span.Zero.split {span : Span} {segments : List UInt16} (zero : span.Zero segments)
    (several : 0 < span.len) :
    segments = segments.take span.start ++ List.replicate span.len 0 ++
      segments.drop (span.start + span.len) := by
  have inside : span.start + span.len ≤ segments.length := by
    have found := zero (span.start + span.len - 1) (by omega) (by omega)
    have bound := (List.getElem?_eq_some_iff.mp found).1
    omega
  have middle : (segments.drop span.start).take span.len = List.replicate span.len 0 := by
    apply List.ext_getElem?
    intro index
    by_cases within : index < span.len
    · rw [List.getElem?_take_of_lt within, List.getElem?_drop, List.getElem?_replicate,
        if_pos within]
      exact zero _ (by omega) (by omega)
    · rw [List.getElem?_eq_none (by simp; omega), List.getElem?_eq_none (by simp; omega)]
  rw [← middle, List.append_assoc, ← List.drop_drop, List.take_append_drop,
    List.take_append_drop]

/-- The pieces between the colons on one side of the gap. -/
def side (chunk : List UInt16) : List (List Char) :=
  if chunk = [] then [[]] else chunk.map group

theorem side_ne_nil (chunk : List UInt16) : side chunk ≠ [] := by
  unfold side
  split
  · exact List.cons_ne_nil _ _
  · rename_i some
    simpa using some

theorem intercalate_side (chunk : List UInt16) : [':'].intercalate (side chunk) =
    fmtSubslice chunk := by
  unfold side fmtSubslice
  split
  · rename_i none
    subst none
    rfl
  · rfl

theorem intercalate_append {α : Type} {separator : List α} {left right : List (List α)}
    (leftSome : left ≠ []) (rightSome : right ≠ []) :
    separator.intercalate (left ++ right) =
      separator.intercalate left ++ separator ++ separator.intercalate right := by
  induction left with
  | nil => exact absurd rfl leftSome
  | cons first rest inductionHypothesis =>
      cases rest with
      | nil =>
          rw [List.singleton_append, List.intercalate_cons_of_ne_nil rightSome,
            List.intercalate_singleton]
      | cons next rest =>
          have later := inductionHypothesis (List.cons_ne_nil _ _)
          rw [List.cons_append, List.intercalate_cons_of_ne_nil (by simp), later,
            List.intercalate_cons_cons]
          simp only [List.append_assoc]

/-- The text with a gap, by its pieces. -/
theorem gapped (before after : List UInt16) :
    fmtSubslice before ++ [':', ':'] ++ fmtSubslice after =
      [':'].intercalate (side before ++ ([[]] ++ side after)) := by
  rw [intercalate_append (side_ne_nil _) (by simp), intercalate_append (by simp) (side_ne_nil _),
    intercalate_side, intercalate_side, List.intercalate_singleton]
  simp

theorem group_ne_nil (segment : UInt16) : group segment ≠ [] := Nat.toDigits_ne_nil

theorem group_injective {left right : UInt16} (same : group left = group right) : left = right :=
  UInt16.toNat_inj.mp (Numeral.toDigits_injective (by decide) (by decide) same)

theorem colonless_group {chunk : List UInt16} :
    forall piece, piece ∈ chunk.map group -> ':' ∉ piece := by
  intro piece among inside
  rcases List.mem_map.mp among with ⟨segment, -, rfl⟩
  exact absurd (Numeral.isHexDigit_of_mem (by decide) (by decide) _ _ inside) (by decide)

theorem colonless_side {chunk : List UInt16} : forall piece, piece ∈ side chunk -> ':' ∉ piece := by
  unfold side
  split
  · intro piece among
    rw [List.mem_singleton.mp among]
    exact List.not_mem_nil
  · exact colonless_group

/-- The pieces before the first empty one. -/
theorem takeWhile_side (chunk : List UInt16) (rest : List (List Char)) :
    (side chunk ++ ([] :: rest)).takeWhile (fun piece => decide (piece ≠ [])) =
      chunk.map group := by
  unfold side
  split
  · rename_i none
    subst none
    rfl
  · apply Eq.trans (List.takeWhile_append_of_pos _)
    · simp
    · intro piece among
      rcases List.mem_map.mp among with ⟨segment, -, rfl⟩
      simpa using group_ne_nil segment

theorem map_group_injective {left right : List UInt16}
    (same : left.map group = right.map group) : left = right :=
  List.map_injective_iff.mpr (fun _ _ => group_injective) same

theorem side_reverse (chunk : List UInt16) : (side chunk).reverse = side chunk.reverse := by
  unfold side
  by_cases none : chunk = []
  · subst none
    rfl
  · rw [if_neg none, if_neg (by simpa using none), List.map_reverse]

/-- The pieces around the gap determine both sides. -/
theorem gap_injective {before after before' after' : List UInt16}
    (same : side before ++ ([[]] ++ side after) = side before' ++ ([[]] ++ side after')) :
    before = before' ∧ after = after' := by
  constructor
  · have left := congrArg (List.takeWhile fun piece => decide (piece ≠ [])) same
    rw [List.singleton_append, List.singleton_append, takeWhile_side, takeWhile_side] at left
    exact map_group_injective left
  · have right := congrArg (List.takeWhile fun piece => decide (piece ≠ []))
      (congrArg List.reverse same)
    have mirrored : forall before after : List UInt16,
        (side before ++ ([[]] ++ side after)).reverse =
          side after.reverse ++ ([] :: side before.reverse) := by
      intro before after
      rw [List.reverse_append, List.reverse_append, side_reverse, side_reverse, List.append_assoc]
      rfl
    rw [mirrored, mirrored, takeWhile_side, takeWhile_side] at right
    exact List.reverse_inj.mp (map_group_injective right)

theorem fmtSegments_injective {left right : List UInt16} (leftSome : left ≠ [])
    (rightSome : right ≠ []) (lengths : left.length = right.length)
    (same : fmtSegments left = fmtSegments right) : left = right := by
  have pieces := congrArg (List.splitOn ':') same
  unfold fmtSegments at pieces
  dsimp only at pieces
  have colonless : forall before after : List UInt16, forall piece,
      piece ∈ side before ++ ([[]] ++ side after) -> ':' ∉ piece := by
    intro before after piece among
    rcases List.mem_append.mp among with first | later
    · exact colonless_side piece first
    · rcases List.mem_append.mp later with gap | last
      · rw [List.mem_singleton.mp gap]
        exact List.not_mem_nil
      · exact colonless_side piece last
  have gapless : forall chunk : List UInt16, forall before after : List UInt16,
      chunk.map group ≠ side before ++ ([[]] ++ side after) := by
    intro chunk before after equal
    have member : [] ∈ chunk.map group := by
      rw [equal]
      simp
    rcases List.mem_map.mp member with ⟨segment, -, empty⟩
    exact group_ne_nil segment empty
  have whole : forall chunk : List UInt16, chunk ≠ [] ->
      (fmtSubslice chunk).splitOn ':' = chunk.map group := fun chunk some =>
    List.splitOn_intercalate _ colonless_group (by simpa using some)
  have parted : forall before after : List UInt16,
      ([':'].intercalate (side before ++ ([[]] ++ side after))).splitOn ':' =
        side before ++ ([[]] ++ side after) := fun before after =>
    List.splitOn_intercalate _ (colonless before after) (by simp)
  rw [gapped, gapped] at pieces
  by_cases leftGap : 1 < (zeroes left).len
  · by_cases rightGap : 1 < (zeroes right).len
    · rw [if_pos leftGap, if_pos rightGap, parted, parted] at pieces
      rcases gap_injective pieces with ⟨before, after⟩
      have leftSplit := (zeroes_zero left).split (by omega)
      have rightSplit := (zeroes_zero right).split (by omega)
      have gap : (zeroes left).len = (zeroes right).len := by
        have leftLength := congrArg List.length leftSplit
        have rightLength := congrArg List.length rightSplit
        rw [List.length_append, List.length_append, List.length_replicate, before, after]
          at leftLength
        rw [List.length_append, List.length_append, List.length_replicate] at rightLength
        omega
      rw [leftSplit, before, after, gap]
      exact rightSplit.symm
    · rw [if_pos leftGap, if_neg rightGap, parted, whole right rightSome] at pieces
      exact absurd pieces.symm (gapless _ _ _)
  · by_cases rightGap : 1 < (zeroes right).len
    · rw [if_neg leftGap, if_pos rightGap, parted, whole left leftSome] at pieces
      exact absurd pieces (gapless _ _ _)
    · rw [if_neg leftGap, if_neg rightGap, whole left leftSome, whole right rightSome] at pieces
      exact map_group_injective pieces

theorem colon_fmtSegments {first second : UInt16} {rest : List UInt16} :
    ':' ∈ fmtSegments (first :: second :: rest) := by
  unfold fmtSegments
  dsimp only
  split
  · apply List.mem_append_left
    apply List.mem_append_right
    exact List.mem_cons_self
  · unfold fmtSubslice
    rw [List.map_cons, List.map_cons, List.intercalate_cons_cons]
    apply List.mem_append_left
    apply List.mem_append_right
    exact List.mem_cons_self

theorem dotless_fmtSegments (segments : List UInt16) : '.' ∉ fmtSegments segments := by
  intro inside
  rcases fmtSegments_mem inside with digit | colon
  · exact absurd digit (by decide)
  · exact absurd colon (by decide)

theorem dot_mapped {segments : List UInt16} {octets : List UInt8}
    (maps : toIpv4Mapped segments = some octets) : octets ≠ [] ∧ '.' ∈ dotted octets := by
  unfold toIpv4Mapped at maps
  split at maps
  · cases maps
    constructor
    · exact List.cons_ne_nil _ _
    · unfold dotted
      rw [List.map_cons, List.map_cons, List.intercalate_cons_cons]
      apply List.mem_append_left
      apply List.mem_append_right
      exact List.mem_cons_self
  · cases maps

theorem colon_v6 (segments : Vector UInt16 8) : ':' ∈ (v6 segments).chars := by
  have length : segments.toList.length = 8 := segments.length_toList
  have several : ':' ∈ fmtSegments segments.toList := by
    match parts : segments.toList, length with
    | first :: second :: rest, _ => exact colon_fmtSegments
  unfold chars
  cases maps : toIpv4Mapped segments.toList with
  | some octets =>
      have colon : ':' ∈ "::ffff:".toList := by decide
      simpa only [maps] using List.mem_append_left (dotted octets) colon
  | none => simpa only [maps] using several

theorem colonless_v4 (octets : Vector UInt8 4) : ':' ∉ (v4 octets).chars := by
  intro inside
  rcases dotted_mem inside with digit | dot
  · exact absurd digit (by decide)
  · exact absurd dot (by decide)

theorem v6_injective {left right : Vector UInt16 8} (same : (v6 left).chars = (v6 right).chars) :
    left.toList = right.toList := by
  have leftLength : left.toList.length = 8 := left.length_toList
  have rightLength : right.toList.length = 8 := right.length_toList
  unfold chars at same
  cases leftMaps : toIpv4Mapped left.toList with
  | some octets =>
      cases rightMaps : toIpv4Mapped right.toList with
      | some others =>
          simp only [leftMaps, rightMaps] at same
          have octetsSame := dotted_injective (dot_mapped leftMaps).1 (dot_mapped rightMaps).1
            (List.append_cancel_left same)
          rw [octetsSame] at leftMaps
          exact toIpv4Mapped_injective leftMaps rightMaps
      | none =>
          simp only [leftMaps, rightMaps] at same
          have dot := List.mem_append_right "::ffff:".toList (dot_mapped leftMaps).2
          rw [same] at dot
          exact absurd dot (dotless_fmtSegments _)
  | none =>
      cases rightMaps : toIpv4Mapped right.toList with
      | some others =>
          simp only [leftMaps, rightMaps] at same
          have dot := List.mem_append_right "::ffff:".toList (dot_mapped rightMaps).2
          rw [← same] at dot
          exact absurd dot (dotless_fmtSegments _)
      | none =>
          simp only [leftMaps, rightMaps] at same
          apply fmtSegments_injective _ _ _ same
          · exact List.ne_nil_of_length_pos (by omega)
          · exact List.ne_nil_of_length_pos (by omega)
          · omega

/-- Different addresses are printed differently. -/
theorem toString_injective {left right : IpAddr} (same : left.toString = right.toString) :
    left = right := by
  have texts : left.chars = right.chars := by
    have lists := congrArg String.toList same
    unfold toString at lists
    rw [String.toList_ofList, String.toList_ofList] at lists
    exact lists
  cases left with
  | v4 octets =>
      cases right with
      | v4 others =>
          have leftLength : octets.toList.length = 4 := octets.length_toList
          have rightLength : others.toList.length = 4 := others.length_toList
          congr 1
          apply Vector.toList_inj.mp
          apply dotted_injective _ _ texts
          · exact List.ne_nil_of_length_pos (by omega)
          · exact List.ne_nil_of_length_pos (by omega)
      | v6 segments =>
          have colon := colon_v6 segments
          rw [← texts] at colon
          exact absurd colon (colonless_v4 octets)
  | v6 segments =>
      cases right with
      | v4 octets =>
          have colon := colon_v6 segments
          rw [texts] at colon
          exact absurd colon (colonless_v4 octets)
      | v6 others =>
          congr 1
          exact Vector.toList_inj.mp (v6_injective texts)

end IpAddr
end Net
