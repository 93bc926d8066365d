import KrakenUi.Net.IpAddr

namespace Net
namespace IpParse

/-!
# How internet addresses are read

The recursive descent of the standard library.  A reader takes a prefix of the
text or nothing, and what it leaves is read by the next one.  An IPv6 address
is read up to its gap and from there on, and may end in an IPv4 address.

Every printed address is read as itself.
-/

/-- A reader of a value, with the text behind it. -/
abbrev Reader (value : Type) := List Char -> Option (value × List Char)

/-- `char::to_digit`. -/
def toDigit (radix : Nat) (character : Char) : Option Nat :=
  let code := character.toNat
  let digit :=
    if 48 ≤ code ∧ code ≤ 57 then code - 48
    else if 97 ≤ code ∧ code ≤ 122 then code - 97 + 10
    else if 65 ≤ code ∧ code ≤ 90 then code - 65 + 10
    else radix
  if digit < radix then some digit else none

/-- The digits in front, and the text behind them. -/
def readDigits (radix : Nat) : List Char -> List Nat × List Char
  | [] => ([], [])
  | character :: rest =>
      match toDigit radix character with
      | some digit => (digit :: (readDigits radix rest).1, (readDigits radix rest).2)
      | none => ([], character :: rest)

def valueOf (radix : Nat) (digits : List Nat) : Nat :=
  digits.foldl (fun value digit => value * radix + digit) 0

def readNumber (radix maxDigits : Nat) (allowZeroPrefix : Bool) (limit : Nat) : Reader Nat :=
  fun text =>
    let digits := (readDigits radix text).1
    if maxDigits < digits.length then none
    else if digits.length = 0 then none
    else if !allowZeroPrefix && text.head? == some '0' && decide (1 < digits.length) then none
    else if valueOf radix digits < limit then
      some (valueOf radix digits, (readDigits radix text).2)
    else none

def readGivenChar (expected : Char) : List Char -> Option (List Char)
  | [] => none
  | character :: rest => if character = expected then some rest else none

/-- The separator stands before every item but the first. -/
def readSeparator {value : Type} (separator : Char) (index : Nat) (inner : Reader value) :
    Reader value :=
  fun text =>
    if 0 < index then (readGivenChar separator text).bind inner else inner text

def readOctet : Reader UInt8 := fun text =>
  (readNumber 10 3 false 256 text).map fun read => (UInt8.ofNat read.1, read.2)

def readOctets : Nat -> Nat -> Reader (List UInt8)
  | 0, _, text => some ([], text)
  | remaining + 1, index, text =>
      (readSeparator '.' index readOctet text).bind fun first =>
        (readOctets remaining (index + 1) first.2).map fun later =>
          (first.1 :: later.1, later.2)

def readIpv4Addr : Reader (List UInt8) :=
  readOctets 4 0

def fromBeBytes (upper lower : UInt8) : UInt16 :=
  UInt16.ofNat (upper.toNat * 256 + lower.toNat)

/-- The two groups that an embedded IPv4 address fills. -/
def embedded : List UInt8 -> List UInt16
  | [one, two, three, four] => [fromBeBytes one two, fromBeBytes three four]
  | _ => []

def readGroup : Reader UInt16 := fun text =>
  (readNumber 16 4 true 65536 text).map fun read => (UInt16.ofNat read.1, read.2)

/-- A chunk of groups, whether it ended in an IPv4 address, and the text behind. -/
def readGroups : Nat -> Nat -> List Char -> (List UInt16 × Bool) × List Char
  | 0, _, text => (([], false), text)
  | remaining + 1, index, text =>
      -- An embedded address needs room for two groups.
      match if 0 < remaining then readSeparator ':' index readIpv4Addr text else none with
      | some (octets, rest) => ((embedded octets, true), rest)
      | none =>
          match readSeparator ':' index readGroup text with
          | some (group, rest) =>
              let later := readGroups remaining (index + 1) rest
              ((group :: later.1.1, later.1.2), later.2)
          | none => (([], false), text)

def readIpv6Addr : Reader (List UInt16) := fun text =>
  let head := readGroups 8 0 text
  if head.1.1.length = 8 then some (head.1.1, head.2)
  else if head.1.2 then none
  else
    (readGivenChar ':' head.2).bind fun rest =>
      (readGivenChar ':' rest).map fun rest =>
        let tail := readGroups (8 - (head.1.1.length + 1)) 0 rest
        let gap := 8 - head.1.1.length - tail.1.1.length
        (head.1.1 ++ List.replicate gap 0 ++ tail.1.1, tail.2)

def ofOctets (octets : List UInt8) : IpAddr :=
  IpAddr.v4 (Vector.ofFn fun index => octets.getD index 0)

def ofGroups (groups : List UInt16) : IpAddr :=
  IpAddr.v6 (Vector.ofFn fun index => groups.getD index 0)

def readIpAddr : Reader IpAddr := fun text =>
  match readIpv4Addr text with
  | some (octets, rest) => some (ofOctets octets, rest)
  | none => (readIpv6Addr text).map fun read => (ofGroups read.1, read.2)

/-- `str::parse::<IpAddr>`: the whole text is read. -/
def parse (text : List Char) : Option IpAddr :=
  match readIpAddr text with
  | some (address, []) => some address
  | _ => none

/-! ## Addresses with a port -/

/-- A number behind a character. -/
def readBehind (expected : Char) (limit : Nat) : Reader Nat := fun text =>
  (readGivenChar expected text).bind fun rest => readNumber 10 rest.length true limit rest

def readPort : Reader Nat := readBehind ':' 65536

def readScopeId : Reader Nat := readBehind '%' 4294967296

def readSocketAddrV4 : Reader (IpAddr × Nat) := fun text =>
  (readIpv4Addr text).bind fun address =>
    (readPort address.2).map fun port => ((ofOctets address.1, port.1), port.2)

def readSocketAddrV6 : Reader (IpAddr × Nat) := fun text =>
  (readGivenChar '[' text).bind fun rest =>
    (readIpv6Addr rest).bind fun address =>
      let behind := match readScopeId address.2 with
        | some scope => scope.2
        | none => address.2
      (readGivenChar ']' behind).bind fun rest =>
        (readPort rest).map fun port => ((ofGroups address.1, port.1), port.2)

/-- `str::parse::<SocketAddr>`. -/
def parseSocketAddr (text : List Char) : Option (IpAddr × Nat) :=
  match (readSocketAddrV4 text).or (readSocketAddrV6 text) with
  | some (address, []) => some address
  | _ => none

example : parse "2001:db8::1:0:0:1".toList = some (IpAddr.v6 #v[0x2001, 0xdb8, 0, 0, 1, 0, 0, 1]) := by
  decide

/-! ## Numbers -/

theorem toDigit_digitChar {radix digit : Nat} (small : radix ≤ 16) (below : digit < radix) :
    toDigit radix (Nat.digitChar digit) = some digit := by
  have cases : forall radix, radix ≤ 16 -> forall digit, digit < radix ->
      toDigit radix (Nat.digitChar digit) = some digit := by decide
  exact cases radix small digit below

/-- No digit comes next. -/
def Stops (radix : Nat) (text : List Char) : Prop :=
  forall character, text.head? = some character -> toDigit radix character = none

theorem stops_nil (radix : Nat) : Stops radix [] := by
  intro character first
  cases first

theorem stops_cons {radix : Nat} {character : Char} (none' : toDigit radix character = none)
    (rest : List Char) : Stops radix (character :: rest) := by
  intro other first
  cases first
  exact none'

theorem readDigits_stops {radix : Nat} {text : List Char} (stops : Stops radix text) :
    readDigits radix text = ([], text) := by
  cases text with
  | nil => rfl
  | cons character rest => simp only [readDigits, stops character rfl]

theorem readDigits_append {radix : Nat} {text rest : List Char} {values : List Nat}
    (digits : text.map (toDigit radix) = values.map some) (stops : Stops radix rest) :
    readDigits radix (text ++ rest) = (values, rest) := by
  induction text generalizing values with
  | nil =>
      cases values with
      | nil => exact readDigits_stops stops
      | cons value values => cases digits
  | cons character text inductionHypothesis =>
      cases values with
      | nil => cases digits
      | cons value values =>
          have first := (List.cons.inj digits).1
          have later := inductionHypothesis (List.cons.inj digits).2
          simp only [List.cons_append, readDigits, first, later]

/-- The digits of a written number are read back. -/
theorem toDigits_values {radix : Nat} (least : 1 < radix) (small : radix ≤ 16) (number : Nat) :
    Exists fun values => (Nat.toDigits radix number).map (toDigit radix) = values.map some ∧
      valueOf radix values = number := by
  induction number using Nat.strongRecOn with
  | ind number inductionHypothesis =>
      rw [Nat.toDigits_eq_if least]
      by_cases single : number < radix
      · rw [if_pos single]
        refine ⟨[number], ?_, ?_⟩
        · rw [List.map_singleton, toDigit_digitChar small single]
          rfl
        · simp [valueOf]
      · rw [if_neg single]
        have smaller : number / radix < number := Nat.div_lt_self (by omega) least
        rcases inductionHypothesis _ smaller with ⟨values, digits, value⟩
        have last := Nat.mod_lt number (show 0 < radix by omega)
        refine ⟨values ++ [number % radix], ?_, ?_⟩
        · rw [List.map_append, List.map_append, digits, List.map_singleton,
            toDigit_digitChar small last]
          rfl
        · unfold valueOf at value ⊢
          rw [List.foldl_append, value, List.foldl_cons, List.foldl_nil]
          exact Nat.div_add_mod' number radix

/-- Only zero is written with a zero in front. -/
theorem head_toDigits {radix : Nat} (least : 1 < radix) {number : Nat}
    (zero : (Nat.toDigits radix number).head? = some '0') : number = 0 := by
  induction number using Nat.strongRecOn with
  | ind number inductionHypothesis =>
      rw [Nat.toDigits_eq_if least] at zero
      by_cases single : number < radix
      · rw [if_pos single] at zero
        simpa using zero
      · rw [if_neg single, List.head?_append_of_ne_nil _ Nat.toDigits_ne_nil] at zero
        have smaller : number / radix < number := Nat.div_lt_self (by omega) least
        have quotient := inductionHypothesis _ smaller zero
        have large := Nat.div_pos (show radix ≤ number by omega) (show 0 < radix by omega)
        omega

/-- A written number is read as itself, when it has no more digits than allowed. -/
theorem readNumber_toDigits {radix maxDigits limit number : Nat} {allowZeroPrefix : Bool}
    {rest : List Char} (least : 1 < radix) (small : radix ≤ 16) (below : number < limit)
    (length : (Nat.toDigits radix number).length ≤ maxDigits) (stops : Stops radix rest) :
    readNumber radix maxDigits allowZeroPrefix limit (Nat.toDigits radix number ++ rest) =
      some (number, rest) := by
  rcases toDigits_values least small number with ⟨values, digits, value⟩
  have sizes : (Nat.toDigits radix number).length = values.length := by
    simpa using congrArg List.length digits
  have some' := @Nat.length_toDigits_pos radix number
  have short : ¬ maxDigits < values.length := by omega
  have nonempty : ¬ values.length = 0 := by omega
  have unprefixed : (!allowZeroPrefix &&
      (Nat.toDigits radix number ++ rest).head? == some '0' && decide (1 < values.length)) =
        false := by
    rw [List.head?_append_of_ne_nil _ Nat.toDigits_ne_nil]
    by_cases zero : (Nat.toDigits radix number).head? = some '0'
    · have none' := head_toDigits least zero
      rw [none', Nat.toDigits_eq_if least, if_pos (by omega), List.length_singleton] at sizes
      rw [← sizes]
      simp
    · rw [beq_eq_false_iff_ne.mpr zero, Bool.and_false, Bool.false_and]
  unfold readNumber
  simp only [readDigits_append digits stops, if_neg short, if_neg nonempty, unprefixed, value,
    if_pos below, Bool.false_eq_true, if_false]

theorem readNumber_stops {radix maxDigits limit : Nat} {allowZeroPrefix : Bool}
    {text : List Char} (stops : Stops radix text) :
    readNumber radix maxDigits allowZeroPrefix limit text = none := by
  unfold readNumber
  rw [readDigits_stops stops]
  simp

/-! ## Separators -/

variable {value : Type} {separator : Char} {inner : Reader value}

@[simp] theorem readSeparator_first (text : List Char) :
    readSeparator separator 0 inner text = inner text := rfl

@[simp] theorem readSeparator_later (index : Nat) (text : List Char) :
    readSeparator separator (index + 1) inner text = (readGivenChar separator text).bind inner := rfl

@[simp] theorem readGivenChar_cons (expected : Char) (rest : List Char) :
    readGivenChar expected (expected :: rest) = some rest := if_pos rfl

theorem readGivenChar_absent {expected : Char} {text : List Char}
    (absent : text.head? ≠ some expected) : readGivenChar expected text = none := by
  cases text with
  | nil => rfl
  | cons character rest =>
      apply if_neg
      rintro rfl
      exact absent rfl

/-- Pieces with a separator before each. -/
def trail (separator : Char) (pieces : List (List Char)) : List Char :=
  pieces.flatMap fun piece => separator :: piece

theorem trail_cons (separator : Char) (piece : List Char) (pieces : List (List Char)) :
    trail separator (piece :: pieces) = separator :: (piece ++ trail separator pieces) := by
  simp [trail]

theorem intercalate_trail (separator : Char) (piece : List Char) (pieces : List (List Char)) :
    [separator].intercalate (piece :: pieces) = piece ++ trail separator pieces := by
  induction pieces generalizing piece with
  | nil => rw [List.intercalate_singleton, trail, List.flatMap_nil, List.append_nil]
  | cons next pieces inductionHypothesis =>
      rw [List.intercalate_cons_cons, inductionHypothesis, trail_cons, List.append_assoc]
      rfl

theorem stops_trail {radix : Nat} (apart : toDigit radix separator = none)
    {pieces : List (List Char)} {rest : List Char} (stops : Stops radix rest) :
    Stops radix (trail separator pieces ++ rest) := by
  cases pieces with
  | nil => exact stops
  | cons piece pieces =>
      rw [trail_cons, List.cons_append]
      exact stops_cons apart _

/-! ## What is read -/

/-- What a reader may take: digits and separators. -/
def Legal (character : Char) : Prop :=
  (toDigit 16 character).isSome ∨ character = '.' ∨ character = ':'

instance (character : Char) : Decidable (Legal character) :=
  inferInstanceAs (Decidable (_ ∨ _ ∨ _))

/-- The text in front of the rest has been read. -/
def Consumes (text rest : List Char) : Prop :=
  Exists fun front => text = front ++ rest ∧ forall character, character ∈ front -> Legal character

theorem Consumes.refl (text : List Char) : Consumes text text :=
  ⟨[], rfl, fun _ member => absurd member List.not_mem_nil⟩

theorem Consumes.trans {text middle rest : List Char} (first : Consumes text middle)
    (second : Consumes middle rest) : Consumes text rest := by
  rcases first with ⟨front, rfl, legal⟩
  rcases second with ⟨back, rfl, later⟩
  refine ⟨front ++ back, (List.append_assoc _ _ _).symm, ?_⟩
  intro character member
  rcases List.mem_append.mp member with before | after
  · exact legal character before
  · exact later character after

theorem Consumes.cons {character : Char} (legal : Legal character) (rest : List Char) :
    Consumes (character :: rest) rest := by
  refine ⟨[character], rfl, ?_⟩
  intro other member
  rw [List.mem_singleton.mp member]
  exact legal

/-- A character that no reader takes is still there. -/
theorem Consumes.keeps {text rest : List Char} (consumes : Consumes text rest) {character : Char}
    (illegal : ¬ Legal character) (member : character ∈ text) : character ∈ rest := by
  rcases consumes with ⟨front, rfl, legal⟩
  rcases List.mem_append.mp member with before | after
  · exact absurd (legal character before) illegal
  · exact after

theorem Consumes.sublist {text rest : List Char} (consumes : Consumes text rest)
    {character : Char} (absent : character ∉ text) : character ∉ rest := by
  rcases consumes with ⟨front, rfl, -⟩
  exact fun member => absent (List.mem_append_right front member)

theorem legal_of_toDigit {radix : Nat} (small : radix ≤ 16) {character : Char} {digit : Nat}
    (read : toDigit radix character = some digit) : Legal character := by
  apply Or.inl
  unfold toDigit at read ⊢
  grind

theorem readDigits_consumes {radix : Nat} (small : radix ≤ 16) (text : List Char) :
    Consumes text (readDigits radix text).2 := by
  induction text with
  | nil => exact Consumes.refl []
  | cons character rest inductionHypothesis =>
      cases read : toDigit radix character with
      | none =>
          simp only [readDigits, read]
          exact Consumes.refl _
      | some digit =>
          simp only [readDigits, read]
          exact (Consumes.cons (legal_of_toDigit small read) rest).trans inductionHypothesis

/-- A reader that only takes what it may. -/
def Sound {value : Type} (reader : Reader value) : Prop :=
  forall text read rest, reader text = some (read, rest) -> Consumes text rest

theorem readNumber_sound {radix maxDigits limit : Nat} {allowZeroPrefix : Bool}
    (small : radix ≤ 16) : Sound (readNumber radix maxDigits allowZeroPrefix limit) := by
  intro text read rest done
  have consumes := readDigits_consumes small text
  unfold readNumber at done
  dsimp only at done
  split at done
  · cases done
  · split at done
    · cases done
    · split at done
      · cases done
      · split at done
        · rw [← (Prod.mk.inj (Option.some.inj done)).2]
          exact consumes
        · cases done

theorem Sound.map {value other : Type} {reader : Reader value} (sound : Sound reader)
    (change : value -> other) :
    Sound fun text => (reader text).map fun read => (change read.1, read.2) := by
  intro text read rest done
  rcases Option.map_eq_some_iff.mp done with ⟨before, first, same⟩
  rw [← (Prod.mk.inj same).2]
  exact sound text before.1 before.2 first

theorem readGivenChar_consumes {expected : Char} (legal : Legal expected) {text rest : List Char}
    (read : readGivenChar expected text = some rest) : Consumes text rest := by
  cases text with
  | nil => cases read
  | cons character others =>
      by_cases same : character = expected
      · subst same
        rw [readGivenChar_cons] at read
        rw [← Option.some.inj read]
        exact Consumes.cons legal others
      · rw [readGivenChar, if_neg same] at read
        cases read

theorem Sound.separated (legal : Legal separator) (sound : Sound inner) (index : Nat) :
    Sound (readSeparator separator index inner) := by
  intro text read rest done
  cases index with
  | zero => exact sound text read rest done
  | succ index =>
      rw [readSeparator_later] at done
      rcases Option.bind_eq_some_iff.mp done with ⟨middle, first, second⟩
      exact (readGivenChar_consumes legal first).trans (sound middle read rest second)

theorem readOctets_sound (count index : Nat) : Sound (readOctets count index) := by
  induction count generalizing index with
  | zero =>
      intro text read rest done
      rw [← (Prod.mk.inj (Option.some.inj done)).2]
      exact Consumes.refl text
  | succ count inductionHypothesis =>
      intro text read rest done
      rcases Option.bind_eq_some_iff.mp done with ⟨first, octet, others⟩
      rcases Option.map_eq_some_iff.mp others with ⟨later, octets, same⟩
      rw [← (Prod.mk.inj same).2]
      have octetSound : Sound readOctet := (readNumber_sound (by decide)).map _
      have front := octetSound.separated (by decide) index text first.1 first.2 octet
      exact front.trans (inductionHypothesis (index + 1) first.2 later.1 later.2 octets)

theorem readGroups_consumes (count index : Nat) (text : List Char) :
    Consumes text (readGroups count index text).2 := by
  induction count generalizing index text with
  | zero => exact Consumes.refl text
  | succ count inductionHypothesis =>
      unfold readGroups
      split
      · rename_i octets rest read
        dsimp only
        have octetsSound : Sound readIpv4Addr := readOctets_sound 4 0
        split at read
        · exact octetsSound.separated (by decide) index text octets rest read
        · cases read
      · split
        · rename_i group rest read
          have groupSound : Sound readGroup := (readNumber_sound (by decide)).map _
          have front := groupSound.separated (by decide) index text group rest read
          exact front.trans (inductionHypothesis (index + 1) rest)
        · exact Consumes.refl text

theorem readIpv6Addr_sound : Sound readIpv6Addr := by
  intro text read rest done
  have head := readGroups_consumes 8 0 text
  unfold readIpv6Addr at done
  dsimp only at done
  split at done
  · rw [← (Prod.mk.inj (Option.some.inj done)).2]
    exact head
  · split at done
    · cases done
    · rcases Option.bind_eq_some_iff.mp done with ⟨middle, first, others⟩
      rcases Option.map_eq_some_iff.mp others with ⟨later, second, same⟩
      have colon : Legal ':' := by decide
      have gap := (readGivenChar_consumes colon first).trans (readGivenChar_consumes colon second)
      rw [← (Prod.mk.inj same).2]
      exact (head.trans gap).trans (readGroups_consumes _ 0 later)

theorem readIpAddr_sound : Sound readIpAddr := by
  intro text read rest done
  unfold readIpAddr at done
  split at done
  · rename_i octets others first
    rw [← (Prod.mk.inj (Option.some.inj done)).2]
    exact readOctets_sound 4 0 text octets others first
  · exact readIpv6Addr_sound.map ofGroups text read rest done

/-- Only digits and separators are part of an address. -/
theorem parse_legal {text : List Char} {address : IpAddr} (read : parse text = some address)
    {character : Char} (member : character ∈ text) : Legal character := by
  by_contra illegal
  unfold parse at read
  split at read
  · rename_i found done
    have left := (readIpAddr_sound text _ _ done).keeps illegal member
    exact absurd left List.not_mem_nil
  · cases read

/-! ## IPv4 addresses -/

theorem readOctet_toDigits (octet : UInt8) {rest : List Char} (stops : Stops 10 rest) :
    readOctet (Nat.toDigits 10 octet.toNat ++ rest) = some (octet, rest) := by
  have below : octet.toNat < 256 := octet.toNat_lt
  have length : (Nat.toDigits 10 octet.toNat).length ≤ 3 := by
    apply (Nat.length_toDigits_le_iff (by decide) (by decide)).mpr
    omega
  unfold readOctet
  rw [readNumber_toDigits (by decide) (by decide) below length stops, Option.map_some,
    UInt8.ofNat_toNat]

/-- The text of the octets behind the first. -/
def octetTrail (octets : List UInt8) : List Char :=
  trail '.' (octets.map fun octet => Nat.toDigits 10 octet.toNat)

theorem readOctets_trail {octets : List UInt8} {rest : List Char} (stops : Stops 10 rest)
    (index : Nat) :
    readOctets octets.length (index + 1) (octetTrail octets ++ rest) = some (octets, rest) := by
  induction octets generalizing index with
  | nil => rfl
  | cons octet octets inductionHypothesis =>
      have next : Stops 10 (octetTrail octets ++ rest) := stops_trail (by decide) stops
      have first := readOctet_toDigits octet next
      have later := inductionHypothesis (index + 1)
      unfold octetTrail at first later ⊢
      rw [List.map_cons, trail_cons, List.length_cons, readOctets, readSeparator_later,
        List.cons_append, readGivenChar_cons, Option.bind_some, List.append_assoc, first,
        Option.bind_some, later, Option.map_some]

theorem dotted_cons (octet : UInt8) (octets : List UInt8) :
    IpAddr.dotted (octet :: octets) = Nat.toDigits 10 octet.toNat ++ octetTrail octets :=
  intercalate_trail _ _ _

theorem readIpv4Addr_dotted {octets : List UInt8} (four : octets.length = 4) {rest : List Char}
    (stops : Stops 10 rest) :
    readIpv4Addr (IpAddr.dotted octets ++ rest) = some (octets, rest) := by
  cases octets with
  | nil => cases four
  | cons octet octets =>
      have three : octets.length = 3 := Nat.succ.inj four
      have next : Stops 10 (octetTrail octets ++ rest) := stops_trail (by decide) stops
      have later := @readOctets_trail octets rest stops 0
      rw [three] at later
      unfold readIpv4Addr
      rw [dotted_cons, readOctets, readSeparator_first, List.append_assoc,
        readOctet_toDigits octet next, Option.bind_some, later, Option.map_some]

/-- Without a dot there is no IPv4 address. -/
theorem readIpv4Addr_dotless {text : List Char} (dotless : '.' ∉ text) :
    readIpv4Addr text = none := by
  unfold readIpv4Addr
  rw [readOctets, readSeparator_first]
  cases first : readOctet text with
  | none => rfl
  | some read =>
      have octetSound : Sound readOctet := (readNumber_sound (by decide)).map _
      have absent := (octetSound text read.1 read.2 first).sublist dotless
      have given : readGivenChar '.' read.2 = none :=
        readGivenChar_absent fun found => absent (List.mem_of_mem_head? found)
      rw [Option.bind_some, readOctets, readSeparator_later, given]
      rfl

theorem readIpv4Addr_stops {text : List Char} (stops : Stops 10 text) :
    readIpv4Addr text = none := by
  unfold readIpv4Addr
  rw [readOctets, readSeparator_first, readOctet, readNumber_stops stops]
  rfl

/-! ## IPv6 addresses -/

theorem readGroup_group (group : UInt16) {rest : List Char} (stops : Stops 16 rest) :
    readGroup (IpAddr.group group ++ rest) = some (group, rest) := by
  have below : group.toNat < 65536 := group.toNat_lt
  have length : (Nat.toDigits 16 group.toNat).length ≤ 4 := by
    apply (Nat.length_toDigits_le_iff (by decide) (by decide)).mpr
    omega
  unfold readGroup IpAddr.group
  rw [readNumber_toDigits (by decide) (by decide) below length stops, Option.map_some,
    UInt16.ofNat_toNat]

/-- The text of the groups behind the first. -/
def groupTrail (groups : List UInt16) : List Char :=
  trail ':' (groups.map IpAddr.group)

theorem fmtSubslice_cons (group : UInt16) (groups : List UInt16) :
    IpAddr.fmtSubslice (group :: groups) = IpAddr.group group ++ groupTrail groups :=
  intercalate_trail _ _ _

/-- Behind the last group of a chunk no group follows. -/
def Ends (rest : List Char) : Prop :=
  rest = [] ∨ Exists fun more => rest = ':' :: more ∧ Stops 16 more

theorem ends_gap (rest : List Char) : Ends (':' :: ':' :: rest) :=
  Or.inr ⟨':' :: rest, rfl, stops_cons (by decide) rest⟩

theorem Ends.stops {rest : List Char} (ends : Ends rest) : Stops 16 rest := by
  rcases ends with rfl | ⟨more, rfl, -⟩
  · exact stops_nil 16
  · exact stops_cons (by decide) _

theorem Ends.groupless {rest : List Char} (ends : Ends rest) (index : Nat) :
    readSeparator ':' index readGroup rest = none := by
  have stopped : forall {text : List Char}, Stops 16 text -> readGroup text = none := by
    intro text stops
    rw [readGroup, readNumber_stops stops]
    rfl
  cases index with
  | zero => exact stopped ends.stops
  | succ index =>
      rw [readSeparator_later]
      rcases ends with rfl | ⟨more, rfl, stops⟩
      · rfl
      · rw [readGivenChar_cons, Option.bind_some]
        exact stopped stops

theorem readSeparator_dotless {text : List Char} (dotless : '.' ∉ text) (index : Nat) :
    readSeparator ':' index readIpv4Addr text = none := by
  cases index with
  | zero => exact readIpv4Addr_dotless dotless
  | succ index =>
      rw [readSeparator_later]
      cases given : readGivenChar ':' text with
      | none => rfl
      | some rest =>
          have absent := (readGivenChar_consumes (by decide) given).sublist dotless
          exact readIpv4Addr_dotless absent

/-- Without a dot only groups are read. -/
theorem readGroups_dotless {text : List Char} (dotless : '.' ∉ text) (remaining index : Nat) :
    readGroups (remaining + 1) index text =
      match readSeparator ':' index readGroup text with
      | some (group, rest) =>
          let later := readGroups remaining (index + 1) rest
          ((group :: later.1.1, later.1.2), later.2)
      | none => (([], false), text) := by
  have plain : (if 0 < remaining then readSeparator ':' index readIpv4Addr text else none) =
      none := by
    split
    · exact readSeparator_dotless dotless index
    · rfl
  rw [readGroups, plain]

theorem readGroups_ends {rest : List Char} (ends : Ends rest) (dotless : '.' ∉ rest)
    (limit index : Nat) : readGroups limit index rest = (([], false), rest) := by
  cases limit with
  | zero => rfl
  | succ limit => rw [readGroups_dotless dotless, ends.groupless]

theorem readGroups_trail {groups : List UInt16} {rest : List Char} (ends : Ends rest)
    {limit : Nat} (room : groups.length ≤ limit) (dotless : '.' ∉ groupTrail groups ++ rest)
    (index : Nat) :
    readGroups limit (index + 1) (groupTrail groups ++ rest) = ((groups, false), rest) := by
  induction groups generalizing limit index with
  | nil => exact readGroups_ends ends dotless limit (index + 1)
  | cons group groups inductionHypothesis =>
      cases limit with
      | zero => cases room
      | succ limit =>
          have text : groupTrail (group :: groups) ++ rest =
              ':' :: (IpAddr.group group ++ (groupTrail groups ++ rest)) := by
            unfold groupTrail
            rw [List.map_cons, trail_cons, List.cons_append, List.append_assoc]
          rw [text] at dotless ⊢
          have absent : '.' ∉ groupTrail groups ++ rest := fun member =>
            dotless (List.mem_cons_of_mem _ (List.mem_append_right _ member))
          have next : Stops 16 (groupTrail groups ++ rest) := stops_trail (by decide) ends.stops
          have later := inductionHypothesis (Nat.le_of_succ_le_succ room) absent (index + 1)
          rw [readGroups_dotless dotless, readSeparator_later, readGivenChar_cons,
            Option.bind_some, readGroup_group group next]
          simp only [later]

/-- A chunk of groups is read up to the gap or the end. -/
theorem readGroups_fmtSubslice {groups : List UInt16} {rest : List Char} (ends : Ends rest)
    {limit : Nat} (room : groups.length ≤ limit)
    (dotless : '.' ∉ IpAddr.fmtSubslice groups ++ rest) :
    readGroups limit 0 (IpAddr.fmtSubslice groups ++ rest) = ((groups, false), rest) := by
  cases groups with
  | nil => exact readGroups_ends ends dotless limit 0
  | cons group groups =>
      cases limit with
      | zero => cases room
      | succ limit =>
          rw [fmtSubslice_cons, List.append_assoc] at dotless ⊢
          have absent : '.' ∉ groupTrail groups ++ rest := fun member =>
            dotless (List.mem_append_right _ member)
          have next : Stops 16 (groupTrail groups ++ rest) := stops_trail (by decide) ends.stops
          have later := readGroups_trail ends (Nat.le_of_succ_le_succ room) absent 0
          rw [readGroups_dotless dotless, readSeparator_first, readGroup_group group next]
          simp only [later]

theorem dotless_fmtSubslice (groups : List UInt16) : '.' ∉ IpAddr.fmtSubslice groups := by
  intro member
  rcases IpAddr.fmtSubslice_mem member with digit | colon
  · exact absurd digit (by decide)
  · exact absurd colon (by decide)

theorem readIpv6Addr_whole {groups : List UInt16} (eight : groups.length = 8) :
    readIpv6Addr (IpAddr.fmtSubslice groups) = some (groups, []) := by
  have dotless := dotless_fmtSubslice groups
  rw [← List.append_nil (IpAddr.fmtSubslice groups)] at dotless
  have head := readGroups_fmtSubslice (Or.inl rfl) (Nat.le_of_eq eight) dotless
  rw [List.append_nil] at head
  unfold readIpv6Addr
  simp only [head, eight, if_true]

/-- The groups around a gap are read, and the gap is filled with zeros. -/
theorem readIpv6Addr_gapped {before after : List UInt16}
    (room : before.length + after.length ≤ 7) :
    readIpv6Addr (IpAddr.fmtSubslice before ++ [':', ':'] ++ IpAddr.fmtSubslice after) =
      some (before ++ List.replicate (8 - before.length - after.length) 0 ++ after, []) := by
  have dotless : '.' ∉ IpAddr.fmtSubslice before ++ (':' :: ':' :: IpAddr.fmtSubslice after) := by
    have front := dotless_fmtSubslice before
    have back := dotless_fmtSubslice after
    simp [front, back]
  have dotlessAfter := dotless_fmtSubslice after
  rw [← List.append_nil (IpAddr.fmtSubslice after)] at dotlessAfter
  have head := readGroups_fmtSubslice (ends_gap _) (show before.length ≤ 8 by omega) dotless
  have tail := readGroups_fmtSubslice (Or.inl rfl)
    (show after.length ≤ 8 - (before.length + 1) by omega) dotlessAfter
  rw [List.append_nil] at tail
  have part : ¬ before.length = 8 := by omega
  have text : IpAddr.fmtSubslice before ++ [':', ':'] ++ IpAddr.fmtSubslice after =
      IpAddr.fmtSubslice before ++ (':' :: ':' :: IpAddr.fmtSubslice after) := by
    rw [List.append_assoc]
    rfl
  rw [text]
  unfold readIpv6Addr
  simp only [head, part, if_false, Bool.false_eq_true, readGivenChar_cons, Option.bind_some,
    Option.map_some, tail]

theorem fromBeBytes_bytes (group : UInt16) :
    fromBeBytes (group >>> 8).toUInt8 group.toUInt8 = group := by
  have below := group.toNat_lt
  have shift : (8 : UInt16).toNat % 16 = 8 := by decide
  apply UInt16.toNat_inj.mp
  unfold fromBeBytes
  rw [UInt16.toNat_ofNat', UInt16.toNat_toUInt8, UInt16.toNat_toUInt8, UInt16.toNat_shiftRight,
    shift, Nat.shiftRight_eq_div_pow]
  omega

/-- A mapped IPv4 address is its octets behind the last group of ones. -/
theorem embedded_mapped {segments : List UInt16} {octets : List UInt8}
    (maps : IpAddr.toIpv4Mapped segments = some octets) :
    octets.length = 4 ∧ segments = [0, 0, 0, 0, 0, 0xffff] ++ embedded octets := by
  unfold IpAddr.toIpv4Mapped at maps
  split at maps
  · cases maps
    constructor
    · rfl
    · simp only [embedded, fromBeBytes_bytes]
      rfl
  · cases maps

theorem readGroups_mapped {octets : List UInt8} (four : octets.length = 4) :
    readGroups 7 0 ("ffff:".toList ++ IpAddr.dotted octets) =
      ((0xffff :: embedded octets, true), []) := by
  have text : "ffff:".toList ++ IpAddr.dotted octets =
      IpAddr.group 0xffff ++ (':' :: IpAddr.dotted octets) := by
    have group : "ffff:".toList = IpAddr.group 0xffff ++ [':'] := by decide
    rw [group, List.append_assoc]
    rfl
  have letter : Stops 10 (IpAddr.group 0xffff ++ (':' :: IpAddr.dotted octets)) := by
    have first : IpAddr.group 0xffff = ['f', 'f', 'f', 'f'] := by decide
    rw [first]
    exact stops_cons (by decide) _
  have group := readGroup_group 0xffff (stops_cons (show toDigit 16 ':' = none by decide)
    (IpAddr.dotted octets))
  have address := readIpv4Addr_dotted four (stops_nil 10)
  rw [List.append_nil] at address
  rw [text, readGroups, if_pos (by decide), readSeparator_first, readIpv4Addr_stops letter]
  simp only [readSeparator_first, group]
  rw [readGroups, if_pos (by decide), readSeparator_later, readGivenChar_cons, Option.bind_some,
    address]

theorem readIpv6Addr_mapped {octets : List UInt8} (four : octets.length = 4) :
    readIpv6Addr ("::ffff:".toList ++ IpAddr.dotted octets) =
      some ([0, 0, 0, 0, 0, 0xffff] ++ embedded octets, []) := by
  have text : "::ffff:".toList ++ IpAddr.dotted octets =
      ':' :: ':' :: ("ffff:".toList ++ IpAddr.dotted octets) := rfl
  have colon : forall radix, radix ≤ 16 -> Stops radix
      (':' :: ':' :: ("ffff:".toList ++ IpAddr.dotted octets)) := by
    intro radix small
    have separator : forall radix, radix ≤ 16 -> toDigit radix ':' = none := by decide
    exact stops_cons (separator radix small) _
  have head : readGroups 8 0 (':' :: ':' :: ("ffff:".toList ++ IpAddr.dotted octets)) =
      (([], false), ':' :: ':' :: ("ffff:".toList ++ IpAddr.dotted octets)) := by
    rw [readGroups, if_pos (by decide), readSeparator_first,
      readIpv4Addr_stops (colon 10 (by decide)), readSeparator_first, readGroup,
      readNumber_stops (colon 16 (by decide))]
    rfl
  have two : (embedded octets).length = 2 := by
    match octets, four with
    | [_, _, _, _], _ => rfl
  rw [text]
  unfold readIpv6Addr
  simp only [head, List.length_nil, readGivenChar_cons, Option.bind_some, Option.map_some,
    readGroups_mapped four, List.length_cons, two]
  rfl

/-! ## Printed addresses -/

theorem getD_ofFn {value : Type} {count : Nat} (items : Vector value count) (blank : value) :
    (Vector.ofFn fun index : Fin count => items.toList.getD index blank) = items := by
  apply Vector.ext
  intro index inside
  rw [Vector.getElem_ofFn, List.getD_eq_getElem?_getD, List.getElem?_eq_getElem (by simpa using inside)]
  simp

theorem fmtSegments_parts (segments : List UInt16) (gap : 1 < (IpAddr.zeroes segments).len) :
    IpAddr.fmtSegments segments =
      IpAddr.fmtSubslice (segments.take (IpAddr.zeroes segments).start) ++ [':', ':'] ++
        IpAddr.fmtSubslice
          (segments.drop ((IpAddr.zeroes segments).start + (IpAddr.zeroes segments).len)) :=
  if_pos gap

theorem readIpv6Addr_fmtSegments {segments : List UInt16} (eight : segments.length = 8) :
    readIpv6Addr (IpAddr.fmtSegments segments) = some (segments, []) := by
  by_cases gap : 1 < (IpAddr.zeroes segments).len
  · have parts := (IpAddr.zeroes_zero segments).split (Nat.lt_of_succ_lt gap)
    have sizes := congrArg List.length parts
    rw [List.length_append, List.length_append, List.length_replicate] at sizes
    rw [fmtSegments_parts segments gap, readIpv6Addr_gapped (by omega)]
    have filled : 8 - (segments.take (IpAddr.zeroes segments).start).length -
        (segments.drop ((IpAddr.zeroes segments).start + (IpAddr.zeroes segments).len)).length =
          (IpAddr.zeroes segments).len := by
      omega
    rw [filled, ← parts]
  · have whole : IpAddr.fmtSegments segments = IpAddr.fmtSubslice segments := if_neg gap
    rw [whole, readIpv6Addr_whole eight]

theorem parse_of_v6 {text : List Char} {segments : Vector UInt16 8}
    (v4 : readIpv4Addr text = none) (v6 : readIpv6Addr text = some (segments.toList, [])) :
    parse text = some (IpAddr.v6 segments) := by
  unfold parse readIpAddr
  simp only [v4, v6, Option.map_some, ofGroups, getD_ofFn]

theorem chars_mapped {segments : Vector UInt16 8} {octets : List UInt8}
    (maps : IpAddr.toIpv4Mapped segments.toList = some octets) :
    (IpAddr.v6 segments).chars = "::ffff:".toList ++ IpAddr.dotted octets := by
  simp only [IpAddr.chars, maps]

theorem chars_unmapped {segments : Vector UInt16 8}
    (maps : IpAddr.toIpv4Mapped segments.toList = none) :
    (IpAddr.v6 segments).chars = IpAddr.fmtSegments segments.toList := by
  simp only [IpAddr.chars, maps]

/-- Every address is read from its own text. -/
theorem parse_chars (address : IpAddr) : parse address.chars = some address := by
  cases address with
  | v4 octets =>
      have four : octets.toList.length = 4 := octets.length_toList
      have read := readIpv4Addr_dotted four (stops_nil 10)
      rw [List.append_nil] at read
      unfold parse readIpAddr IpAddr.chars
      simp only [read, ofOctets, getD_ofFn]
  | v6 segments =>
      have eight : segments.toList.length = 8 := segments.length_toList
      cases maps : IpAddr.toIpv4Mapped segments.toList with
      | some octets =>
          have mapped := embedded_mapped maps
          have first : Stops 10 ("::ffff:".toList ++ IpAddr.dotted octets) :=
            stops_cons (by decide) _
          rw [chars_mapped maps]
          apply parse_of_v6 (readIpv4Addr_stops first)
          rw [readIpv6Addr_mapped mapped.1, ← mapped.2]
      | none =>
          have dotless := IpAddr.dotless_fmtSegments segments.toList
          rw [chars_unmapped maps]
          exact parse_of_v6 (readIpv4Addr_dotless dotless) (readIpv6Addr_fmtSegments eight)

/-! ## Printed addresses that are cut at their last colon -/

theorem toList_ofFn_getD {groups : List UInt16} (eight : groups.length = 8) :
    (Vector.ofFn fun index : Fin 8 => groups.getD index 0).toList = groups := by
  have whole := getD_ofFn (⟨groups.toArray, by simpa using eight⟩ : Vector UInt16 8) 0
  exact congrArg Vector.toList whole

theorem parse_readIpv6Addr {text : List Char} {segments : Vector UInt16 8}
    (dotless : '.' ∉ text) (read : parse text = some (IpAddr.v6 segments)) :
    Exists fun groups => readIpv6Addr text = some (groups, []) ∧
      (Vector.ofFn fun index : Fin 8 => groups.getD index 0) = segments := by
  unfold parse readIpAddr at read
  rw [readIpv4Addr_dotless dotless] at read
  cases found : readIpv6Addr text with
  | none =>
      simp only [found, Option.map_none] at read
      cases read
  | some group =>
      simp only [found, Option.map_some] at read
      rcases group with ⟨groups, _ | ⟨character, rest⟩⟩
      · exact ⟨groups, rfl, IpAddr.v6.inj (Option.some.inj read)⟩
      · cases read

theorem readIpv6Addr_short {groups : List UInt16} {rest : List Char} (ends : Ends rest)
    (dotless : '.' ∉ rest) (few : groups.length < 8)
    (gapless : (readGivenChar ':' rest).bind (readGivenChar ':') = none) :
    readIpv6Addr (IpAddr.fmtSubslice groups ++ rest) = none := by
  have absent : '.' ∉ IpAddr.fmtSubslice groups ++ rest := by
    have front := dotless_fmtSubslice groups
    simp [front, dotless]
  have head := readGroups_fmtSubslice ends (Nat.le_of_lt few) absent
  have part : ¬ groups.length = 8 := by omega
  unfold readIpv6Addr
  simp only [head, part, if_false, Bool.false_eq_true]
  cases first : readGivenChar ':' rest with
  | none => rfl
  | some more =>
      rw [first, Option.bind_some] at gapless
      rw [Option.bind_some, gapless, Option.map_none]

/-- A chunk of groups, cut at the last colon. -/
theorem fmtSubslice_concat {groups : List UInt16} (some' : groups ≠ []) (last : UInt16) :
    IpAddr.fmtSubslice (groups ++ [last]) =
      IpAddr.fmtSubslice groups ++ ':' :: IpAddr.group last := by
  unfold IpAddr.fmtSubslice
  rw [List.map_append, IpAddr.intercalate_append (by simpa using some') (by simp),
    List.map_singleton, List.intercalate_singleton, List.append_assoc]
  rfl

theorem colonless_digits (group : UInt16) : ':' ∉ IpAddr.group group :=
  IpAddr.colonless_group (IpAddr.group group) (List.mem_map_of_mem (List.mem_singleton_self group))

theorem parse_ne_of_none {text : List Char} {segments : Vector UInt16 8} (dotless : '.' ∉ text)
    (unread : readIpv6Addr text = none) : parse text ≠ some (IpAddr.v6 segments) := by
  intro read
  rcases parse_readIpv6Addr dotless read with ⟨groups, found, -⟩
  rw [unread] at found
  cases found

/-- A longer gap than the printed one reads as another address. -/
theorem parse_ne_of_shifted {segments : Vector UInt16 8} {before init : List UInt16}
    {gap : Nat} {first last : UInt16}
    (parts : segments.toList = before ++ List.replicate gap 0 ++ ((first :: init) ++ [last]))
    (closed : first ≠ 0) :
    parse (IpAddr.fmtSubslice before ++ [':', ':'] ++ IpAddr.fmtSubslice (first :: init)) ≠
      some (IpAddr.v6 segments) := by
  intro read
  have eight : segments.toList.length = 8 := segments.length_toList
  have sizes := congrArg List.length parts
  simp only [List.length_append, List.length_replicate, List.length_cons, List.length_nil] at sizes
  have dotless : '.' ∉ IpAddr.fmtSubslice before ++ [':', ':'] ++
      IpAddr.fmtSubslice (first :: init) := by
    have front := dotless_fmtSubslice before
    have back := dotless_fmtSubslice (first :: init)
    simp [front, back]
  have gapped := @readIpv6Addr_gapped before (first :: init) (by
    rw [List.length_cons]
    omega)
  have wider : 8 - before.length - (first :: init).length = gap + 1 := by
    rw [List.length_cons]
    omega
  rw [wider] at gapped
  rcases parse_readIpv6Addr dotless read with ⟨groups, found, same⟩
  rw [gapped] at found
  have filled := (Prod.mk.inj (Option.some.inj found)).1
  have length : groups.length = 8 := by
    rw [← filled]
    simp only [List.length_append, List.length_replicate, List.length_cons]
    omega
  have equal : groups = segments.toList := by
    rw [← same, toList_ofFn_getD length]
  rw [← filled, parts, List.append_assoc, List.append_assoc] at equal
  have behind := List.append_cancel_left equal
  rw [List.replicate_succ', List.append_assoc] at behind
  have heads := List.append_cancel_left behind
  exact closed (List.cons.inj heads).1.symm

/-- The text of an IPv6 address ends in a colon, or in a group; and without this group it
is not the text of the address any more. -/
theorem cut_cases {segments : Vector UInt16 8}
    (maps : IpAddr.toIpv4Mapped segments.toList = none) :
    (Exists fun front => (IpAddr.v6 segments).chars = front ++ [':']) ∨
      Exists fun front => Exists fun last =>
        (IpAddr.v6 segments).chars = front ++ ':' :: IpAddr.group last ∧
          parse front ≠ some (IpAddr.v6 segments) := by
  have eight : segments.toList.length = 8 := segments.length_toList
  rw [chars_unmapped maps]
  by_cases gap : 1 < (IpAddr.zeroes segments.toList).len
  · have parts := (IpAddr.zeroes_zero segments.toList).split (Nat.lt_of_succ_lt gap)
    have sizes := congrArg List.length parts
    rw [List.length_append, List.length_append, List.length_replicate] at sizes
    rw [fmtSegments_parts segments.toList gap]
    generalize tail : segments.toList.drop ((IpAddr.zeroes segments.toList).start +
      (IpAddr.zeroes segments.toList).len) = after at parts sizes ⊢
    rcases List.eq_nil_or_concat after with rfl | ⟨init, last, rfl⟩
    · apply Or.inl
      refine ⟨IpAddr.fmtSubslice (segments.toList.take (IpAddr.zeroes segments.toList).start) ++
        [':'], ?_⟩
      simp [IpAddr.fmtSubslice]
    · apply Or.inr
      rw [List.concat_eq_append] at *
      cases init with
      | nil =>
          refine ⟨IpAddr.fmtSubslice (segments.toList.take (IpAddr.zeroes segments.toList).start) ++
            [':'], last, ?_, ?_⟩
          · simp [IpAddr.fmtSubslice, List.append_assoc]
          · apply parse_ne_of_none
            · have front := dotless_fmtSubslice
                (segments.toList.take (IpAddr.zeroes segments.toList).start)
              simp [front]
            · apply readIpv6Addr_short (Or.inr ⟨[], rfl, stops_nil 16⟩)
              · decide
              · omega
              · decide
      | cons first init =>
          refine ⟨IpAddr.fmtSubslice (segments.toList.take (IpAddr.zeroes segments.toList).start) ++
            [':', ':'] ++ IpAddr.fmtSubslice (first :: init), last, ?_, ?_⟩
          · rw [fmtSubslice_concat (List.cons_ne_nil first init)]
            simp only [List.append_assoc]
          · apply parse_ne_of_shifted parts
            apply IpAddr.zeroes_closed segments.toList
            rw [← List.head?_drop, tail]
            rfl
  · have whole : IpAddr.fmtSegments segments.toList = IpAddr.fmtSubslice segments.toList :=
      if_neg gap
    rw [whole]
    apply Or.inr
    rcases List.eq_nil_or_concat segments.toList with none' | ⟨init, last, same⟩
    · rw [none'] at eight
      cases eight
    · rw [List.concat_eq_append] at same
      have seven : init.length = 7 := by
        rw [same, List.length_append] at eight
        exact Nat.succ.inj eight
      refine ⟨IpAddr.fmtSubslice init, last, ?_, ?_⟩
      · rw [same, fmtSubslice_concat (List.ne_nil_of_length_pos (by omega))]
      · have short := @readIpv6Addr_short init [] (Or.inl rfl) List.not_mem_nil (by omega) rfl
        rw [List.append_nil] at short
        exact parse_ne_of_none (dotless_fmtSubslice init) short

end IpParse
end Net
