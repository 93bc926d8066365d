import KrakenUi.Security.ClientIp

namespace KrakenUi
namespace ClientIp

open Net Text

/-!
# When a forwarded address is read

A trusted proxy passes on the address of the client in one of three headers.
The address is read as it was printed, unless its text looks as if it ended in
a port: an IPv6 address whose last group is decimal.  And the elements of a
`Forwarded` header are not taken apart, so that an address without brackets is
lost when another element follows it.
-/

/-! ## The characters of an address and a port -/

theorem isAddressChar_chars {address : IpAddr} {character : Char}
    (member : character ∈ address.chars) : IpAddr.IsAddressChar character := by
  apply IpAddr.isAddressChar_of_mem address
  unfold IpAddr.toString
  rw [String.toList_ofList]
  exact member

/-- None of these stands in an address or a port. -/
theorem addressChar_plain {character : Char} (plain : IpAddr.IsAddressChar character) :
    isWhitespace character = false ∧ (character == '"') = false ∧ character ≠ '[' ∧
      character ≠ ']' ∧ character ≠ ';' ∧ character ≠ ',' ∧
      (32 ≤ character.toNat ∧ character.toNat < 127) := by
  have digits : forall character, character ∈
      ['0', '1', '2', '3', '4', '5', '6', '7', '8', '9', 'a', 'b', 'c', 'd', 'e', 'f', '.', ':'] ->
      isWhitespace character = false ∧ (character == '"') = false ∧ character ≠ '[' ∧
        character ≠ ']' ∧ character ≠ ';' ∧ character ≠ ',' ∧
        (32 ≤ character.toNat ∧ character.toNat < 127) := by decide
  apply digits
  rcases plain with digit | rfl | rfl
  · exact List.mem_append_left ['.', ':'] digit
  · decide
  · decide

theorem isAddressChar_digits {number : Nat} {character : Char}
    (member : character ∈ Nat.toDigits 10 number) : IpAddr.IsAddressChar character :=
  Or.inl (Numeral.isHexDigit_of_mem (by decide) (by decide) number character member)

theorem colonless_digits (number : Nat) : ':' ∉ Nat.toDigits 10 number := by
  intro member
  have digit := Numeral.isHexDigit_of_mem (by decide) (by decide) number ':' member
  exact absurd digit (by decide)

theorem parseU16_toDigits (port : UInt16) :
    parseU16 (Nat.toDigits 10 port.toNat) = some port.toNat :=
  parseUnsigned_toDigits port.toNat_lt

/-- Only digits and a sign are parsed as a port. -/
theorem parseU16_digits {text : List Char} {port : Nat} (read : parseU16 text = some port)
    {character : Char} (member : character ∈ text) :
    isAsciiDigit character = true ∨ character = '+' := by
  have digits : forall {digits : List Char} {value : Nat}, parseDigits digits = some value ->
      character ∈ digits -> isAsciiDigit character = true := by
    intro digits value parsed among
    unfold parseDigits at parsed
    split at parsed
    · cases parsed
    · rename_i sound
      simp only [Bool.or_eq_true, Bool.not_eq_eq_eq_not, Bool.not_true, not_or,
        Bool.not_eq_false] at sound
      exact List.all_eq_true.mp sound.2 character among
  unfold parseU16 parseUnsigned at read
  rcases Option.bind_eq_some_iff.mp read with ⟨value, parsed, -⟩
  split at parsed
  · rcases List.mem_cons.mp member with sign | later
    · exact Or.inr sign
    · exact Or.inl (digits parsed later)
  · exact Or.inl (digits parsed member)

theorem parseU16_nil : parseU16 [] = none := rfl

/-! ## Addresses that look like they end in a port -/

/-- The text behind the last colon is a number below 65536. -/
def EndsLikePort (address : IpAddr) : Prop :=
  Exists fun front => Exists fun port =>
    rsplitOnce ':' address.chars = some (front, port) ∧ (parseU16 port).isSome

theorem endsLikePort_split {address : IpAddr} {front port : List Char}
    (colonless : ':' ∉ port) (text : address.chars = front ++ ':' :: port) :
    EndsLikePort address ↔ (parseU16 port).isSome := by
  have parts := rsplitOnce_append colonless front
  rw [← text] at parts
  constructor
  · rintro ⟨others, last, split, parsed⟩
    rw [parts] at split
    cases split
    exact parsed
  · intro parsed
    exact ⟨front, port, parts, parsed⟩

theorem not_endsLikePort_v4 (octets : Vector UInt8 4) : ¬ EndsLikePort (.v4 octets) := by
  rintro ⟨front, port, split, -⟩
  rw [rsplitOnce_absent (IpAddr.colonless_v4 octets)] at split
  cases split

theorem portless_plain {address : IpAddr} (plain : ¬ EndsLikePort address) :
    portless address.chars = address.chars := by
  unfold portless
  cases split : rsplitOnce ':' address.chars with
  | none => rfl
  | some parts =>
      cases parsed : parseU16 parts.2 with
      | none => rw [Option.bind_some, parsed, Option.map_none, Option.getD_none]
      | some port =>
          apply absurd _ plain
          exact ⟨parts.1, parts.2, split, by rw [parsed]; rfl⟩

theorem portless_port {front port : List Char} (colonless : ':' ∉ port)
    (parsed : (parseU16 port).isSome) : portless (front ++ ':' :: port) = front := by
  rcases Option.isSome_iff_exists.mp parsed with ⟨number, read⟩
  unfold portless
  rw [rsplitOnce_append colonless front, Option.bind_some, read, Option.map_some,
    Option.getD_some]

/-- An address is read without its port when its own text does not look like it had one. -/
theorem parse_portless (address : IpAddr) :
    IpParse.parse (portless address.chars) = some address ↔ ¬ EndsLikePort address := by
  constructor
  · intro read port
    cases address with
    | v4 octets => exact not_endsLikePort_v4 octets port
    | v6 segments =>
        cases maps : IpAddr.toIpv4Mapped segments.toList with
        | some octets =>
            have dot : '.' ∈ IpAddr.dotted octets := (IpAddr.dot_mapped maps).2
            have colonless : ':' ∉ IpAddr.dotted octets := by
              intro member
              rcases IpAddr.dotted_mem member with digit | same
              · exact absurd digit (by decide)
              · exact absurd same (by decide)
            have text : (IpAddr.v6 segments).chars = "::ffff".toList ++ ':' :: IpAddr.dotted octets :=
              IpParse.chars_mapped maps
            have parsed := (endsLikePort_split colonless text).mp port
            rcases Option.isSome_iff_exists.mp parsed with ⟨number, digits⟩
            rcases parseU16_digits digits dot with digit | sign
            · exact absurd digit (by decide)
            · exact absurd sign (by decide)
        | none =>
            rcases IpParse.cut_cases maps with ⟨front, text⟩ | ⟨front, last, text, cut⟩
            · have parsed := (endsLikePort_split List.not_mem_nil text).mp port
              rw [parseU16_nil] at parsed
              cases parsed
            · have colonless := IpParse.colonless_digits last
              have parsed := (endsLikePort_split colonless text).mp port
              rw [text, portless_port colonless parsed] at read
              exact cut read
  · intro plain
    rw [portless_plain plain]
    exact IpParse.parse_chars address

/-! ## The address in a header -/

theorem unbracketed_plain {value : List Char} (plain : '[' ∉ value) : unbracketed value = value := by
  have kept : stripPrefix '[' value = none := by
    cases value with
    | nil => rfl
    | cons character value =>
        apply if_neg
        rintro rfl
        exact plain List.mem_cons_self
  rw [unbracketed, kept]
  rfl

theorem unbracketed_brackets {text : List Char} (plain : ']' ∉ text) (tail : List Char) :
    unbracketed ('[' :: (text ++ ']' :: tail)) = text := by
  have stripped : stripPrefix '[' ('[' :: (text ++ ']' :: tail)) = some (text ++ ']' :: tail) := by
    rw [stripPrefix, if_pos rfl]
  rw [unbracketed, stripped, Option.bind_some, splitOnce_append plain, Option.map_some,
    Option.getD_some]

/-- Characters that only addresses and ports are made of. -/
def Plain (text : List Char) : Prop :=
  forall character, character ∈ text -> IpAddr.IsAddressChar character

theorem plain_chars (address : IpAddr) : Plain address.chars := fun _ => isAddressChar_chars

theorem Plain.port {text : List Char} (plain : Plain text) (port : UInt16) :
    Plain (text ++ ':' :: Nat.toDigits 10 port.toNat) := by
  intro character member
  rcases List.mem_append.mp member with front | behind
  · exact plain character front
  · rcases List.mem_cons.mp behind with colon | digit
    · exact Or.inr (Or.inr colon)
    · exact isAddressChar_digits digit

theorem Plain.absent {text : List Char} (plain : Plain text) {character : Char}
    (other : ¬ IpAddr.IsAddressChar character) : character ∉ text := fun member =>
  other (plain character member)

theorem Plain.trimChars {text : List Char} (plain : Plain text) : Text.trimChars text = text :=
  trimmed_keeps fun character member => (addressChar_plain (plain character member)).1

theorem parseForwardedIp_plain {text : List Char} (plain : Plain text) :
    parseForwardedIp (trimChars text) = IpParse.parse (portless text) := by
  have unquoted : trimMatches '"' text = text :=
    trimmed_keeps fun character member => (addressChar_plain (plain character member)).2.1
  rw [parseForwardedIp, plain.trimChars, unquoted,
    unbracketed_plain (plain.absent (by decide))]

/-- What follows the closing bracket is not read. -/
theorem parseForwardedIp_brackets {text : List Char} (plain : Plain text) (tail : List Char) :
    parseForwardedIp (trimChars ('"' :: '[' :: (text ++ ']' :: tail))) =
      IpParse.parse (portless text) := by
  have trimmed := @trimmed_front isWhitespace ('"' :: '[' :: text) ']' (by
    intro character first
    cases first
    decide) (by decide) tail
  rcases trimmed with ⟨rest, whole⟩
  have unquoted := @trimmed_front (· == '"') ('[' :: text) ']' (by
    intro character first
    cases first
    decide) (by decide) rest
  rcases unquoted with ⟨others, within⟩
  have start : trimChars ('"' :: '[' :: (text ++ ']' :: tail)) = '"' :: ('[' :: text ++ ']' :: rest) :=
    whole
  have inside : trimMatches '"' ('"' :: ('[' :: text ++ ']' :: rest)) =
      '[' :: (text ++ ']' :: others) := by
    rw [trimMatches, List.dropWhile_cons_of_pos (by rfl)]
    have kept : ('[' :: text ++ ']' :: rest).dropWhile (· == '"') = '[' :: text ++ ']' :: rest := by
      exact List.dropWhile_cons_of_neg (by decide)
    rw [kept] at within ⊢
    exact within
  rw [parseForwardedIp, start, inside, unbracketed_brackets (plain.absent (by decide))]

theorem parse_foreign {text : List Char} {character : Char} (illegal : ¬ IpParse.Legal character)
    (member : character ∈ text) : IpParse.parse text = none := by
  apply Option.eq_none_iff_forall_ne_some.mpr
  intro address read
  exact illegal (IpParse.parse_legal read member)

/-- Without brackets an address is not read when a further element follows it. -/
theorem parseForwardedIp_elements {text : List Char} (plain : Plain text) (some' : text ≠ [])
    (tail : List Char) : parseForwardedIp (trimChars (text ++ ',' :: tail)) = none := by
  have head : forall {drops : Char -> Bool}, (forall character, IpAddr.IsAddressChar character ->
      drops character = false) -> forall character, (text ++ [',']).head? = some character ->
        drops character = false := by
    intro drops kept character first
    rw [List.head?_append_of_ne_nil _ some'] at first
    exact kept character (plain character (List.mem_of_mem_head? first))
  rcases trimmed_front (head fun character plain => (addressChar_plain plain).1) (by decide) tail
      with ⟨rest, trimmed⟩
  rcases @trimmed_front (· == '"') text ','
      (head fun character plain => (addressChar_plain plain).2.1) (by decide) rest with
      ⟨others, unquoted⟩
  have start : trimChars (text ++ ',' :: tail) = text ++ ',' :: rest := trimmed
  have inside : trimMatches '"' (text ++ ',' :: rest) = text ++ ',' :: others := unquoted
  have unbracket : unbracketed (text ++ ',' :: others) = text ++ ',' :: others := by
    cases text with
    | nil => exact absurd rfl some'
    | cons character text =>
        have apart := (addressChar_plain (plain character List.mem_cons_self)).2.2.1
        have kept : stripPrefix '[' (character :: (text ++ ',' :: others)) = none := if_neg apart
        rw [List.cons_append, unbracketed, kept]
        rfl
  have comma : ',' ∈ text ++ ',' :: others := by simp
  rw [parseForwardedIp, start, inside, unbracket]
  apply @parse_foreign _ ',' (by decide)
  unfold portless
  rcases rsplitOnce_cases ':' (text ++ ',' :: others) with absent | ⟨front, behind, same, absent⟩
  · rw [rsplitOnce_absent absent]
    exact comma
  · rw [same, rsplitOnce_append absent, Option.bind_some]
    cases parsed : parseU16 behind with
    | none =>
        rw [Option.map_none, Option.getD_none, ← same]
        exact comma
    | some port =>
        rw [Option.map_some, Option.getD_some]
        rw [same] at comma
        rcases List.mem_append.mp comma with before | after
        · exact before
        · rcases List.mem_cons.mp after with colon | digit
          · exact absurd colon (by decide)
          · rcases parseU16_digits parsed digit with decimal | sign
            · exact absurd decimal (by decide)
            · exact absurd sign (by decide)

/-! ## The forwarding headers -/

/-- What stands behind the address in a `Forwarded` header. -/
inductive Further where
  | nothing
  | parameters (text : List Char)
  | elements (text : List Char)

def Further.chars : Further -> List Char
  | nothing => []
  | parameters text => ';' :: text
  | elements text => ',' :: text

/-- The forwarding headers in which an address can stand. -/
inductive Shape where
  | realIp
  | xForwardedFor
  | forwarded (port : Option UInt16) (further : Further)

/-- The address in a `Forwarded` header: an IPv6 address stands in quoted brackets. -/
def node (address : IpAddr) (port : Option UInt16) : List Char :=
  let suffix := port.elim [] fun port => ':' :: Nat.toDigits 10 port.toNat
  match address with
  | .v4 _ => address.chars ++ suffix
  | .v6 _ => '"' :: '[' :: (address.chars ++ ']' :: (suffix ++ ['"']))

/-- A request with one header. -/
def only (name : String) (value : List Char) : HeaderMap := fun other =>
  if other = name then some value else none

def forwardingNames : List String := ["forwarded", "x-forwarded-for", "x-real-ip"]

/-- Of the forwarding headers there is just this one, among any other headers. -/
def Alone (headers : HeaderMap) (name : String) (value : List Char) : Prop :=
  headers name = some value ∧
    forall other, other ∈ forwardingNames -> other ≠ name -> headers other = none

theorem alone_only (name : String) (value : List Char) : Alone (only name value) name value :=
  ⟨if_pos rfl, fun _ _ apart => if_neg apart⟩

/-- The only forwarding header passes the address on. -/
def Carries (headers : HeaderMap) (address : IpAddr) : Shape -> Prop
  | .realIp => Alone headers "x-real-ip" address.chars
  | .xForwardedFor => Alone headers "x-forwarded-for" address.chars ∨
      Exists fun more => (toStr more).isSome ∧
        Alone headers "x-forwarded-for" (address.chars ++ ',' :: more)
  | .forwarded port further =>
      Alone headers "forwarded" ("for=".toList ++ (node address port ++ further.chars))

/-- When the address is read from a header of this shape. -/
def Readable (address : IpAddr) : Shape -> Prop
  | .realIp => ¬ EndsLikePort address
  | .xForwardedFor => ¬ EndsLikePort address
  | .forwarded _ further => ¬ EndsLikePort address ∧ (toStr further.chars).isSome ∧
      forall octets text, address = .v4 octets -> further ≠ .elements text

theorem toStr_isSome {text : List Char} : (toStr text).isSome ↔
    text.all fun byte => (32 ≤ byte.toNat && byte.toNat < 127) || byte == '\t' := by
  unfold toStr
  split
  · rename_i visible
    exact ⟨fun _ => visible, fun _ => rfl⟩
  · rename_i invisible
    exact ⟨fun impossible => absurd impossible (by decide), fun visible => absurd visible invisible⟩

theorem toStr_eq {text : List Char} (visible : (toStr text).isSome) : toStr text = some text :=
  if_pos (toStr_isSome.mp visible)

theorem toStr_append (front behind : List Char) :
    (toStr (front ++ behind)).isSome ↔ (toStr front).isSome ∧ (toStr behind).isSome := by
  rw [toStr_isSome, toStr_isSome, toStr_isSome, List.all_append, Bool.and_eq_true]

theorem Plain.toStr {text : List Char} (plain : Plain text) : (ClientIp.toStr text).isSome := by
  rw [toStr_isSome, List.all_eq_true]
  intro character member
  have visible := (addressChar_plain (plain character member)).2.2.2.2.2.2
  simp only [Bool.or_eq_true, Bool.and_eq_true, decide_eq_true_eq]
  exact Or.inl visible

/-- The first part of a text begins with all that stands before the first separator. -/
theorem splitOn_front {separator : Char} {front : List Char} (absent : separator ∉ front)
    {text part : List Char} {parts : List (List Char)}
    (split : text.splitOn separator = part :: parts) :
    (front ++ text).splitOn separator = (front ++ part) :: parts := by
  induction front with
  | nil => exact split
  | cons character front inductionHypothesis =>
      have apart : ¬ (character == separator) = true := by
        intro same
        exact absent (eq_of_beq same ▸ List.mem_cons_self)
      have later := inductionHypothesis fun member => absent (List.mem_cons_of_mem _ member)
      rw [List.cons_append, List.splitOn_cons_eq_if_modifyHead, if_neg apart, later]
      rfl

theorem splitOn_separator (separator : Char) (text : List Char) :
    (separator :: text).splitOn separator = [] :: text.splitOn separator := by
  rw [List.splitOn_cons_eq_if_modifyHead, if_pos (beq_self_eq_true separator)]

/-! ## What is read from each header -/

theorem effectiveClientIp_trusted {trusted : List IpAddr} {peer : IpAddr} (member : peer ∈ trusted)
    (headers : HeaderMap) : effectiveClientIp peer headers trusted =
      (((forwardedFor headers).or (xForwardedFor headers)).or (xRealIp headers)).getD peer := by
  have known : trusted.contains peer = true := List.contains_iff_mem.mpr member
  rw [effectiveClientIp, known]
  rfl

section Reading

variable {trusted : List IpAddr} {peer : IpAddr} {headers : HeaderMap}

theorem forwardedFor_none (missing : headers "forwarded" = none) : forwardedFor headers = none := by
  rw [forwardedFor, missing]
  rfl

theorem xForwardedFor_none (missing : headers "x-forwarded-for" = none) :
    xForwardedFor headers = none := by
  rw [xForwardedFor, missing]
  rfl

theorem xRealIp_none (missing : headers "x-real-ip" = none) : xRealIp headers = none := by
  rw [xRealIp, missing]
  rfl

theorem effectiveClientIp_realIp (member : peer ∈ trusted) (address : IpAddr)
    (alone : Alone headers "x-real-ip" address.chars) :
    effectiveClientIp peer headers trusted =
      (IpParse.parse (portless address.chars)).getD peer := by
  rcases alone with ⟨given, others⟩
  rw [effectiveClientIp_trusted member, forwardedFor_none (others _ (by decide) (by decide)),
    xForwardedFor_none (others _ (by decide) (by decide)), xRealIp, given, Option.bind_some,
    toStr_eq (plain_chars address).toStr, Option.bind_some,
    parseForwardedIp_plain (plain_chars address)]
  rfl

/-- The elements of the other list header are tried one by one. -/
theorem effectiveClientIp_xForwardedFor (member : peer ∈ trusted) (address : IpAddr)
    {value : List Char} {parts : List (List Char)} (visible : (toStr value).isSome)
    (split : value.splitOn ',' = address.chars :: parts)
    (alone : Alone headers "x-forwarded-for" value) :
    effectiveClientIp peer headers trusted =
      ((IpParse.parse (portless address.chars)).or
        (parts.findSome? fun part => parseForwardedIp (trimChars part))).getD peer := by
  rcases alone with ⟨given, others⟩
  rw [effectiveClientIp_trusted member, forwardedFor_none (others _ (by decide) (by decide)),
    xRealIp_none (others _ (by decide) (by decide)), xForwardedFor, given, Option.bind_some,
    toStr_eq visible, Option.bind_some, split, List.findSome?_cons,
    parseForwardedIp_plain (plain_chars address), Option.or_none]
  cases IpParse.parse (portless address.chars) with
  | none => rfl
  | some first => rfl

theorem effectiveClientIp_forwarded (member : peer ∈ trusted) (value : List Char)
    (alone : Alone headers "forwarded" value) :
    effectiveClientIp peer headers trusted =
      ((toStr value).bind fun value => forwardedParts (value.splitOn ';')).getD peer := by
  rcases alone with ⟨given, others⟩
  rw [effectiveClientIp_trusted member, xForwardedFor_none (others _ (by decide) (by decide)),
    xRealIp_none (others _ (by decide) (by decide)), forwardedFor, given, Option.bind_some,
    Option.or_none, Option.or_none]

end Reading

theorem forwardedParts_for (value : List Char) (parts : List (List Char)) :
    forwardedParts (("for=".toList ++ value) :: parts) = parseForwardedIp (trimChars value) := by
  have split : splitOnce '=' ("for=".toList ++ value) = some ("for".toList, value) :=
    @splitOnce_append '=' "for".toList (by decide) value
  have name : (trimChars "for".toList).map asciiLower = "for".toList := by decide
  rw [forwardedParts, split]
  simp only [name, if_true]

theorem chars_ne_nil (address : IpAddr) : address.chars ≠ [] := by
  intro none'
  have read := IpParse.parse_chars address
  rw [none'] at read
  have empty : IpParse.parse [] = none := rfl
  rw [empty] at read
  cases read

/-- What may stand between a node and the next parameter. -/
def Further.element : Further -> Option (List Char)
  | elements text => some text
  | _ => none

def tail : Option (List Char) -> List Char
  | none => []
  | some text => ',' :: text

/-- The first parameter is the address with the elements behind it. -/
theorem splitOn_node (address : IpAddr) (port : Option UInt16) (further : Further) :
    Exists fun element => Exists fun parts => element.isSome = further.element.isSome ∧
      ("for=".toList ++ (node address port ++ further.chars)).splitOn ';' =
        ("for=".toList ++ (node address port ++ tail element)) :: parts := by
  have absent : ';' ∉ "for=".toList ++ node address port := by
    have digits : forall number, ';' ∉ Nat.toDigits 10 number := fun number member =>
      absurd (isAddressChar_digits member) (by decide)
    have chars : ';' ∉ address.chars := (plain_chars address).absent (by decide)
    cases address <;> cases port <;> simp_all [node]
  rw [← List.append_assoc]
  cases further with
  | nothing =>
      refine ⟨none, [], rfl, ?_⟩
      rw [Further.chars, splitOn_front absent (List.splitOn_nil ';'), ← List.append_assoc]
      rfl
  | parameters text =>
      refine ⟨none, text.splitOn ';', rfl, ?_⟩
      rw [Further.chars, splitOn_front absent (splitOn_separator ';' text), ← List.append_assoc]
      rfl
  | elements text =>
      rcases List.exists_cons_of_ne_nil (List.splitOn_ne_nil ';' text) with ⟨part, parts, split⟩
      have comma := @splitOn_front ';' [','] (by decide) text part parts split
      refine ⟨some part, parts, rfl, ?_⟩
      have behind : Further.chars (.elements text) = [','] ++ text := rfl
      rw [behind, splitOn_front absent comma]
      simp only [tail, List.append_assoc, List.singleton_append]

/-- An address in brackets is read whatever follows it, another one when nothing does. -/
theorem parseForwardedIp_node (address : IpAddr) (port : Option UInt16)
    (element : Option (List Char)) :
    parseForwardedIp (trimChars (node address port ++ tail element)) = some address ↔
      ¬ EndsLikePort address ∧ forall octets, address = .v4 octets -> element = none := by
  cases address with
  | v6 segments =>
      have text : node (.v6 segments) port ++ tail element =
          '"' :: '[' :: ((IpAddr.v6 segments).chars ++ ']' ::
            ((port.elim [] fun port => ':' :: Nat.toDigits 10 port.toNat) ++ ['"'] ++
              tail element)) := by
        simp [node]
      rw [text, parseForwardedIp_brackets (plain_chars _), parse_portless]
      constructor
      · intro plain
        exact ⟨plain, fun octets impossible => by cases impossible⟩
      · exact And.left
  | v4 octets =>
      have unlike := not_endsLikePort_v4 octets
      have plain : Plain (node (.v4 octets) port) := by
        cases port with
        | none =>
            simp only [node, Option.elim_none, List.append_nil]
            exact plain_chars _
        | some port => exact (plain_chars (.v4 octets)).port port
      cases element with
      | none =>
          have alone : node (.v4 octets) port ++ tail none = node (.v4 octets) port :=
            List.append_nil _
          have read : IpParse.parse (portless (node (.v4 octets) port)) = some (.v4 octets) := by
            cases port with
            | none =>
                simp only [node, Option.elim_none, List.append_nil]
                exact (parse_portless (.v4 octets)).mpr unlike
            | some port =>
                have cut : portless (node (.v4 octets) (some port)) = (IpAddr.v4 octets).chars :=
                  portless_port (colonless_digits port.toNat) (by rw [parseU16_toDigits]; rfl)
                rw [cut, IpParse.parse_chars]
          rw [alone, parseForwardedIp_plain plain, read]
          exact ⟨fun _ => ⟨unlike, fun _ _ => rfl⟩, fun _ => rfl⟩
      | some text =>
          have some' : node (.v4 octets) port ≠ [] := by
            have chars := chars_ne_nil (.v4 octets)
            cases port <;> simp [node, chars]
          have lost : parseForwardedIp (trimChars (node (.v4 octets) port ++ tail (some text))) =
              none := parseForwardedIp_elements plain some' text
          rw [lost]
          constructor
          · intro impossible
            cases impossible
          · intro fits
            cases fits.2 octets rfl

theorem node_visible (address : IpAddr) (port : Option UInt16) :
    (toStr ("for=".toList ++ node address port)).isSome := by
  have chars := (plain_chars address).toStr
  have suffix : (toStr (port.elim [] fun port => ':' :: Nat.toDigits 10 port.toNat)).isSome := by
    cases port with
    | none => rfl
    | some port =>
        have plain : Plain ([] : List Char) := fun _ member => absurd member List.not_mem_nil
        exact (plain.port port).toStr
  apply (toStr_append _ _).mpr
  constructor
  · rfl
  · cases address with
    | v4 octets => exact (toStr_append _ _).mpr ⟨chars, suffix⟩
    | v6 segments =>
        have inside := (toStr_append _ _).mpr ⟨chars, (toStr_append [']'] _).mpr ⟨rfl,
          (toStr_append _ ['"']).mpr ⟨suffix, rfl⟩⟩⟩
        exact (toStr_append ['"', '['] _).mpr ⟨rfl, inside⟩

/-- A peer that is not the address. -/
def otherPeer (address : IpAddr) : IpAddr :=
  if address = .v4 #v[127, 0, 0, 1] then .v4 #v[127, 0, 0, 2] else .v4 #v[127, 0, 0, 1]

theorem otherPeer_ne (address : IpAddr) : otherPeer address ≠ address := by
  unfold otherPeer
  split
  · rename_i same
    rw [same]
    decide
  · rename_i apart
    exact fun same => apart same.symm

/-- Whatever the peer is, the address is found. -/
theorem getD_peer {address : IpAddr} {found : Option IpAddr} :
    (forall peer, found.getD peer = address) ↔ found = some address := by
  constructor
  · intro always
    cases found with
    | none => exact absurd (always (otherPeer address)) (otherPeer_ne address)
    | some other => exact congrArg some (always other)
  · intro read peer
    rw [read, Option.getD_some]

theorem forwarded_found (address : IpAddr) (port : Option UInt16) (further : Further) :
    ((toStr ("for=".toList ++ (node address port ++ further.chars))).bind fun value =>
        forwardedParts (value.splitOn ';')) = some address ↔
      Readable address (.forwarded port further) := by
  rcases splitOn_node address port further with ⟨element, parts, same, split⟩
  have visible : (toStr ("for=".toList ++ (node address port ++ further.chars))).isSome ↔
      (toStr further.chars).isSome := by
    rw [← List.append_assoc, toStr_append]
    exact ⟨And.right, fun seen => ⟨node_visible address port, seen⟩⟩
  have elementless : (forall octets, address = .v4 octets -> element = none) ↔
      forall octets text, address = .v4 octets -> further ≠ .elements text := by
    constructor
    · intro none' octets text v4 elements
      rw [none' octets v4, elements] at same
      cases same
    · intro apart octets v4
      cases further with
      | nothing => exact Option.isNone_iff_eq_none.mp (by simpa [Further.element] using same)
      | parameters text => exact Option.isNone_iff_eq_none.mp (by simpa [Further.element] using same)
      | elements text => exact absurd rfl (apart octets text v4)
  constructor
  · intro found
    rcases Option.bind_eq_some_iff.mp found with ⟨value, seen, read⟩
    have whole : (toStr ("for=".toList ++ (node address port ++ further.chars))).isSome := by
      rw [seen]
      rfl
    rw [toStr_eq whole] at seen
    cases seen
    rw [split, forwardedParts_for] at read
    have fits := (parseForwardedIp_node address port element).mp read
    exact ⟨fits.1, visible.mp whole, elementless.mp fits.2⟩
  · rintro ⟨plain, seen, apart⟩
    rw [toStr_eq (visible.mpr seen), Option.bind_some, split, forwardedParts_for]
    exact (parseForwardedIp_node address port element).mpr ⟨plain, elementless.mpr apart⟩

/-- A trusted proxy's header is read as the address, for each of its shapes, exactly when the
address does not look like it ended in a port, and in a `Forwarded` header the rest is visible
and no element follows an address without brackets. -/
theorem forwarded_address_read (address : IpAddr) (shape : Shape) :
    (forall trusted peer headers, peer ∈ trusted -> Carries headers address shape ->
        effectiveClientIp peer headers trusted = address) ↔
      Readable address shape := by
  have peers : forall {found : Option IpAddr} {headers : HeaderMap},
      Carries headers address shape ->
      (forall {trusted : List IpAddr} {peer : IpAddr}, peer ∈ trusted ->
        effectiveClientIp peer headers trusted = found.getD peer) ->
      (forall trusted peer headers, peer ∈ trusted -> Carries headers address shape ->
        effectiveClientIp peer headers trusted = address) -> found = some address := by
    intro found headers carries reads always
    apply getD_peer.mp
    intro peer
    rw [← reads (List.mem_singleton_self peer)]
    exact always [peer] peer headers (List.mem_singleton_self peer) carries
  cases shape with
  | realIp =>
      constructor
      · intro always
        have alone := alone_only "x-real-ip" address.chars
        have found := peers alone
          (fun member => effectiveClientIp_realIp member address alone) always
        exact (parse_portless address).mp found
      · intro plain trusted peer headers member alone
        rw [effectiveClientIp_realIp member address alone, (parse_portless address).mpr plain,
          Option.getD_some]
  | xForwardedFor =>
      have comma : ',' ∉ address.chars := (plain_chars address).absent (by decide)
      have single : address.chars.splitOn ',' = [address.chars] := by
        have split := splitOn_front comma (List.splitOn_nil ',')
        rw [List.append_nil] at split
        exact split
      constructor
      · intro always
        have alone := alone_only "x-forwarded-for" address.chars
        have found := peers (Or.inl alone) (fun member =>
          effectiveClientIp_xForwardedFor member address (plain_chars address).toStr single alone)
          always
        rw [List.findSome?_nil, Option.or_none] at found
        exact (parse_portless address).mp found
      · rintro plain trusted peer headers member (alone | ⟨more, seen, alone⟩)
        · rw [effectiveClientIp_xForwardedFor member address (plain_chars address).toStr single
            alone, (parse_portless address).mpr plain]
          rfl
        · have visible : (toStr (address.chars ++ ',' :: more)).isSome :=
            (toStr_append _ _).mpr ⟨(plain_chars address).toStr,
              (toStr_append [','] more).mpr ⟨rfl, seen⟩⟩
          have split := splitOn_front comma (splitOn_separator ',' more)
          rw [List.append_nil] at split
          rw [effectiveClientIp_xForwardedFor member address visible split alone,
            (parse_portless address).mpr plain]
          rfl
  | forwarded port further =>
      constructor
      · intro always
        have alone := alone_only "forwarded"
          ("for=".toList ++ (node address port ++ further.chars))
        have found := peers alone (fun member => effectiveClientIp_forwarded member _ alone) always
        exact (forwarded_found address port further).mp found
      · intro readable trusted peer headers member alone
        rw [effectiveClientIp_forwarded member _ alone,
          (forwarded_found address port further).mpr readable, Option.getD_some]

example : effectiveClientIp (.v4 #v[127, 0, 0, 1])
    (only "forwarded" "for=\"203.0.113.20\";proto=https".toList) [.v4 #v[127, 0, 0, 1]] =
      .v4 #v[203, 0, 113, 20] := by
  decide

/-- The last group is taken for a port: nothing is left of one address and the proxy is charged
for its client, and another client is charged for the other. -/
theorem last_group_read_as_port :
    effectiveClientIp (.v4 #v[127, 0, 0, 1])
        (only "x-forwarded-for" (IpAddr.v6 #v[0x2001, 0xdb8, 0, 0, 0, 0, 0, 1]).chars)
        [.v4 #v[127, 0, 0, 1]] = .v4 #v[127, 0, 0, 1] ∧
      effectiveClientIp (.v4 #v[127, 0, 0, 1])
        (only "x-real-ip" (IpAddr.v6 #v[0x2001, 0xdb8, 0, 0, 0, 0, 2, 1]).chars)
        [.v4 #v[127, 0, 0, 1]] = .v6 #v[0x2001, 0xdb8, 0, 0, 0, 0, 0, 2] := by
  decide

end ClientIp
end KrakenUi
