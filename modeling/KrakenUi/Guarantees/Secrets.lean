import KrakenUi.Encoding.Base64
import KrakenUi.Services.RuleManagement

namespace KrakenUi
namespace RuleManagement

open Text Base64

/-!
# Secrets in every spelling

A secret may be given in either alphabet of base64, with or without padding.
The engines are tried one after the other, and no spelling of one of them is
read as other bytes by another.
-/

/-- The engines in the order in which they are tried. -/
def tried : List Engine := [urlSafeNoPad, urlSafe, standardNoPad, standard]

section Spellings

variable {readers : Engine -> String -> Option ByteArray}

/-- All engines that read a text read the same. -/
theorem read_unique (strict : forall engine, Engine.Strict engine (readers engine))
    {first second : Engine} {text : String} {bytes other : ByteArray}
    (one : readers first text = some bytes) (two : readers second text = some other) :
    bytes = other := by
  have spelled := (strict first text bytes).mp one
  rw [(strict second text other).mp two] at spelled
  exact ByteArray.ext (Array.toList_inj.mp (spell_injective spelled.symm))

/-- The first engine that reads a text reads what any of them reads. -/
theorem findSome_readers (strict : forall engine, Engine.Strict engine (readers engine))
    {engines : List Engine} {text : String} {bytes : ByteArray} :
    (engines.map readers).findSome? (fun reader => reader text) = some bytes ↔
      Exists fun engine => engine ∈ engines ∧ readers engine text = some bytes := by
  rw [List.findSome?_map]
  constructor
  · intro found
    rcases List.exists_of_findSome?_eq_some found with ⟨engine, member, read⟩
    exact ⟨engine, member, read⟩
  · rintro ⟨engine, member, read⟩
    cases found : engines.findSome? ((fun reader => reader text) ∘ readers) with
    | none =>
        have unread := List.findSome?_eq_none_iff.mp found engine member
        rw [Function.comp_apply, read] at unread
        cases unread
    | some other =>
        rcases List.exists_of_findSome?_eq_some found with ⟨first, -, readFirst⟩
        rw [read_unique strict read readFirst]

/-- The symbols of a spelling are no whitespace. -/
theorem spell_trimmed (engine : Engine) (bytes : List UInt8) : Trimmed (engine.spell bytes) := by
  have plain : forall character, character ∈ engine.spell bytes ->
      isWhitespace character = false := by
    intro character member
    rcases List.mem_append.mp member with symbol | filler
    · rcases List.mem_map.mp symbol with ⟨digit, among, rfl⟩
      cases engine.alphabet with
      | urlSafe =>
          exact forall_digit (fun read =>
            isWhitespace (Alphabet.urlSafe.symbol read) = false) (by decide)
              (isDigit_of_mem bytes digit among)
      | standard =>
          exact forall_digit (fun read =>
            isWhitespace (Alphabet.standard.symbol read) = false) (by decide)
              (isDigit_of_mem bytes digit among)
    · rw [engine.filler_only _ character filler]
      rfl
  rintro character (first | last)
  · exact plain character (List.mem_of_head? first)
  · exact plain character (List.mem_of_getLast? last)

/-- A spelling with whitespace around it. -/
def Surrounded (engine : Engine) (bytes : ByteArray) (text : String) : Prop :=
  Exists fun front => Exists fun back =>
    text.toList = front ++ (engine.spell bytes.data.toList ++ back) ∧
      (forall character, character ∈ front -> isWhitespace character = true) ∧
        forall character, character ∈ back -> isWhitespace character = true

theorem trim_surrounded {engine : Engine} {bytes : ByteArray} {text : String}
    (surrounded : Surrounded engine bytes text) :
    (trim text).toList = engine.spell bytes.data.toList := by
  rcases surrounded with ⟨front, back, whole, before, behind⟩
  rw [trim, String.toList_ofList, whole, trimChars_surrounded before behind,
    (spell_trimmed engine bytes.data.toList).trimChars]

/-- Whitespace is trimmed before the engines are asked. -/
theorem findSome_surrounded (strict : forall engine, Engine.Strict engine (readers engine))
    {engine : Engine} (among : engine ∈ tried) {bytes : ByteArray} {text : String}
    (surrounded : Surrounded engine bytes text) :
    (tried.map readers).findSome? (fun reader => reader (trim text)) = some bytes :=
  (findSome_readers strict).mpr
    ⟨engine, among, (strict engine _ _).mpr (trim_surrounded surrounded)⟩

/-- Every spelling of enough bytes is accepted as these bytes, and no spelling
of fewer.  All engines that accept a text read the same bytes, so their order
does not matter. -/
theorem decodeSecret_spellings (strict : forall engine, Engine.Strict engine (readers engine)) :
    (forall engine, engine ∈ tried -> forall bytes text name, Surrounded engine bytes text ->
      (64 ≤ bytes.size -> decodeSecret (tried.map readers) text name = .ok bytes) ∧
        (bytes.size < 64 -> Exists fun message =>
          decodeSecret (tried.map readers) text name = .error message)) ∧
      (forall first second text bytes other, first ∈ tried -> second ∈ tried ->
        readers first text = some bytes -> readers second text = some other -> bytes = other) ∧
        forall order : List Engine, order.Perm tried -> forall text name,
          decodeSecret (order.map readers) text name =
            decodeSecret (tried.map readers) text name := by
  refine ⟨?_, ?_, ?_⟩
  · intro engine among bytes text name surrounded
    have found := findSome_surrounded strict among surrounded
    constructor
    · intro long
      unfold decodeSecret
      rw [found]
      exact if_neg (Nat.not_lt.mpr long)
    · intro short
      refine ⟨name ++ " must decode to at least 64 bytes", ?_⟩
      unfold decodeSecret
      rw [found]
      exact if_pos short
  · intro first second text bytes other _ _ one two
    exact read_unique strict one two
  · intro order permuted text name
    have same : (order.map readers).findSome? (fun reader => reader (trim text)) =
        (tried.map readers).findSome? (fun reader => reader (trim text)) := by
      apply Option.ext
      intro bytes
      rw [findSome_readers strict, findSome_readers strict]
      constructor
      · rintro ⟨engine, member, read⟩
        exact ⟨engine, permuted.mem_iff.mp member, read⟩
      · rintro ⟨engine, member, read⟩
        exact ⟨engine, permuted.mem_iff.mpr member, read⟩
    unfold decodeSecret
    rw [same]

end Spellings
end RuleManagement

namespace Sample

open RuleManagement Base64

/-- 64 bytes in the standard alphabet with padding, between a space and a line feed. -/
theorem decodeSecret_spellings_standard :
    decodeSecret (tried.map Engine.decode)
        (String.ofList (' ' :: (standard.spell (List.replicate 64 251) ++ ['\n']))) "X" =
      .ok ⟨(List.replicate 64 251).toArray⟩ := by
  have spellings := @decodeSecret_spellings Engine.decode Engine.strict_decode
  refine (spellings.1 standard (by decide) _ _ "X" ⟨[' '], ['\n'], ?_, ?_, ?_⟩).1 (by decide)
  · exact String.toList_ofList
  · decide
  · decide

end Sample
end KrakenUi
