import KrakenUi.Guarantees.Rehashing
import KrakenUi.Net.Numeral

namespace KrakenUi
namespace PasswordCryptoService

open Net

/-!
# Records open where they were sealed

The cipher is idealised: it opens what was sealed with it and nothing else, and
only under the data it was sealed with.  What is left for the service is that
different owners and purposes have different data, that the envelope is taken
apart where it was put together, and that no text makes it fail otherwise than with
an error.
-/

/-- What a record is sealed for, besides its owner. -/
inductive Purpose where
  | passwordHash
  | secret (domain : String)
  deriving DecidableEq

def Purpose.aad (owner : Int) : Purpose -> String
  | passwordHash => passwordAad owner
  | secret domain => secretAad owner domain

theorem passwordHash_ne_secret (domain : List Char) :
    "password_hash".toList ≠ "secret:".toList ++ domain := by
  intro same
  have first := congrArg (List.take 1) same
  rw [List.take_append_of_le_length (by decide)] at first
  exact absurd first (by decide)

/-- Different owners or purposes have different data. -/
theorem aad_injective {owner other : Int} {purpose purpose' : Purpose}
    (same : purpose.aad owner = purpose'.aad other) : owner = other ∧ purpose = purpose' := by
  have colonless : forall number : Int, ':' ∉ (toString number).toList := by
    intro number member
    rcases Numeral.isHexDigit_of_mem_toString member with digit | minus
    · exact absurd digit (by decide)
    · exact absurd minus (by decide)
  have texts : forall (number : Int) (purpose : Purpose), Exists fun rest =>
      (purpose.aad number).toList = aadPrefix.toList ++ ((toString number).toList ++ ':' :: rest) ∧
        match purpose with
        | .passwordHash => rest = "password_hash".toList
        | .secret domain => rest = "secret:".toList ++ domain.toList := by
    intro number purpose
    cases purpose with
    | passwordHash =>
        refine ⟨"password_hash".toList, ?_, rfl⟩
        simp [Purpose.aad, passwordAad, String.toList_append]
    | secret domain =>
        refine ⟨"secret:".toList ++ domain.toList, ?_, rfl⟩
        simp [Purpose.aad, secretAad, String.toList_append]
  rcases texts owner purpose with ⟨rest, text, shape⟩
  rcases texts other purpose' with ⟨rest', text', shape'⟩
  have lists := congrArg String.toList same
  rw [text, text'] at lists
  rcases Text.split_unique (colonless owner) (colonless other) (List.append_cancel_left lists) with
      ⟨numbers, rests⟩
  refine ⟨Numeral.toString_injective (String.toList_inj.mp numbers), ?_⟩
  cases purpose with
  | passwordHash =>
      cases purpose' with
      | passwordHash => rfl
      | secret domain =>
          dsimp only at shape shape'
          rw [shape, shape'] at rests
          exact absurd rests (passwordHash_ne_secret domain.toList)
  | secret domain =>
      cases purpose' with
      | passwordHash =>
          dsimp only at shape shape'
          rw [shape, shape'] at rests
          exact absurd rests.symm (passwordHash_ne_secret domain.toList)
      | secret domain' =>
          dsimp only at shape shape'
          rw [shape, shape'] at rests
          exact congrArg Purpose.secret (String.toList_inj.mp (List.append_cancel_left rests))

variable (service : PasswordCryptoService)

/-- Seal for an owner and a purpose: `encrypt_hash` or `encrypt_secret`. -/
def sealFor (random : Random) (owner : Int) : Purpose -> String -> Except String String
  | .passwordHash, plaintext => service.encryptHash random owner plaintext
  | .secret domain, plaintext => service.encryptSecret random owner domain plaintext

/-- `decrypt_hash` or `decrypt_secret`. -/
def openFor (owner : Int) : Purpose -> String -> Except String String
  | .passwordHash, record => service.decryptHash owner record
  | .secret domain, record => service.decryptSecret owner domain record

theorem sealFor_eq (random : Random) (owner : Int) (purpose : Purpose) (plaintext : String) :
    service.sealFor random owner purpose plaintext =
      service.encryptWithAad random (purpose.aad owner) plaintext := by
  cases purpose with
  | passwordHash => rfl
  | secret domain => rfl

theorem openFor_eq (owner : Int) (purpose : Purpose) (record : String) :
    service.openFor owner purpose record =
      service.decryptWithAad (purpose.aad owner) record := by
  cases purpose with
  | passwordHash => rfl
  | secret domain => rfl

/-!
## Slices that may fail
-/

/-- `XNonce::from_slice`, which panics on any other length. -/
def nonceFromSlice (bytes : ByteArray) : Option ByteArray :=
  if bytes.size = nonceBytes then some bytes else none

/-- `decrypt_with_aad` with its panics: no result is a panic. -/
def decryptChecked (aad encryptedRecord : String) : Option (Except String String) :=
  match service.base64Decode encryptedRecord with
  | none => some (.error "encrypted record is not valid base64")
  | some envelope =>
      if envelope.size < keyIdBytes + nonceBytes + tagBytes then
        some (.error "encrypted record is truncated")
      else do
        let keyId ← Bytes.slice envelope 0 keyIdBytes
        if keyId.data ≠ service.keyId.data then
          some (.error "encrypted record references an unavailable key id")
        else do
          let nonce ← Bytes.slice envelope keyIdBytes (keyIdBytes + nonceBytes)
          let nonce ← nonceFromSlice nonce
          let ciphertext ← Bytes.slice envelope (keyIdBytes + nonceBytes) envelope.size
          match service.decrypt nonce ciphertext aad.toUTF8 with
          | none => some (.error "record authentication failed")
          | some plaintextBytes =>
              match String.fromUTF8? plaintextBytes with
              | some plaintext => some (.ok plaintext)
              | none => some (.error "decrypted record is not UTF-8")

/-- The length check keeps every slice inside of the envelope. -/
theorem decryptChecked_eq (aad encryptedRecord : String) :
    service.decryptChecked aad encryptedRecord =
      some (service.decryptWithAad aad encryptedRecord) := by
  unfold decryptChecked decryptWithAad
  cases service.base64Decode encryptedRecord with
  | none => rfl
  | some envelope =>
      dsimp only
      by_cases short : envelope.size < keyIdBytes + nonceBytes + tagBytes
      · rw [if_pos short, if_pos short]
      · have long := Nat.not_lt.mp short
        have key := @Bytes.slice_inside envelope 0 keyIdBytes (Nat.zero_le _) (by omega)
        have front := @Bytes.slice_inside envelope keyIdBytes (keyIdBytes + nonceBytes) (by omega)
          (by omega)
        have rest := @Bytes.slice_inside envelope (keyIdBytes + nonceBytes) envelope.size (by omega)
          (Nat.le_refl _)
        have nonce : nonceFromSlice (envelope.extract keyIdBytes (keyIdBytes + nonceBytes)) =
            some (envelope.extract keyIdBytes (keyIdBytes + nonceBytes)) := by
          apply if_pos
          rw [ByteArray.size_extract]
          omega
        simp only [Option.bind_eq_bind]
        rw [if_neg short, if_neg short, key, Option.bind_some]
        by_cases foreign : (envelope.extract 0 keyIdBytes).data ≠ service.keyId.data
        · rw [if_pos foreign, if_pos foreign]
        · rw [if_neg foreign, if_neg foreign, front, Option.bind_some, nonce, Option.bind_some,
            rest, Option.bind_some]
          cases service.decrypt (envelope.extract keyIdBytes (keyIdBytes + nonceBytes))
              (envelope.extract (keyIdBytes + nonceBytes) envelope.size) aad.toUTF8 with
          | none => rfl
          | some plaintextBytes =>
              dsimp only
              cases String.fromUTF8? plaintextBytes with
              | none => rfl
              | some plaintext => rfl

/-!
## The ideal cipher
-/

/-- One call that sealed a message. -/
structure Sealing where
  nonce : ByteArray
  message : ByteArray
  aad : ByteArray
  sealed : ByteArray

/-- What an ideal cipher and the encoding promise, given the calls that sealed
something with the key. -/
structure Ideal (issued : Sealing -> Prop) : Prop where
  /-- It opens what was sealed, and nothing else. -/
  opens : forall {nonce sealed aad message}, service.decrypt nonce sealed aad = some message ↔
    issued ⟨nonce, message, aad, sealed⟩
  /-- What was sealed under some data was not sealed under other data. -/
  bound : forall {nonce sealed message aad other aad'}, issued ⟨nonce, message, aad, sealed⟩ ->
    issued ⟨nonce, other, aad', sealed⟩ -> aad = aad'
  sealed_size : forall {sealing}, issued sealing -> tagBytes ≤ sealing.sealed.size
  decode_encode : forall bytes, service.base64Decode (service.base64Encode bytes) = some bytes
  /-- Only the canonical encoding is decoded. -/
  encode_decode : forall {text bytes}, service.base64Decode text = some bytes ->
    service.base64Encode bytes = text

/-- The record of a call. -/
def Sealing.record (sealing : Sealing) : String :=
  service.base64Encode (service.keyId ++ sealing.nonce ++ sealing.sealed)

section Opening

variable {service} {issued : Sealing -> Prop} {random : Random} {aad plaintext record text : String}

/-- What opens is the record of a call that sealed under the same data. -/
theorem decryptWithAad_ok (ideal : service.Ideal issued)
    (opened : service.decryptWithAad aad text = .ok plaintext) :
    Exists fun sealing => issued sealing ∧ sealing.aad = aad.toUTF8 ∧
      sealing.message = plaintext.toUTF8 ∧ text = sealing.record service := by
  unfold decryptWithAad at opened
  cases decoded : service.base64Decode text with
  | none =>
      rw [decoded] at opened
      cases opened
  | some envelope =>
      rw [decoded] at opened
      dsimp only at opened
      split at opened
      · cases opened
      · rename_i long
        split at opened
        · cases opened
        · rename_i same
          split at opened
          · cases opened
          · rename_i bytes decrypted
            split at opened
            · rename_i read valid
              cases opened
              refine ⟨_, ideal.opens.mp decrypted, rfl, ?_, ?_⟩
              · unfold String.fromUTF8? at valid
                split at valid
                · cases valid
                  rfl
                · cases valid
              · have key : envelope.extract 0 keyIdBytes = service.keyId :=
                  ByteArray.ext (by simpa using same)
                have whole : service.keyId ++
                    envelope.extract keyIdBytes (keyIdBytes + nonceBytes) ++
                    envelope.extract (keyIdBytes + nonceBytes) envelope.size = envelope := by
                  rw [← key, ByteArray.extract_append_extract, Nat.zero_min,
                    Nat.max_eq_right (by omega), ByteArray.extract_append_extract, Nat.zero_min,
                    Nat.max_eq_right (by omega)]
                  exact ByteArray.extract_zero_size
                unfold Sealing.record
                rw [whole]
                exact (ideal.encode_decode decoded).symm
            · cases opened

/-- The call behind a record. -/
theorem encryptWithAad_ok (encrypted : service.encryptWithAad random aad plaintext = .ok record) :
    Exists fun sealed => service.encrypt random.nonce plaintext.toUTF8 aad.toUTF8 = some sealed ∧
      record = Sealing.record service ⟨random.nonce, plaintext.toUTF8, aad.toUTF8, sealed⟩ := by
  unfold encryptWithAad at encrypted
  cases made : service.encrypt random.nonce plaintext.toUTF8 aad.toUTF8 with
  | none =>
      rw [made] at encrypted
      cases encrypted
  | some sealed =>
      rw [made] at encrypted
      cases encrypted
      exact ⟨sealed, rfl, rfl⟩

/-- The record of a call opens under the data of the call, and no other. -/
theorem decryptWithAad_record (ideal : service.Ideal issued) {nonce sealed : ByteArray}
    {aad' other : String} (nonceSize : nonce.size = nonceBytes)
    (made : issued ⟨nonce, plaintext.toUTF8, aad.toUTF8, sealed⟩) :
    service.decryptWithAad aad'
        (Sealing.record service ⟨nonce, plaintext.toUTF8, aad.toUTF8, sealed⟩) = .ok other ↔
      other = plaintext ∧ aad' = aad := by
  unfold Sealing.record
  rw [decryptWithAad_envelope ideal.decode_encode nonceSize (ideal.sealed_size made)]
  have opened := ideal.opens.mpr made
  constructor
  · intro result
    split at result
    · cases result
    · rename_i bytes decrypted
      have same : aad' = aad :=
        toUTF8_injective (ideal.bound (ideal.opens.mp decrypted) made)
      rw [same, opened] at decrypted
      cases decrypted
      rw [fromUTF8_toUTF8] at result
      cases result
      exact ⟨rfl, same⟩
  · rintro ⟨rfl, rfl⟩
    rw [opened]
    simp only [fromUTF8_toUTF8]

end Opening

/-- A record opens for the owner and the purpose it was sealed for, and for no
others.  Every other text is refused with an error, and no text is a panic. -/
theorem records_open_where_sealed (issued : Sealing -> Prop) (ideal : service.Ideal issued) :
    (forall (random : Random) (owner : Int) (purpose : Purpose) (plaintext record : String),
      service.sealFor random owner purpose plaintext = .ok record ->
      (forall sealed, service.encrypt random.nonce plaintext.toUTF8 (purpose.aad owner).toUTF8 =
          some sealed ->
        issued ⟨random.nonce, plaintext.toUTF8, (purpose.aad owner).toUTF8, sealed⟩) ->
      forall other purpose',
        (service.openFor other purpose' record = .ok plaintext ↔
          owner = other ∧ purpose = purpose') ∧
        (¬ (owner = other ∧ purpose = purpose') -> Exists fun message =>
          service.openFor other purpose' record = .error message)) ∧
    forall aad text,
      service.decryptChecked aad text = some (service.decryptWithAad aad text) ∧
      ((forall sealing, issued sealing -> sealing.aad = aad.toUTF8 ->
          text ≠ sealing.record service) ->
        Exists fun message => service.decryptWithAad aad text = .error message) := by
  constructor
  · intro random owner purpose plaintext record encrypted recorded other purpose'
    rw [sealFor_eq] at encrypted
    rcases encryptWithAad_ok encrypted with ⟨sealed, made, rfl⟩
    have opening := fun result => @decryptWithAad_record service issued (purpose.aad owner)
      plaintext ideal random.nonce sealed (purpose'.aad other) result random.nonceSize
      (recorded sealed made)
    rw [openFor_eq]
    constructor
    · rw [opening plaintext]
      constructor
      · rintro ⟨-, same⟩
        exact aad_injective same.symm
      · rintro ⟨rfl, rfl⟩
        exact ⟨rfl, rfl⟩
    · intro different
      cases result : service.decryptWithAad (purpose'.aad other) _ with
      | error message => exact ⟨message, rfl⟩
      | ok wrong => exact absurd (aad_injective ((opening wrong).mp result).2.symm) different
  · intro aad text
    refine ⟨service.decryptChecked_eq aad text, ?_⟩
    intro foreign
    cases result : service.decryptWithAad aad text with
    | error message => exact ⟨message, rfl⟩
    | ok plaintext =>
        rcases decryptWithAad_ok ideal result with ⟨sealing, made, data, -, same⟩
        exact absurd same (foreign sealing made data)

end PasswordCryptoService

namespace Sample

open PasswordCryptoService

/-- The one call of a cipher that has sealed the TOTP secret of operator 42. -/
def sealing : Sealing where
  nonce := random.nonce
  message := "JBSWY3DP".toUTF8
  aad := (Purpose.aad 42 (.secret "totp")).toUTF8
  sealed := tag ++ "JBSWY3DP".toUTF8

/-- A service whose cipher opens what it has sealed, with a strict encoding. -/
def vault : PasswordCryptoService where
  keyId := crypto.keyId
  keyIdSize := crypto.keyIdSize
  encrypt := fun _ message _ => some (tag ++ message)
  decrypt := fun nonce ciphertext aad =>
    if nonce.data = sealing.nonce.data ∧ ciphertext.data = sealing.sealed.data ∧
        aad.data = sealing.aad.data then some sealing.message
    else none
  base64Encode := letters
  base64Decode := fun text => if letters (bytes text) = text then some (bytes text) else none
  pwhashStr := crypto.pwhashStr
  pwhashStrVerify := crypto.pwhashStrVerify
  pwhashStrNeedsRehash := crypto.pwhashStrNeedsRehash

theorem vault_ideal : vault.Ideal (fun made => made = sealing) where
  opens := by
    intro nonce sealed aad message
    simp only [vault]
    constructor
    · intro opened
      split at opened
      · rename_i same
        cases opened
        rcases same with ⟨first, second, third⟩
        rw [ByteArray.ext first, ByteArray.ext second, ByteArray.ext third]
      · cases opened
    · intro same
      rw [← same, if_pos ⟨rfl, rfl, rfl⟩]
  bound := by
    intro nonce sealed message aad other aad' first second
    exact congrArg Sealing.aad (first.trans second.symm)
  sealed_size := by
    rintro made rfl
    have size : tag.size = 16 := rfl
    change 16 ≤ (tag ++ "JBSWY3DP".toUTF8).size
    rw [ByteArray.size_append, size]
    exact Nat.le_add_right 16 _
  decode_encode := by
    intro content
    simp only [vault]
    rw [bytes_letters, if_pos rfl]
  encode_decode := by
    intro text content decoded
    simp only [vault] at decoded ⊢
    split at decoded
    · rename_i canonical
      cases decoded
      exact canonical
    · cases decoded

/-- The secret opens as the TOTP secret of operator 42, and not as a recovery code. -/
theorem records_open_where_sealed_totp : Exists fun record =>
    vault.openFor 42 (.secret "totp") record = .ok "JBSWY3DP" ∧
      Exists fun message => vault.openFor 42 (.secret "recovery") record = .error message := by
  have opening := (vault.records_open_where_sealed _ vault_ideal).1 random 42 (.secret "totp")
    "JBSWY3DP" _ rfl (by
      intro sealed made
      cases made
      rfl)
  refine ⟨_, (opening 42 (.secret "totp")).1.mpr ⟨rfl, rfl⟩,
    (opening 42 (.secret "recovery")).2 ?_⟩
  rintro ⟨-, same⟩
  exact absurd same (by decide)

end Sample
end KrakenUi
