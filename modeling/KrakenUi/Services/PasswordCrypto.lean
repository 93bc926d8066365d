import KrakenUi.Console

namespace KrakenUi

/-!
# The password service

A stored record is the hash of a password, sealed for the account it belongs
to: key id, nonce and ciphertext in one base64 text, with the account in the
authenticated data.  The cipher, the hash function and the encoding belong to
libraries and are parameters here.  The salt of a hash and the nonce of a
record are random, so both are arguments.

What the libraries promise is collected in `Lawful`.  The hash is idealised: a
hash text accepts no password but the one it was made from.
-/

namespace PasswordCryptoService

def keyIdBytes : Nat := 16

def nonceBytes : Nat := 24

def tagBytes : Nat := 16

def aadPrefix : String := "kraken_ui:v1:user:"

def passwordAad (userId : Int) : String := aadPrefix ++ toString userId ++ ":password_hash"

def secretAad (userId : Int) (domain : String) : String :=
  aadPrefix ++ toString userId ++ ":secret:" ++ domain

/-- A configured key id, filled up with zeros. -/
def normalizeKeyId (keyId : String) : Except String ByteArray :=
  if keyId.toUTF8.size = 0 ∨ keyIdBytes < keyId.toUTF8.size ∨
      keyId.toList.any (fun character => decide (128 ≤ character.toNat)) = true then
    .error "KRAKEN_UI_PASSWORD_KEY_ID must contain 1 to 16 ASCII bytes"
  else .ok (keyId.toUTF8 ++ ⟨Array.replicate (keyIdBytes - keyId.toUTF8.size) 0⟩)

/-- A key id that was accepted has the size that the envelope reserves for it. -/
theorem normalizeKeyId_size {keyId : String} {normalized : ByteArray}
    (accepted : normalizeKeyId keyId = .ok normalized) : normalized.size = keyIdBytes := by
  unfold normalizeKeyId at accepted
  split at accepted
  · cases accepted
  · rename_i checked
    cases accepted
    have filled : (ByteArray.mk (Array.replicate (keyIdBytes - keyId.toUTF8.size) 0)).size =
        keyIdBytes - keyId.toUTF8.size := Array.size_replicate
    rw [ByteArray.size_append, filled]
    omega

end PasswordCryptoService

/-- A service with its key, and the libraries it calls. -/
structure PasswordCryptoService where
  keyId : ByteArray
  keyIdSize : keyId.size = PasswordCryptoService.keyIdBytes
  /-- The cipher under the key: nonce, message and authenticated data. -/
  encrypt : ByteArray -> ByteArray -> ByteArray -> Option ByteArray
  /-- Nonce, ciphertext and authenticated data. -/
  decrypt : ByteArray -> ByteArray -> ByteArray -> Option ByteArray
  base64Encode : ByteArray -> String
  base64Decode : String -> Option ByteArray
  /-- `crypto_pwhash_str` at the moderate limits: salt and password. -/
  pwhashStr : ByteArray -> ByteArray -> Option String
  pwhashStrVerify : String -> ByteArray -> Bool
  pwhashStrNeedsRehash : String -> Option Bool

namespace PasswordCryptoService

/-- The random bytes of one call. -/
structure Random where
  salt : ByteArray
  nonce : ByteArray
  nonceSize : nonce.size = nonceBytes

variable (service : PasswordCryptoService)

def encryptWithAad (random : Random) (aad plaintext : String) : Except String String :=
  match service.encrypt random.nonce plaintext.toUTF8 aad.toUTF8 with
  | none => .error "XChaCha20-Poly1305 encryption failed"
  | some encrypted => .ok (service.base64Encode (service.keyId ++ random.nonce ++ encrypted))

def decryptWithAad (aad encryptedRecord : String) : Except String String :=
  match service.base64Decode encryptedRecord with
  | none => .error "encrypted record is not valid base64"
  | some envelope =>
      if envelope.size < keyIdBytes + nonceBytes + tagBytes then
        .error "encrypted record is truncated"
      else if (envelope.extract 0 keyIdBytes).data ≠ service.keyId.data then
        .error "encrypted record references an unavailable key id"
      else
        let nonce := envelope.extract keyIdBytes (keyIdBytes + nonceBytes)
        let ciphertext := envelope.extract (keyIdBytes + nonceBytes) envelope.size
        match service.decrypt nonce ciphertext aad.toUTF8 with
        | none => .error "record authentication failed"
        | some plaintextBytes =>
            match String.fromUTF8? plaintextBytes with
            | some plaintext => .ok plaintext
            | none => .error "decrypted record is not UTF-8"

def encryptHash (random : Random) (userId : Int) (hashRecord : String) : Except String String :=
  service.encryptWithAad random (passwordAad userId) hashRecord

def decryptHash (userId : Int) (encryptedRecord : String) : Except String String :=
  service.decryptWithAad (passwordAad userId) encryptedRecord

def encryptSecret (random : Random) (userId : Int) (domain plaintext : String) :
    Except String String :=
  service.encryptWithAad random (secretAad userId domain) plaintext

def decryptSecret (userId : Int) (domain ciphertext : String) : Except String String :=
  service.decryptWithAad (secretAad userId domain) ciphertext

def encryptPassword (random : Random) (userId : Int) (password : String) : Except String String :=
  match service.pwhashStr random.salt password.toUTF8 with
  | none => .error "dryoc could not hash the password"
  | some hashRecord => service.encryptHash random userId hashRecord

/-- The verdict, and a record at the present limits if the stored one has others. -/
def verifyPassword (random : Random) (userId : Int) (encryptedRecord password : String) :
    Except String PasswordVerification :=
  match service.decryptHash userId encryptedRecord with
  | .error message => .error message
  | .ok hashRecord =>
      if service.pwhashStrVerify hashRecord password.toUTF8 = false then .ok ⟨false, none⟩
      else
        match service.pwhashStrNeedsRehash hashRecord with
        | none => .error "unable to evaluate password hash parameters"
        | some false => .ok ⟨true, none⟩
        | some true =>
            match service.encryptPassword random userId password with
            | .error message => .error message
            | .ok replacement => .ok ⟨true, some replacement⟩

/-- What the libraries are documented to do. -/
structure Lawful : Prop where
  decode_encode : forall bytes, service.base64Decode (service.base64Encode bytes) = some bytes
  sealed_size : forall {nonce message aad sealed},
    service.encrypt nonce message aad = some sealed -> tagBytes ≤ sealed.size
  decrypt_encrypt : forall {nonce message aad sealed},
    service.encrypt nonce message aad = some sealed ->
      service.decrypt nonce sealed aad = some message
  verifies : forall {salt password hash}, service.pwhashStr salt password = some hash ->
    service.pwhashStrVerify hash password = true
  verifies_one : forall {hash password other}, service.pwhashStrVerify hash password = true ->
    service.pwhashStrVerify hash other = true -> password = other

/-- The record opens for the account, and its hash accepts the password. -/
def Accepts (userId : Int) (encryptedRecord password : String) : Prop :=
  Exists fun hashRecord => service.decryptHash userId encryptedRecord = .ok hashRecord ∧
    service.pwhashStrVerify hashRecord password.toUTF8 = true

section Records

variable {service} {random : Random} {userId : Int} {aad plaintext record password : String}

theorem fromUTF8_toUTF8 (text : String) : String.fromUTF8? text.toUTF8 = some text :=
  dif_pos text.isValidUTF8

theorem toUTF8_injective {first second : String} (same : first.toUTF8 = second.toUTF8) :
    first = second := by
  have read := fromUTF8_toUTF8 first
  rw [same, fromUTF8_toUTF8] at read
  exact (Option.some.inj read).symm

/-- An envelope is taken apart where it was put together. -/
theorem decryptWithAad_envelope {nonce ciphertext : ByteArray}
    (decode_encode : forall bytes, service.base64Decode (service.base64Encode bytes) = some bytes)
    (nonceSize : nonce.size = nonceBytes) (tagged : tagBytes ≤ ciphertext.size) :
    service.decryptWithAad aad (service.base64Encode (service.keyId ++ nonce ++ ciphertext)) =
      match service.decrypt nonce ciphertext aad.toUTF8 with
      | none => .error "record authentication failed"
      | some plaintextBytes =>
          match String.fromUTF8? plaintextBytes with
          | some plaintext => .ok plaintext
          | none => .error "decrypted record is not UTF-8" := by
  have keySize := service.keyIdSize
  have front : (service.keyId ++ nonce).size = keyIdBytes + nonceBytes := by
    rw [ByteArray.size_append, keySize, nonceSize]
  have total : (service.keyId ++ nonce ++ ciphertext).size =
      keyIdBytes + nonceBytes + ciphertext.size := by
    rw [ByteArray.size_append, front]
  have key : (service.keyId ++ nonce ++ ciphertext).extract 0 keyIdBytes = service.keyId := by
    rw [ByteArray.append_assoc, ← keySize]
    exact ByteArray.extract_append_eq_left rfl
  have middle : (service.keyId ++ nonce ++ ciphertext).extract keyIdBytes
      (keyIdBytes + nonceBytes) = nonce := by
    rw [ByteArray.append_assoc]
    exact (ByteArray.extract_append_size_add' (i := 0) keySize.symm).trans
      (ByteArray.extract_append_eq_left nonceSize.symm)
  have rest : (service.keyId ++ nonce ++ ciphertext).extract
      (keyIdBytes + nonceBytes) (keyIdBytes + nonceBytes + ciphertext.size) = ciphertext :=
    ByteArray.extract_append_eq_right front.symm (by rw [front])
  simp only [decryptWithAad, decode_encode, total]
  rw [if_neg (by omega), key, if_neg (by simp), middle, rest]

/-- What was sealed is found again under the same authenticated data. -/
theorem decrypt_encryptWithAad (lawful : service.Lawful)
    (encrypted : service.encryptWithAad random aad plaintext = .ok record) :
    service.decryptWithAad aad record = .ok plaintext := by
  unfold encryptWithAad at encrypted
  cases sealed : service.encrypt random.nonce plaintext.toUTF8 aad.toUTF8 with
  | none =>
      rw [sealed] at encrypted
      cases encrypted
  | some ciphertext =>
      rw [sealed] at encrypted
      cases encrypted
      rw [decryptWithAad_envelope lawful.decode_encode random.nonceSize (lawful.sealed_size sealed),
        lawful.decrypt_encrypt sealed]
      simp only [fromUTF8_toUTF8]

/-- A record made for a password accepts it. -/
theorem accepts_encryptPassword (lawful : service.Lawful)
    (encrypted : service.encryptPassword random userId password = .ok record) :
    service.Accepts userId record password := by
  unfold encryptPassword at encrypted
  cases hashed : service.pwhashStr random.salt password.toUTF8 with
  | none =>
      rw [hashed] at encrypted
      cases encrypted
  | some hashRecord =>
      rw [hashed] at encrypted
      exact ⟨hashRecord, decrypt_encryptWithAad lawful encrypted, lawful.verifies hashed⟩

/-- A record accepts one password only. -/
theorem Accepts.unique (lawful : service.Lawful) {other : String}
    (first : service.Accepts userId record password)
    (second : service.Accepts userId record other) : password = other := by
  rcases first with ⟨hashRecord, opened, verified⟩
  rcases second with ⟨again, openedAgain, verifiedAgain⟩
  rw [opened] at openedAgain
  cases openedAgain
  exact toUTF8_injective (lawful.verifies_one verified verifiedAgain)

/-- The verdict is that of the stored hash, and a replacement is only made for
a password that was accepted. -/
theorem verifyPassword_ok {verification : PasswordVerification}
    (verified : service.verifyPassword random userId record password = .ok verification) :
    (verification.valid = true ↔ service.Accepts userId record password) ∧
      forall replacement, verification.replacementRecord = some replacement ->
        verification.valid = true ∧
          service.encryptPassword random userId password = .ok replacement := by
  unfold verifyPassword at verified
  cases opened : service.decryptHash userId record with
  | error message =>
      rw [opened] at verified
      cases verified
  | ok hashRecord =>
      rw [opened] at verified
      dsimp only at verified
      split at verified
      · rename_i refused
        cases verified
        constructor
        · constructor
          · intro valid
            cases valid
          · rintro ⟨again, openedAgain, accepted⟩
            rw [opened] at openedAgain
            cases openedAgain
            rw [refused] at accepted
            cases accepted
        · intro replacement missing
          cases missing
      · rename_i accepted
        have accepts : service.Accepts userId record password :=
          ⟨hashRecord, opened, (Bool.not_eq_false _).mp accepted⟩
        split at verified
        · cases verified
        · cases verified
          refine ⟨⟨fun _ => accepts, fun _ => rfl⟩, ?_⟩
          intro replacement missing
          cases missing
        · split at verified
          · cases verified
          · rename_i fresh encrypted
            cases verified
            refine ⟨⟨fun _ => accepts, fun _ => rfl⟩, ?_⟩
            intro replacement same
            cases same
            exact ⟨rfl, encrypted⟩

end Records
end PasswordCryptoService
end KrakenUi
