import KrakenUi.Text

namespace KrakenUi
namespace Redact

open Text

/-!
# Redaction of sensitive values

The scanner of the source, with a list of characters in place of an index into
them: what is left to read is the rest of the list.  It reads a name, looks past
spaces, tabs and quotes for a delimiter, and masks the value that follows when
the name is sensitive.

Letters, digits and lower case are those of the Unicode tables that the source
is compiled with.  The tables are a parameter; what is fixed is that they are
the usual ones on ASCII.
-/

/-- The tables behind `char::is_alphanumeric` and `str::to_lowercase`. -/
structure Unicode where
  isAlphanumeric : Char -> Bool
  toLowercase : List Char -> List Char
  alphanumeric_ascii : forall character, character.toNat < 128 ->
    isAlphanumeric character = isAsciiAlphanumeric character
  lowercase_ascii : forall text, (forall character, character ∈ text -> character.toNat < 128) ->
    toLowercase text = text.map asciiLower

/-- Placeholder shown in place of a redacted value. -/
def redacted : String := "+++++"

/-- Parameter names whose values must not be shown, in many languages. -/
def sensitiveWords : List String :=
  ["mot de passe", "passe", "code", "jeton", "token", "bearer", "porteur", "clé", "cle", "clef",
    "passwort", "kennwort", "kode", "träger", "traeger", "schlüssel", "schlussel",
    "palavra-passe", "palavrapasse", "senha", "código", "codigo", "portador", "chave",
    "contraseña", "contrasena", "clave", "password", "passwd", "pass", "key", "пароль", "код",
    "токен", "носитель", "ключ", "密码", "密碼", "代码", "代碼", "令牌", "持有者", "密钥",
    "密鑰", "钥匙", "鑰匙", "パスワード", "暗号", "コード", "トークン", "ベアラー", "鍵",
    "キー", "kata sandi", "katasandi", "sandi", "pembawa", "kunci"]

def isQuote (character : Char) : Bool :=
  character == '"' || character == '\''

/-- `trim_matches` with the two quotes. -/
def trimQuotes (characters : List Char) : List Char :=
  ((characters.dropWhile isQuote).reverse.dropWhile isQuote).reverse

def isSensitiveKey (unicode : Unicode) (key : List Char) : Bool :=
  let name := unicode.toLowercase (trimQuotes (trimChars key))
  if name.isEmpty then false
  else sensitiveWords.any fun word => decide (word.toList <:+: name)

def isKeyChar (unicode : Unicode) (character : Char) : Bool :=
  unicode.isAlphanumeric character || character == '_' || character == '-'

def isValueTerminator (character : Char) : Bool :=
  ['&', ';', ',', '\n', '\r', '\t', ' ', '"', '\'', '}', ']', ')', '<', '>', '#'].contains character

/-- What may stand between a name and its delimiter. -/
def isGap (character : Char) : Bool :=
  [' ', '\t', '"', '\''].contains character

/-- What may stand between the delimiter and the value. -/
def isBlank (character : Char) : Bool :=
  [' ', '\t'].contains character

def isDelimiter (character : Char) : Bool :=
  character == '=' || character == ':'

/-- An empty value is left empty. -/
def mask (value : List Char) : List Char :=
  if value.isEmpty then [] else redacted.toList

/-- What is written for the value at the front, and what is left after it. -/
def redactValue : List Char -> List Char × List Char
  | [] => ([], [])
  | opening :: rest =>
      if isQuote opening then
        let value := rest.takeWhile (· != opening)
        let closing := rest.dropWhile (· != opening)
        (opening :: (mask value ++ closing.take 1), closing.drop 1)
      else
        let value := (opening :: rest).takeWhile (!isValueTerminator ·)
        (mask value, (opening :: rest).dropWhile (!isValueTerminator ·))

theorem length_dropWhile_le (keep : Char -> Bool) (text : List Char) :
    (text.dropWhile keep).length ≤ text.length :=
  (List.dropWhile_suffix keep).length_le

/-- What is dropped is dropped up to a character that stays. -/
theorem stops_dropWhile {keep : Char -> Bool} {text : List Char} {first : Char}
    (head : (text.dropWhile keep).head? = some first) : keep first = false := by
  have stops := List.head?_dropWhile_not keep text
  rw [head] at stops
  simpa using stops

theorem length_redactValue_le (text : List Char) :
    (redactValue text).2.length ≤ text.length := by
  cases text with
  | nil => exact Nat.le_refl 0
  | cons opening rest =>
      by_cases quoted : isQuote opening = true
      · simp only [redactValue, quoted, if_true, List.length_drop, List.length_cons]
        have shorter := length_dropWhile_le (· != opening) rest
        omega
      · simp only [redactValue, quoted]
        exact length_dropWhile_le (!isValueTerminator ·) (opening :: rest)

/-- `redact_sensitive_values` on characters. -/
def redactChars (unicode : Unicode) : List Char -> List Char
  | [] => []
  | first :: rest =>
      if !isKeyChar unicode first then first :: redactChars unicode rest
      else
        let key := first :: rest.takeWhile (isKeyChar unicode)
        let after := rest.dropWhile (isKeyChar unicode)
        let ahead := after.dropWhile isGap
        if ahead.head?.any isDelimiter && isSensitiveKey unicode key then
          let padded := ahead.drop 1
          let value := redactValue (padded.dropWhile isBlank)
          key ++ after.takeWhile isGap ++ ahead.take 1 ++ padded.takeWhile isBlank ++ value.1 ++
            redactChars unicode value.2
        else key ++ redactChars unicode after
  termination_by text => text.length
  decreasing_by
    · exact Nat.lt_succ_self rest.length
    · calc value.2.length
        _ ≤ (padded.dropWhile isBlank).length := length_redactValue_le _
        _ ≤ padded.length := length_dropWhile_le isBlank padded
        _ ≤ ahead.length := (List.drop_sublist 1 ahead).length_le
        _ ≤ after.length := length_dropWhile_le isGap after
        _ ≤ rest.length := length_dropWhile_le (isKeyChar unicode) rest
        _ < (first :: rest).length := Nat.lt_succ_self rest.length
    · exact Nat.lt_succ_of_le (length_dropWhile_le (isKeyChar unicode) rest)

def redactSensitiveValues (unicode : Unicode) (input : String) : String :=
  String.ofList (redactChars unicode input.toList)

end Redact
end KrakenUi
