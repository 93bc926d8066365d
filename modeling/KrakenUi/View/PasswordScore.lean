import KrakenUi.JavaScript.Strings

namespace KrakenUi
namespace PasswordScore

open JavaScript

/-!
# The password policy in the browser

While a password is typed, the page says how strong it is and whether the form
can be submitted.  `toLowerCase` belongs to the language and is a parameter.
-/

structure Rules where
  length : Bool
  lower : Bool
  upper : Bool
  digit : Bool
  symbol : Bool
  identity : Bool

structure Score where
  ok : Bool
  label : String
  rules : Rules

/-- `/[^A-Za-z0-9]/`. -/
def isSymbol (character : UInt16) : Bool :=
  !(between 'A' 'Z' character || between 'a' 'z' character || between '0' '9' character)

/-- `email.split("@")[0]`. -/
def localPart (email : JsString) : JsString :=
  email.takeWhile (· != unit '@')

section Scoring

variable (toLowerCase : JsString -> JsString)

def identityTokens (username email : JsString) : List JsString :=
  ([username, email, toLowerCase (localPart email)].map fun text => toLowerCase (trim text)).filter
    fun token => 3 ≤ token.length

def rulesOf (value username email : JsString) : Rules where
  length := decide (14 ≤ value.length)
  lower := value.any (between 'a' 'z')
  upper := value.any (between 'A' 'Z')
  digit := value.any (between '0' '9')
  symbol := value.any isSymbol
  identity := !(identityTokens toLowerCase username email).any fun token =>
    includes (toLowerCase value) token

def Rules.score (rules : Rules) : Nat :=
  [rules.length, rules.lower, rules.upper, rules.digit, rules.symbol, rules.identity].countP id

def Rules.characterClasses (rules : Rules) : Nat :=
  [rules.lower, rules.upper, rules.digit, rules.symbol].countP id

def Rules.label (rules : Rules) : String :=
  if rules.score ≤ 2 then "Strength: weak"
  else if rules.score ≤ 4 then "Strength: medium"
  else if rules.score = 5 then "Strength: almost strong"
  else "Strength: strong"

def passwordScore (password username email : JsString) (optional : Bool) : Score :=
  if optional && password.length == 0 then
    ⟨true, "Strength: unchanged", ⟨true, true, true, true, true, true⟩⟩
  else
    let rules := rulesOf toLowerCase password username email
    ⟨rules.length && rules.identity && decide (3 ≤ rules.characterClasses), rules.label, rules⟩

end Scoring
end PasswordScore
end KrakenUi
