import KrakenUi.Text

namespace KrakenUi

open Text

/-!
# Checks on what a client sends

The HTML sanitiser is a library.  Its cleaning function is the parameter
`clean` of everything here, already configured with an empty set of allowed
tags.  The cryptographic comparison of CSRF tokens is a parameter as well;
what the source adds to both is below.
-/

namespace Sanitize

def plainText (clean : String -> String) (input : String) : String :=
  trim (clean input)

/-- A secret is only refused when it has a markup delimiter and cleaning it
changes it, so that an ampersand alone is harmless. -/
def secretHasRejectedMarkup (clean : String -> String) (input : String) : Bool :=
  let characters := input.toList
  let hasMarkupDelimiter := characters.contains '<' || characters.contains '>'
  hasMarkupDelimiter && plainText clean input ≠ input

/-- Escape the metacharacters of `LIKE`. -/
def escapeLikeChars : List Char -> List Char
  | [] => []
  | character :: rest =>
      if character = '\\' ∨ character = '%' ∨ character = '_' then
        '\\' :: character :: escapeLikeChars rest
      else character :: escapeLikeChars rest

def escapeLike (input : String) : String :=
  String.ofList (escapeLikeChars input.toList)

end Sanitize

namespace Csrf

/-- Base64-shaped, nonempty and bounded. -/
def isWellFormed (submitted : String) : Bool :=
  !isEmpty submitted && len submitted ≤ 512 &&
    submitted.toList.all fun character =>
      isAsciiAlphanumeric character || character = '+' || character = '/' || character = '=' ||
        character = '-' || character = '_'

/-- A token is the comparison it performs on a submitted value. -/
abbrev Token := String -> Bool

def verify (token : Token) (submitted : String) : Bool :=
  isWellFormed submitted && token submitted

end Csrf

namespace Password

def minimumPasswordLength : Nat := 14

/-- The number of character classes a password uses.  A byte outside ASCII
counts as a symbol. -/
def characterClasses (password : String) : Nat :=
  let characters := password.toList
  [characters.any isAsciiUppercase, characters.any isAsciiLowercase, characters.any isAsciiDigit,
    characters.any fun character => !isAsciiAlphanumeric character].countP id

/-- `MediumOrStrongPasswordPolicy::validate`, with the texts of its errors. -/
def validate (password identity : String) : Except String Unit :=
  let containsIdentity := contains (toAsciiLowercase password) (toAsciiLowercase identity)
  if password.toList.length < minimumPasswordLength then
    .error "password must contain at least 14 characters"
  else if characterClasses password < 3 then
    .error "password must include at least three character classes"
  else if 3 ≤ len identity && containsIdentity then
    .error "password cannot contain the login identifier"
  else .ok ()

def accepts (password identity : String) : Bool :=
  match validate password identity with
  | .ok _ => true
  | .error _ => false

theorem accepts_of_checks {password identity : String}
    (long : ¬ password.toList.length < minimumPasswordLength)
    (mixed : ¬ characterClasses password < 3)
    (apart : contains (toAsciiLowercase password) (toAsciiLowercase identity) = false) :
    accepts password identity = true := by
  have validated : validate password identity = .ok () := by
    unfold validate
    dsimp only
    rw [if_neg long, if_neg mixed, apart, Bool.and_false, if_neg (by simp)]
  unfold accepts
  rw [validated]

end Password
end KrakenUi
