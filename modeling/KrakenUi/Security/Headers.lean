import KrakenUi.Net.HeaderMap
import KrakenUi.Text

namespace KrakenUi
namespace Headers

open Net Text

/-!
# The file of the security headers

Each line of the file sets a header, and every response of the application gets
all of them.  Which names and values a header may have belongs to the library
of the protocol, which also brings names into one form.
-/

/-- The library: a name in its one form, and a value, if the text is one. -/
structure HeaderLibrary (Name Value : Type) where
  name : List Char -> Option Name
  value : List Char -> Option Value

variable {Name Value : Type} [DecidableEq Name] (library : HeaderLibrary Name Value)

/-- The body of the loop: a line with its number, which may set a header. -/
def readLine (number : Nat) (rawLine : List Char) : Except String (Option (Name × Value)) :=
  let line := trimChars rawLine
  if line.isEmpty || line.head? = some '#' then .ok none
  else match splitOnce ':' line with
  | none => .error s!"missing ':' on security header line {number}"
  | some (before, after) =>
      let name := trimChars before
      let value := trimChars after
      if name.isEmpty || value.isEmpty then
        .error s!"empty name or value on security header line {number}"
      else match library.name name with
      | none => .error s!"invalid header name on line {number}"
      | some headerName =>
          match library.value value with
          | none => .error s!"invalid header value on line {number}"
          | some headerValue => .ok (some (headerName, headerValue))

/-- The loop, from the line with this number on. -/
def readLines (number : Nat) (headers : HeaderMap Name Value) :
    List (List Char) -> Except String (HeaderMap Name Value)
  | [] => .ok headers
  | line :: later =>
      match readLine library number line with
      | .error message => .error message
      | .ok none => readLines (number + 1) headers later
      | .ok (some header) => readLines (number + 1) (headers.insert header.1 header.2) later

def parse (content : String) : Except String (HeaderMap Name Value) :=
  match readLines library 1 [] (lines content.toList) with
  | .error message => .error message
  | .ok headers =>
      if headers.isEmpty then .error "security header file cannot be empty" else .ok headers

/-- The middleware, on the headers of a response. -/
def apply (securityHeaders response : HeaderMap Name Value) : HeaderMap Name Value :=
  response.insertAll securityHeaders

end Headers
end KrakenUi
