import KrakenUi.JavaScript.RegExp

namespace KrakenUi
namespace Payload

open JavaScript

/-!
# The payload of a recorded attack in the browser

The page takes the payload apart line by line and builds it again from text
nodes and coloured spans.  The first line with something on it may be a request
line or a status line, headers follow until a blank line or a line that is none,
and everything else is searched for JSON tokens.
-/

inductive Node where
  | text (content : JsString)
  | span (className : String) (content : JsString)

def Node.content : Node -> JsString
  | .text content => content
  | .span _ content => content

/-- The text of all nodes that were appended. -/
def textContent (nodes : List Node) : JsString := nodes.flatMap Node.content

def appendText (parent : List Node) (text : JsString) : List Node :=
  if text = [] then parent else parent ++ [.text text]

def appendToken (parent : List Node) (className : String) (text : JsString) : List Node :=
  if text = [] then parent else parent ++ [.span className text]

theorem textContent_append (parent nodes : List Node) :
    textContent (parent ++ nodes) = textContent parent ++ textContent nodes :=
  List.flatMap_append

@[simp] theorem textContent_appendText (parent : List Node) (text : JsString) :
    textContent (appendText parent text) = textContent parent ++ text := by
  unfold appendText
  split
  · rename_i nothing
    rw [nothing, List.append_nil]
  · rw [textContent_append]
    exact congrArg (textContent parent ++ ·) (List.append_nil text)

@[simp] theorem textContent_appendToken (parent : List Node) (className : String)
    (text : JsString) :
    textContent (appendToken parent className text) = textContent parent ++ text := by
  unfold appendToken
  split
  · rename_i nothing
    rw [nothing, List.append_nil]
  · rw [textContent_append]
    exact congrArg (textContent parent ++ ·) (List.append_nil text)

/-! ## Body lines -/

namespace Pattern

open RegExp

def upper : RegExp := .unit (between 'A' 'Z')

def noSpace : RegExp := .unit fun code => !isWhiteSpace code

def whole : RegExp -> RegExp := fun keyword => .seq .boundary (.seq keyword .boundary)

/-- `"(?:[^"\\]|\\.)*"`. -/
def string : RegExp :=
  .seq (one '"') (.seq (.star (.either (noneOf "\"\\") (.seq (one '\\') dot))) (one '"'))

/-- `-?\b\d+(?:\.\d+)?\b`. -/
def number : RegExp :=
  .seq (optional (one '-')) (.seq .boundary (.seq (plus digit)
    (.seq (optional (.seq (one '.') (plus digit))) .boundary)))

/-- `\btrue\b|\bfalse\b|\bnull\b`. -/
def keyword : RegExp :=
  .either (whole (word "true")) (.either (whole (word "false")) (whole (word "null")))

/-- `("(?:[^"\\]|\\.)*")(\s*:)?|(-?\b\d+(?:\.\d+)?\b)|(\btrue\b|\bfalse\b|\bnull\b)`. -/
def token : RegExp :=
  .either (.seq (.group 1 string) (optional (.group 2 (.seq (.star space) (one ':')))))
    (.either (.group 3 number) (.group 4 keyword))

/-- `HTTP\/\d(?:\.\d)?`. -/
def protocol : RegExp :=
  .seq (word "HTTP/") (.seq digit (optional (.seq (one '.') digit)))

/-- `^([A-Z]{3,10})\s+(\S+)\s+(HTTP\/\d(?:\.\d)?)\s*$`. -/
def requestLine : RegExp :=
  .seq .start (.seq (.group 1 (.seq (times upper 3) (upTo upper 7))) (.seq (plus space)
    (.seq (.group 2 (plus noSpace)) (.seq (plus space)
      (.seq (.group 3 protocol) (.seq (.star space) .finish))))))

/-- `^(HTTP\/\d(?:\.\d)?)\s+(\d{3})\s*(.*)$`. -/
def statusLine : RegExp :=
  .seq .start (.seq (.group 1 protocol) (.seq (plus space)
    (.seq (.group 2 (times digit 3)) (.seq (.star space) (.seq (.group 3 (.star dot)) .finish)))))

/-- A character of ``[!#$%&'*+\-.^_`|~0-9A-Za-z]``. -/
def isHeaderCharacter (code : UInt16) : Bool :=
  (literal "!#$%&'*+-.^_`|~").contains code || between '0' '9' code || between 'A' 'Z' code ||
    between 'a' 'z' code

/-- A header name, a colon, and everything behind it. -/
def headerLine : RegExp :=
  .seq .start (.seq (.group 1 (plus (.unit isHeaderCharacter))) (.seq (one ':')
    (.seq (.group 2 (.star (.unit fun _ => true))) .finish)))

end Pattern

def appendMatch (parent : List Node) (found : Position) : List Node :=
  if found.group 1 ≠ [] ∧ found.group 2 ≠ [] then
    appendText (appendToken parent "waf-tok-json-key" (found.group 1)) (found.group 2)
  else if found.group 1 ≠ [] then appendToken parent "waf-tok-string" (found.group 1)
  else if found.group 3 ≠ [] then appendToken parent "waf-tok-number" (found.group 3)
  else if found.group 4 ≠ [] then appendToken parent "waf-tok-keyword" (found.group 4)
  else parent

/-- The loop over the matches from one position on; nothing for a loop that
takes more rounds than it is given. -/
def highlightFrom (parent : List Node) : Nat -> JsString -> JsString -> Option (List Node)
  | 0, _, _ => none
  | fuel + 1, before, after =>
      match Pattern.token.search before after with
      | none => some (appendText parent after)
      | some (skipped, found) =>
          highlightFrom (appendMatch
            (appendText parent skipped) found) fuel found.before found.after

def highlightBodyLine (parent : List Node) (line : JsString) : Option (List Node) :=
  highlightFrom parent (line.length + 1) [] line

/-! ## The lines of a message -/

def blank : JsString := literal " "

def appendRequestLine (parent : List Node) (found : Position) : List Node :=
  let method := appendToken parent "waf-tok-method" (found.group 1)
  let uri := appendToken (appendText method blank) "waf-tok-uri" (found.group 2)
  appendToken (appendText uri blank) "waf-tok-proto" (found.group 3)

def appendStatusLine (parent : List Node) (found : Position) : List Node :=
  let proto := appendToken parent "waf-tok-proto" (found.group 1)
  let status := appendToken (appendText proto blank) "waf-tok-status" (found.group 2)
  if found.group 3 ≠ [] then
    appendToken (appendText status blank) "waf-tok-status" (found.group 3)
  else status

def appendHeaderLine (parent : List Node) (found : Position) : List Node :=
  let header := appendToken parent "waf-tok-header" (found.group 1)
  appendToken (appendText header (literal ":")) "waf-tok-value" (found.group 2)

/-- The nodes, and whether headers may follow. -/
def highlightHttpLine (parent : List Node) (line : JsString) (isFirst inHeaders : Bool) :
    Option (List Node × Bool) :=
  let body := (highlightBodyLine parent line).map fun nodes => (nodes, false)
  if isFirst then
    match Pattern.requestLine.exec line, Pattern.statusLine.exec line with
    | some found, _ => some (appendRequestLine parent found, true)
    | none, some found => some (appendStatusLine parent found, true)
    | none, none => body
  else if inHeaders then
    match Pattern.headerLine.exec line with
    | some found => some (appendHeaderLine parent found, true)
    | none => body
  else body

structure Rendering where
  code : List Node
  sawFirst : Bool
  inHeaders : Bool

def newline : JsString := literal "\n"

def isBlank (line : JsString) : Bool := (trim line).isEmpty

def appendLine (rendering : Rendering) (index : Nat) (line : JsString) : Option Rendering :=
  let code := if 0 < index then appendText rendering.code newline else rendering.code
  if !rendering.sawFirst && isBlank line then
    some { rendering with code := appendText code line }
  else if rendering.inHeaders && isBlank line && rendering.sawFirst then
    some { rendering with code := appendText code line, inHeaders := false }
  else
    (highlightHttpLine code line (!rendering.sawFirst) rendering.inHeaders).map fun shown =>
      ⟨shown.1, true, shown.2⟩

def appendLines (rendering : Rendering) (index : Nat) : List JsString -> Option Rendering
  | [] => some rendering
  | line :: lines =>
      (appendLine rendering index line).bind fun next => appendLines next (index + 1) lines

def highlightWafPayload (source : JsString) : Option (List Node) :=
  if source = [] then some []
  else (appendLines ⟨[], false, true⟩ 0 (source.splitOn (unit '\n'))).map Rendering.code

end Payload
end KrakenUi
