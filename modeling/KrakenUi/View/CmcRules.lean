import KrakenUi.JavaScript.Strings

namespace KrakenUi
namespace CmcRules

open JavaScript

/-!
# The page of the firewall modules in the browser

The page keeps the list that it has loaded and a table with one checkbox for
each module that the search shows.  A change of a checkbox is kept in its row
only.  A search builds the rows anew from the list, and submitting reads the
rows.

`toLowerCase` belongs to the language and is a parameter.
-/

/-- An item of the loaded list. -/
structure Module where
  name : JsString
  status : Bool
  deriving DecidableEq

/-- A row of the table, by the attribute and the state of its checkbox. -/
structure Row where
  name : JsString
  checked : Bool
  deriving DecidableEq

structure Page where
  all : List Module
  rows : List Row
  search : JsString

/-- What the operator does: tick or untick a checkbox, or type into the search
box and wait for the filter. -/
inductive Event where
  | change (name : JsString) (checked : Bool)
  | search (text : JsString)

section Behaviour

variable (toLowerCase : JsString -> JsString)

def buildRow (item : Module) : Row := ⟨item.name, item.status⟩

/-- The filter of `applyFilter`, for the text of the search box. -/
def shows (search : JsString) (item : Module) : Bool :=
  let term := toLowerCase (trim search)
  if term.isEmpty then true else includes (toLowerCase item.name) term

def applyFilter (page : Page) : Page :=
  { page with rows := (page.all.filter (shows toLowerCase page.search)).map buildRow }

/-- The page when the list has been loaded. -/
def load (all : List Module) (search : JsString) : Page :=
  applyFilter toLowerCase ⟨all, [], search⟩

/-- Only a checkbox that is on the page can be changed. -/
def step (page : Page) : Event -> Option Page
  | .change name checked =>
      if page.rows.any fun row => row.name = name then
        some { page with rows := page.rows.map fun row =>
          if row.name = name then { row with checked := checked } else row }
      else none
  | .search text => some (applyFilter toLowerCase { page with search := text })

def run (page : Page) (events : List Event) : Option Page :=
  events.foldlM (step toLowerCase) page

/-- An object, by its own properties. -/
abbrev Object := List (JsString × Bool)

/-- `modules[name] = checked`.  The name of the prototype is set to objects only. -/
def assign (object : Object) (name : JsString) (checked : Bool) : Object :=
  if name = literal "__proto__" then object
  else if object.any fun property => property.1 = name then
    object.map fun property => if property.1 = name then (name, checked) else property
  else object ++ [(name, checked)]

/-- The object that is sent, if any is. -/
def submit (page : Page) : Option Object :=
  let modules := page.rows.foldl (fun object row => assign object row.name row.checked) []
  if modules.isEmpty then none else some modules

end Behaviour
end CmcRules
end KrakenUi
