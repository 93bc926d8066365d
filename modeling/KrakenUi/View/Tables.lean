import KrakenUi.Encoding.Csv
import KrakenUi.JavaScript.Strings

namespace KrakenUi
namespace Tables

open JavaScript

/-!
# The tables of the console in the browser

The page of a table can be exported as comma-separated values, one column for
each listed field.  A cell is whatever the server sent for the field.  How a
number is printed belongs to the language and is a parameter.
-/

inductive Kind where
  | attacks
  | users
  deriving DecidableEq

/-- The exported columns of a table: field and header. -/
def csvColumns : Kind -> List (String × String)
  | .attacks =>
      [("id", "ID"), ("severity", "Severity"), ("title", "Title"), ("client_ip", "Client IP"),
        ("request_uri", "Request URI"), ("rule_match", "Rule match"),
        ("occurred_at", "Occurred at"), ("country", "Country")]
  | .users =>
      [("id", "ID"), ("username", "Username"), ("email", "Email"), ("user_type", "Type"),
        ("status", "Status"), ("mfa", "2MFA"), ("created_at", "Created")]

inductive Cell (Number : Type) where
  | null
  | undefined
  | string (text : JsString)
  | number (value : Number)

/-- A field that a row does not have is undefined. -/
abbrev Row (Number : Type) := String -> Cell Number

section Export

variable {Number : Type} (numberText : Number -> JsString)

/-- `String(value ?? "")`. -/
def cellText : Cell Number -> JsString
  | .null | .undefined => []
  | .string text => text
  | .number value => numberText value

/-- What the pattern of `csvEscape` finds. -/
def isSpecial (character : UInt16) : Bool :=
  [unit '"', unit ',', unit '\r', unit '\n'].contains character

def csvEscape (value : Cell Number) : JsString :=
  let text := cellText numberText value
  if text.any isSpecial then
    literal "\"" ++ text.flatMap (fun character =>
      if character = unit '"' then literal "\"\"" else [character]) ++ literal "\""
  else text

def toCsv (columns : List (String × String)) (rows : List (Row Number)) : JsString :=
  let header := (literal ",").intercalate
    (columns.map fun column => csvEscape numberText (.string (literal column.2)))
  let lines := rows.map fun item => (literal ",").intercalate
    (columns.map fun column => csvEscape numberText (item column.1))
  (literal "\r\n").intercalate (header :: lines)

end Export

/-! ## What the export is read as -/

def marks : Csv.Marks UInt16 where
  comma := unit ','
  quote := unit '"'
  carriageReturn := unit '\r'
  lineFeed := unit '\n'
  distinct := by decide

section RoundTrip

variable {Number : Type} (numberText : Number -> JsString)

theorem isMark_eq (character : UInt16) : marks.isMark character = isSpecial character := by
  unfold Csv.Marks.isMark isSpecial
  rw [List.contains_eq_mem, List.contains_eq_mem, decide_eq_decide]
  simp only [marks, List.mem_cons, List.not_mem_nil, or_false]
  constructor
  · rintro (same | same | same | same)
    · exact Or.inr (Or.inl same)
    · exact Or.inl same
    · exact Or.inr (Or.inr (Or.inl same))
    · exact Or.inr (Or.inr (Or.inr same))
  · rintro (same | same | same | same)
    · exact Or.inr (Or.inl same)
    · exact Or.inl same
    · exact Or.inr (Or.inr (Or.inl same))
    · exact Or.inr (Or.inr (Or.inr same))

/-- A cell is escaped as the field that it prints as. -/
theorem csvEscape_eq (value : Cell Number) :
    csvEscape numberText value = Csv.writeField marks (cellText numberText value) := by
  have same : marks.isMark = isSpecial := funext isMark_eq
  unfold csvEscape Csv.writeField
  rw [same]
  rfl

/-- The table that an export stands for. -/
def exported (columns : List (String × String)) (rows : List (Row Number)) :
    List (List JsString) :=
  columns.map (fun column => literal column.2) ::
    rows.map fun item => columns.map fun column => cellText numberText (item column.1)

theorem toCsv_eq (columns : List (String × String)) (rows : List (Row Number)) :
    toCsv numberText columns rows = Csv.writeTable marks (exported numberText columns rows) := by
  have row : forall texts : String × String -> Cell Number,
      (literal ",").intercalate (columns.map fun column => csvEscape numberText (texts column)) =
        Csv.writeRecord marks (columns.map fun column => cellText numberText (texts column)) := by
    intro texts
    rw [Csv.writeRecord, List.map_map]
    have fields : (columns.map fun column => csvEscape numberText (texts column)) =
        columns.map (Csv.writeField marks ∘ fun column => cellText numberText (texts column)) :=
      List.map_congr_left fun column _ => csvEscape_eq numberText (texts column)
    rw [fields]
    rfl
  unfold toCsv exported Csv.writeTable
  rw [List.map_cons, List.map_map, row fun column => .string (literal column.2)]
  have lines : (rows.map fun item => (literal ",").intercalate
        (columns.map fun column => csvEscape numberText (item column.1))) =
      rows.map (Csv.writeRecord marks ∘ fun item =>
        columns.map fun column => cellText numberText (item column.1)) :=
    List.map_congr_left fun item _ => row fun column => item column.1
  rw [lines]
  rfl

/-- An export is read back as the headers and one record for each row, with the
text of each listed cell. -/
theorem csv_reads_back (kind : Kind) (rows : List (Row Number)) :
    Csv.readTable marks (toCsv numberText (csvColumns kind) rows) =
      some (exported numberText (csvColumns kind) rows) := by
  rw [toCsv_eq]
  apply Csv.readTable_writeTable
  · exact List.cons_ne_nil _ _
  · intro fields member
    have wide : 2 ≤ (csvColumns kind).length := by
      cases kind with
      | attacks => decide
      | users => decide
    rcases List.mem_cons.mp member with rfl | among
    · rw [List.length_map]
      exact wide
    · rcases List.mem_map.mp among with ⟨item, -, rfl⟩
      rw [List.length_map]
      exact wide

end RoundTrip
end Tables
end KrakenUi
