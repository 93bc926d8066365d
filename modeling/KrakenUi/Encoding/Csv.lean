import Mathlib.Data.List.Basic

namespace Csv

/-!
# Comma-separated values

A table is records of fields.  Fields are separated by commas and records by a
carriage return with a line feed.  A field with one of these marks or a quote
in it is put between quotes, where a quote is written twice.

The reader takes one unit after the other and refuses whatever is not such a
table.
-/

/-- The units with a meaning. -/
structure Marks (α : Type) where
  comma : α
  quote : α
  carriageReturn : α
  lineFeed : α
  distinct : [comma, quote, carriageReturn, lineFeed].Nodup

section Writing

variable {α : Type} [DecidableEq α] (marks : Marks α)

def Marks.isMark (unit : α) : Bool :=
  [marks.comma, marks.quote, marks.carriageReturn, marks.lineFeed].contains unit

def doubled (unit : α) : List α :=
  if unit = marks.quote then [marks.quote, marks.quote] else [unit]

def writeField (field : List α) : List α :=
  if field.any marks.isMark then
    marks.quote :: (field.flatMap (doubled marks) ++ [marks.quote])
  else field

def writeRecord (fields : List (List α)) : List α :=
  [marks.comma].intercalate (fields.map (writeField marks))

def writeTable (records : List (List (List α))) : List α :=
  [marks.carriageReturn, marks.lineFeed].intercalate (records.map (writeRecord marks))

end Writing

/-! ## Reading -/

inductive Mode where
  | fresh
  | plain
  | quoted
  /-- After a quote inside of quotes. -/
  | closed
  /-- After the carriage return of a record. -/
  | ended
  deriving DecidableEq

/-- What has been read: whole records, whole fields and a part of a field. -/
structure Reading (α : Type) where
  mode : Mode
  field : List α
  fields : List (List α)
  records : List (List (List α))

namespace Reading

variable {α : Type} [DecidableEq α] (marks : Marks α)

/-- A unit behind a field. -/
def close (reading : Reading α) (unit : α) : Option (Reading α) :=
  if unit = marks.comma then
    some ⟨.fresh, [], reading.fields ++ [reading.field], reading.records⟩
  else if unit = marks.carriageReturn then some { reading with mode := .ended }
  else none

def step (reading : Reading α) (unit : α) : Option (Reading α) :=
  match reading.mode with
  | .fresh | .plain =>
      if unit = marks.quote then
        if reading.mode = .fresh then some { reading with mode := .quoted } else none
      else if marks.isMark unit then close marks reading unit
      else some { reading with mode := .plain, field := reading.field ++ [unit] }
  | .quoted =>
      if unit = marks.quote then some { reading with mode := .closed }
      else some { reading with field := reading.field ++ [unit] }
  | .closed =>
      if unit = marks.quote then
        some { reading with mode := .quoted, field := reading.field ++ [unit] }
      else close marks reading unit
  | .ended =>
      if unit = marks.lineFeed then
        some ⟨.fresh, [], [], reading.records ++ [reading.fields ++ [reading.field]]⟩
      else none

/-- A field may end here. -/
def Ready (reading : Reading α) : Prop :=
  reading.mode = .fresh ∨ reading.mode = .plain ∨ reading.mode = .closed

instance (reading : Reading α) : Decidable reading.Ready :=
  inferInstanceAs (Decidable (_ ∨ _ ∨ _))

/-- Nothing follows the end of the last record. -/
def finish (reading : Reading α) : Option (List (List (List α))) :=
  if reading.Ready then
    if reading.mode = .fresh ∧ reading.fields = [] ∧ reading.records ≠ [] then
      some reading.records
    else some (reading.records ++ [reading.fields ++ [reading.field]])
  else none

end Reading

def readTable {α : Type} [DecidableEq α] (marks : Marks α) (text : List α) :
    Option (List (List (List α))) :=
  (text.foldlM (Reading.step marks) ⟨.fresh, [], [], []⟩).bind Reading.finish

section Marks

variable {α : Type} {marks : Marks α}

theorem comma_ne_quote : marks.comma ≠ marks.quote := by
  have distinct := marks.distinct
  simp only [List.nodup_cons, List.mem_cons, not_or] at distinct
  exact distinct.1.1

theorem carriageReturn_ne_comma : marks.carriageReturn ≠ marks.comma := by
  have distinct := marks.distinct
  simp only [List.nodup_cons, List.mem_cons, not_or] at distinct
  exact Ne.symm distinct.1.2.1

theorem carriageReturn_ne_quote : marks.carriageReturn ≠ marks.quote := by
  have distinct := marks.distinct
  simp only [List.nodup_cons, List.mem_cons, not_or] at distinct
  exact Ne.symm distinct.2.1.1

end Marks

section RoundTrip

variable {α : Type} [DecidableEq α] {marks : Marks α}

/-- What has been read is read in front of a text. -/
theorem read_append {front back : List α} {reading reached : Reading α}
    (read : front.foldlM (Reading.step marks) reading = some reached) :
    (front ++ back).foldlM (Reading.step marks) reading =
      back.foldlM (Reading.step marks) reached := by
  rw [List.foldlM_append, read]
  rfl

/-- The units of a quoted field are read as its text. -/
theorem read_doubled (text before : List α) (fields : List (List α))
    (records : List (List (List α))) :
    (text.flatMap (doubled marks)).foldlM (Reading.step marks)
        ⟨.quoted, before, fields, records⟩ =
      some ⟨.quoted, before ++ text, fields, records⟩ := by
  induction text generalizing before with
  | nil =>
      rw [List.append_nil]
      rfl
  | cons unit text inductionHypothesis =>
      have one : (doubled marks unit).foldlM (Reading.step marks)
          ⟨.quoted, before, fields, records⟩ =
            some ⟨.quoted, before ++ [unit], fields, records⟩ := by
        unfold doubled
        by_cases quote : unit = marks.quote
        · rw [if_pos quote, quote]
          simp [Reading.step]
        · rw [if_neg quote]
          simp [Reading.step, quote]
      rw [List.flatMap_cons, read_append one, inductionHypothesis, List.append_assoc]
      rfl

/-- A text without marks is read as it is. -/
theorem read_plain {text : List α} (plain : forall unit, unit ∈ text -> marks.isMark unit = false)
    (mode : Mode) (shape : mode = .fresh ∨ mode = .plain) (before : List α)
    (fields : List (List α)) (records : List (List (List α))) :
    Exists fun reached : Mode => (reached = .fresh ∨ reached = .plain) ∧
      text.foldlM (Reading.step marks) ⟨mode, before, fields, records⟩ =
        some ⟨reached, before ++ text, fields, records⟩ := by
  induction text generalizing mode before with
  | nil =>
      refine ⟨mode, shape, ?_⟩
      rw [List.append_nil]
      rfl
  | cons unit text inductionHypothesis =>
      have here := plain unit List.mem_cons_self
      have notQuote : unit ≠ marks.quote := by
        rintro rfl
        simp [Marks.isMark] at here
      have one : Reading.step marks ⟨mode, before, fields, records⟩ unit =
          some ⟨.plain, before ++ [unit], fields, records⟩ := by
        rcases shape with rfl | rfl
        · simp [Reading.step, notQuote, here]
        · simp [Reading.step, notQuote, here]
      rcases inductionHypothesis (fun other member => plain other (List.mem_cons_of_mem _ member))
        .plain (Or.inr rfl) (before ++ [unit]) with ⟨reached, shape', read⟩
      refine ⟨reached, shape', ?_⟩
      rw [List.foldlM_cons, one]
      rw [List.append_assoc] at read
      exact read

/-- A written field is read as the field. -/
theorem read_writeField (field : List α) (fields : List (List α))
    (records : List (List (List α))) :
    Exists fun reached : Mode => (reached = .fresh ∨ reached = .plain ∨ reached = .closed) ∧
      (writeField marks field).foldlM (Reading.step marks) ⟨.fresh, [], fields, records⟩ =
        some ⟨reached, field, fields, records⟩ := by
  unfold writeField
  split
  · refine ⟨.closed, Or.inr (Or.inr rfl), ?_⟩
    have opened : [marks.quote].foldlM (Reading.step marks) ⟨.fresh, [], fields, records⟩ =
        some ⟨.quoted, [], fields, records⟩ := by simp [Reading.step]
    rw [← List.singleton_append, read_append opened,
      read_append (read_doubled field [] fields records), List.nil_append]
    simp [Reading.step]
  · rename_i unmarked
    have plain : forall unit, unit ∈ field -> marks.isMark unit = false := by
      intro unit member
      by_contra mark
      exact unmarked (List.any_eq_true.mpr ⟨unit, member, by simpa using mark⟩)
    rcases read_plain plain .fresh (Or.inl rfl) [] fields records with ⟨reached, shape, read⟩
    refine ⟨reached, ?_, read⟩
    rcases shape with same | same
    · exact Or.inl same
    · exact Or.inr (Or.inl same)

/-- A comma ends a field. -/
theorem step_comma {reading : Reading α} (ready : reading.Ready) :
    [marks.comma].foldlM (Reading.step marks) reading =
      some ⟨.fresh, [], reading.fields ++ [reading.field], reading.records⟩ := by
  have mark : marks.isMark marks.comma = true := by simp [Marks.isMark]
  rcases reading with ⟨mode, field, fields, records⟩
  rcases ready with same | same | same
  · dsimp only at same
    subst same
    simp [Reading.step, comma_ne_quote, mark, Reading.close]
  · dsimp only at same
    subst same
    simp [Reading.step, comma_ne_quote, mark, Reading.close]
  · dsimp only at same
    subst same
    simp [Reading.step, comma_ne_quote, Reading.close]

/-- A carriage return with a line feed ends a record. -/
theorem step_lineEnd {reading : Reading α} (ready : reading.Ready) :
    [marks.carriageReturn, marks.lineFeed].foldlM (Reading.step marks) reading =
      some ⟨.fresh, [], [], reading.records ++ [reading.fields ++ [reading.field]]⟩ := by
  have mark : marks.isMark marks.carriageReturn = true := by simp [Marks.isMark]
  have apart := @carriageReturn_ne_quote α marks
  have apart' := @carriageReturn_ne_comma α marks
  rcases reading with ⟨mode, field, fields, records⟩
  rcases ready with same | same | same
  · dsimp only at same
    subst same
    simp [Reading.step, apart, apart', mark, Reading.close]
  · dsimp only at same
    subst same
    simp [Reading.step, apart, apart', mark, Reading.close]
  · dsimp only at same
    subst same
    simp [Reading.step, apart, apart', Reading.close]

/-- A reading at the end of a record. -/
structure Stands (reading : Reading α) (fields : List (List α))
    (records : List (List (List α))) : Prop where
  ready : reading.Ready
  read : reading.fields ++ [reading.field] = fields
  before : reading.records = records

theorem read_writeRecord {fields : List (List α)} (nonempty : fields ≠ []) (before : List (List α))
    (records : List (List (List α))) :
    Exists fun reading =>
      (writeRecord marks fields).foldlM (Reading.step marks) ⟨.fresh, [], before, records⟩ =
        some reading ∧ Stands reading (before ++ fields) records := by
  induction fields generalizing before with
  | nil => exact absurd rfl nonempty
  | cons field fields inductionHypothesis =>
      rcases @read_writeField α _ marks field before records with ⟨reached, ready, read⟩
      cases fields with
      | nil =>
          refine ⟨⟨reached, field, before, records⟩, ?_, ready, rfl, rfl⟩
          rw [writeRecord, List.map_singleton, List.intercalate_singleton]
          exact read
      | cons second fields =>
          rcases inductionHypothesis (List.cons_ne_nil _ _) (before ++ [field]) with
            ⟨reading, later, stands⟩
          refine ⟨reading, ?_, ?_⟩
          · have ready' : Reading.Ready ⟨reached, field, before, records⟩ := ready
            rw [writeRecord, List.map_cons, List.map_cons, List.intercalate_cons_cons,
              List.append_assoc, read_append read, read_append (step_comma ready')]
            exact later
          · rw [List.append_assoc] at stands
            exact stands

theorem read_writeTable {table : List (List (List α))} (nonempty : table ≠ [])
    (filled : forall fields, fields ∈ table -> fields ≠ []) (before : List (List (List α))) :
    Exists fun reading => Exists fun fields => Exists fun records =>
      (writeTable marks table).foldlM (Reading.step marks) ⟨.fresh, [], [], before⟩ =
        some reading ∧ Stands reading fields records ∧ records ++ [fields] = before ++ table ∧
          fields ∈ table := by
  induction table generalizing before with
  | nil => exact absurd rfl nonempty
  | cons fields table inductionHypothesis =>
      rcases read_writeRecord (filled fields List.mem_cons_self) [] before with
        ⟨reading, read, stands⟩
      rw [List.nil_append] at stands
      cases table with
      | nil =>
          refine ⟨reading, fields, before, ?_, stands, rfl, List.mem_cons_self⟩
          rw [writeTable, List.map_singleton, List.intercalate_singleton]
          exact read
      | cons second table =>
          rcases inductionHypothesis (List.cons_ne_nil _ _)
              (fun other member => filled other (List.mem_cons_of_mem _ member))
              (before ++ [fields]) with ⟨last, lastFields, records, later, stands', whole, among⟩
          refine ⟨last, lastFields, records, ?_, stands', ?_, List.mem_cons_of_mem _ among⟩
          · rw [writeTable, List.map_cons, List.map_cons, List.intercalate_cons_cons,
              List.append_assoc, read_append read, read_append (step_lineEnd stands.ready),
              stands.read, stands.before]
            exact later
          · rw [whole, List.append_assoc]
            rfl

/-- A table is read back, unless a record could be taken for the end of the text. -/
theorem readTable_writeTable {table : List (List (List α))} (nonempty : table ≠ [])
    (wide : forall fields, fields ∈ table -> 2 ≤ fields.length) :
    readTable marks (writeTable marks table) = some table := by
  have filled : forall fields, fields ∈ table -> fields ≠ [] := by
    rintro fields member rfl
    exact absurd (wide [] member) (by simp)
  rcases @read_writeTable α _ marks table nonempty filled [] with
    ⟨reading, fields, records, read, stands, whole, among⟩
  have open' : reading.fields ≠ [] := by
    intro empty
    have long := wide fields among
    rw [← stands.read, empty] at long
    simp at long
  rw [readTable, read, Option.bind_some, Reading.finish, if_pos stands.ready, stands.read,
    stands.before, if_neg (fun last => open' last.2.1), whole, List.nil_append]

end RoundTrip
end Csv
