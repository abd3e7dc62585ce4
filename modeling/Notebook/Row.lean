import Notebook.Error

/-!
# Rows and outcomes

A row is an ordered list of named values; a name that occurs twice is found at
its first place. The outcome of a statement is the rows it returned and how many
rows it returned or affected.
-/

namespace Notebook

/-- One row of a result. -/
structure Row where
  cells : List (String × Value)
deriving DecidableEq

namespace Row

/-- The value of a column, if the row has it. -/
def get? (row : Row) (column : String) : Option Value :=
  row.cells.lookup column

/-- The value of a column that the row has to have. -/
def get (row : Row) (column : String) : Except Error Value :=
  match row.get? column with
  | some value => .ok value
  | none => .error (.decode (.missingColumn column))

/-- The error for a value of another kind than expected. -/
def wrongKind (column : String) (expected : Value.Kind) (value : Value) : Error :=
  .decode (.wrongKind column expected value.kind)

/-- The integer in a column. -/
def int (row : Row) (column : String) : Except Error Int64 := do
  match ← row.get column with
  | .int n => return n
  | value => throw (wrongKind column .int value)

/-- The truth value in a column. -/
def bool (row : Row) (column : String) : Except Error Bool := do
  match ← row.get column with
  | .bool b => return b
  | value => throw (wrongKind column .bool value)

/-- The text in a column. -/
def text (row : Row) (column : String) : Except Error String := do
  match ← row.get column with
  | .text s => return s
  | value => throw (wrongKind column .text value)

/-- The timestamp in a column. -/
def timestamp (row : Row) (column : String) : Except Error Timestamp := do
  match ← row.get column with
  | .timestamp time => return time
  | value => throw (wrongKind column .timestamp value)

end Row

/-- What running a statement gives. -/
structure Outcome where
  rows : List Row
  /-- How many rows were returned or affected. -/
  count : Nat
deriving DecidableEq

namespace Outcome

/-- The outcome of a query that returned these rows. -/
def ofRows (rows : List Row) : Outcome :=
  ⟨rows, rows.length⟩

/-- The outcome of a mutation that affected this many rows. -/
def affected (count : Nat) : Outcome :=
  ⟨[], count⟩

/-- Reads every row; the first row that cannot be read fails the whole. -/
def readAll (read : Row → Except Error α) (outcome : Outcome) : Except Error (List α) :=
  outcome.rows.mapM read

/-- Reads the first row, if there is one. -/
def readFirst (read : Row → Except Error α) (outcome : Outcome) : Except Error (Option α) :=
  match outcome.rows with
  | [] => .ok none
  | row :: _ => (read row).map some

end Outcome

end Notebook
