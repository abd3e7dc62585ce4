import Notebook.Predicate

/-!
# Column checks

Names are written into SQL text, so a statement may only name columns that its
table declares. The first undeclared name is reported.
-/

namespace Notebook.Table

/-- Refuses a list of columns at the first one that the table does not declare. -/
def checkColumns (table : Table) (columns : List String) : Except Error Unit :=
  match columns.find? fun column => !table.declares column with
  | some column => .error (.invalidInput (.unknownColumn column table))
  | none => .ok ()

/-- Refuses a column that the table does not declare. -/
def checkColumn (table : Table) (column : String) : Except Error Unit :=
  table.checkColumns [column]

/-- Refuses a predicate at its first column that the table does not declare. -/
def checkPredicate (table : Table) (predicate : Predicate) : Except Error Unit :=
  table.checkColumns predicate.columns

/-- Columns pass exactly when the table declares them all. -/
theorem checkColumns_eq_ok_iff {table : Table} {columns : List String} :
    table.checkColumns columns = .ok () ↔ ∀ column ∈ columns, table.declares column = true := by
  unfold checkColumns
  split
  next column found =>
    have undeclared := List.find?_some found
    have member := List.mem_of_find?_eq_some found
    simp only [Bool.not_eq_eq_eq_not, Bool.not_true] at undeclared
    constructor
    · intro impossible
      contradiction
    · intro declared
      simp [declared column member] at undeclared
  next none =>
    simpa using none

end Notebook.Table
