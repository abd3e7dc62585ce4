import Notebook.Sql.Columns
import Notebook.Sql.Statement

/-!
# Mutations

The statements that insert, update and delete rows. An insert is positional: its
values follow the declared columns and are as many as these. An update lists the
assigned values before those of its condition.
-/

namespace Notebook.Table

/-- Inserts one row with a value for every declared column. -/
def insertStatement (table : Table) (values : List Value) : Except Error Statement :=
  if values.length = table.columns.length then
    let markers := ", ".intercalate (values.map fun _ => String.singleton placeholder)
    Statement.finalize .mutation table
      ("INSERT INTO " ++ quoteName table.name ++ " VALUES (" ++ markers ++ ")") values
  else .error (.invalidInput (.wrongArity table values.length))

/-- The text of one assignment of an update. -/
def assignmentText (column : String) : String :=
  quoteName column ++ " = " ++ String.singleton placeholder

/-- Assigns columns in all rows that meet the condition. At least one column has
to be assigned; the columns of the condition are checked before the assigned
ones. -/
def updateStatement (table : Table) (condition : Predicate)
    (assignments : List (String × Value)) : Except Error Statement := do
  if assignments.isEmpty then
    throw (.invalidInput (.emptyUpdate table))
  table.checkPredicate condition
  table.checkColumns (assignments.map Prod.fst)
  Statement.finalize .mutation table
    ("UPDATE " ++ quoteName table.name ++ " SET " ++
      ", ".intercalate (assignments.map fun (column, _) => assignmentText column) ++
      " WHERE " ++ condition.fragment)
    (assignments.map Prod.snd ++ condition.params)

/-- Deletes all rows that meet the condition. -/
def deleteStatement (table : Table) (condition : Predicate) : Except Error Statement := do
  table.checkPredicate condition
  Statement.finalize .mutation table
    ("DELETE FROM " ++ quoteName table.name ++ " WHERE " ++ condition.fragment)
    condition.params

end Notebook.Table
