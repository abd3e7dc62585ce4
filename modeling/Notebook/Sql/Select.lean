import Notebook.Sql.Columns
import Notebook.Sql.Statement

/-!
# Queries

A query reads columns or expressions of one table. The expressions are trusted
text; the columns of the condition and of the order are checked. Paging is
driven by the limit: zero means no limit, and an offset counts only beside a
limit.
-/

namespace Notebook

/-- The direction of an order. -/
inductive SortOrder where
  | asc
  | desc
deriving DecidableEq

/-- The SQL spelling of a direction. -/
def SortOrder.sql : SortOrder → String
  | .asc => "ASC"
  | .desc => "DESC"

/-- A query over one table. -/
structure Select where
  table : Table
  /-- The columns or expressions to read. -/
  outputs : List String
  /-- Which rows to read; all without a condition. -/
  condition : Option Predicate := none
  /-- The column that orders the rows, and the direction. -/
  order : Option (String × SortOrder) := none
  /-- The most rows to read; zero means all. -/
  limit : UInt64 := 0
  /-- How many rows to skip, if there is a limit. -/
  offset : UInt64 := 0

namespace Select

/-- The text that limits and skips rows. -/
def pageText (limit offset : UInt64) : String :=
  if limit = 0 then ""
  else " LIMIT " ++ Decimal.ofNat limit.toNat ++
    (if offset = 0 then "" else " OFFSET " ++ Decimal.ofNat offset.toNat)

/-- The text that states the condition. -/
def conditionText (condition : Option Predicate) : String :=
  match condition with
  | some predicate => " WHERE " ++ predicate.fragment
  | none => ""

/-- The text that orders rows. -/
def orderText (order : Option (String × SortOrder)) : String :=
  match order with
  | some (column, direction) => " ORDER BY " ++ quoteName column ++ " " ++ direction.sql
  | none => ""

/-- The text of a query, with placeholders. -/
def text (select : Select) : String :=
  "SELECT " ++ ", ".intercalate select.outputs ++ " FROM " ++ quoteName select.table.name ++
    conditionText select.condition ++ orderText select.order ++
    pageText select.limit select.offset

/-- The values of a query. -/
def params (select : Select) : List Value :=
  (select.condition.map Predicate.params).getD []

/-- The statement of a query. The columns of the condition are checked before
the column of the order. -/
def statement (select : Select) : Except Error Statement := do
  if let some predicate := select.condition then
    select.table.checkPredicate predicate
  if let some (column, _) := select.order then
    select.table.checkColumn column
  Statement.finalize .query select.table select.text select.params

end Select

end Notebook
