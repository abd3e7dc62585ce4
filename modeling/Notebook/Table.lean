/-!
# Tables

The three tables of the store and their columns in declared order. Positional
inserts follow that order, and no other column may be named in a statement.
-/

namespace Notebook

/-- A table of the store. -/
inductive Table where
  | users
  | sets
  | notes
deriving DecidableEq

namespace Table

/-- The name of a table. -/
def name : Table → String
  | .users => "users"
  | .sets => "sets"
  | .notes => "notes"

/-- The columns of a table in declared order. -/
def columns : Table → List String
  | .users => ["id", "name", "email", "gid"]
  | .sets => ["id", "owner", "name", "type"]
  | .notes => ["id", "owner", "set", "timestamp", "body", "marked"]

/-- Holds of the columns that a table declares. -/
def declares (table : Table) (column : String) : Bool :=
  table.columns.contains column

/-- The advisory lock that allocators of ids in a table hold. -/
def lockKey (table : Table) : String :=
  "dumpnote." ++ table.name ++ ".id"

/-- Different tables have different locks. -/
theorem lockKey_injective {first second : Table} (same : first.lockKey = second.lockKey) :
    first = second := by
  revert same
  cases first <;> cases second <;> decide

end Table

end Notebook
