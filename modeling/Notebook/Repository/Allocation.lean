import Notebook.Sql.Mutation
import Notebook.Sql.Select
import Notebook.Job

/-!
# Id allocation

Ids are dense: the next id of a table is one more than the greatest, or zero if
there is none. Reading the next id and inserting its row happen under the lock
of the table. Only a violated unique constraint is worth another attempt.
-/

namespace Notebook.Table

/-- The column that the next id is read from. -/
def nextIdColumn : String := "next_id"

/-- The query for the next id. -/
def nextIdQuery (table : Table) : Select :=
  { table, outputs := ["COALESCE(MAX(\"id\"), -1) + 1 AS " ++ nextIdColumn] }

/-- Reads the next id from the outcome of its query. -/
def readNextId (table : Table) (outcome : Outcome) : Except Error Int64 :=
  match outcome.rows with
  | [] => .error (.decode (.noNextId table))
  | row :: _ => row.int nextIdColumn

/-- The next id of a table. -/
def nextId (table : Table) : Job Int64 := do
  let query ← Job.ofExcept table.nextIdQuery.statement
  let outcome ← Job.execute query
  Job.ofExcept (table.readNextId outcome)

/-- The insert that follows the query for the next id. -/
def insertNext (table : Table) (values : Int64 → List Value) (outcome : Outcome) :
    Except Error Statement := do
  let id ← table.readNextId outcome
  table.insertStatement (values id)

/-- Inserts a row under the next id, once, and gives the id. -/
def allocate (table : Table) (values : Int64 → List Value) : Job Int64 := do
  let query ← Job.ofExcept table.nextIdQuery.statement
  let (outcome, _) ← Job.executeSerialized table.lockKey query (table.insertNext values)
  Job.ofExcept (table.readNextId outcome)

/-- Inserts a row under the next id in at most `left` attempts. -/
def allocateWithin (table : Table) (values : Int64 → List Value) (total : Nat) :
    (left : Nat) → Job Int64
  | 0 => throw (.conflict (.ids table total))
  | left + 1 => do
      match ← Job.observe (table.allocate values) with
      | .ok id => return id
      | .error error =>
          if error.isUniqueViolation then table.allocateWithin values total left
          else throw error

/-- Inserts a row under the next id, in at most as many attempts as given but
at least one, and gives the id. -/
def insertWithNextId (table : Table) (attempts : Nat) (values : Int64 → List Value) :
    Job Int64 :=
  table.allocateWithin values (max attempts 1) (max attempts 1)

end Notebook.Table
