import Notebook.Job
import Notebook.Proofs.Sql.Operation
import Notebook.Storage.Precision

/-!
# A database

A store that gives every statement its meaning in SQL. What a statement asks for is read
from its text and its parameters; the rows are those of the three tables.

`Request.Answered` is a relation, since SQL leaves the order of rows open, and since a
request may fail at any time for reasons of its own, without effect. It allows at least what
a server does: besides the keys of the tables no constraint is checked, and rows with the
same place in an order may come in any order.
-/

namespace Notebook

/-! ### Rows and tables -/

/-- The row of a table with these values, as the store keeps them. -/
def Table.row (table : Table) (values : List Value) : Row :=
  ⟨table.columns.zip (values.map Value.stored)⟩

/-- There are three tables to look at. -/
instance (property : Table → Prop) [DecidablePred property] :
    Decidable (∀ table, property table) :=
  decidable_of_iff (property .users ∧ property .sets ∧ property .notes)
    ⟨fun ⟨users, sets, notes⟩ table => match table with
      | .users => users
      | .sets => sets
      | .notes => notes,
    fun every => ⟨every .users, every .sets, every .notes⟩⟩

/-- The row with new values in the assigned columns, as the store keeps them. -/
def Row.assign (row : Row) (assignments : List (String × Value)) : Row :=
  ⟨row.cells.map fun (column, value) =>
    (column, ((assignments.lookup column).map Value.stored).getD value)⟩

/-- The rows of every table. -/
structure Database where
  rows : Table → List Row

namespace Database

/-- A database without rows. -/
def empty : Database where
  rows _ := []

/-- The database with other rows in one table. -/
def replace (database : Database) (table : Table) (rows : List Row) : Database where
  rows other := if other = table then rows else database.rows other

@[simp]
theorem rows_replace_self (database : Database) (table : Table) (rows : List Row) :
    (database.replace table rows).rows table = rows := if_pos rfl

theorem rows_replace_ne (database : Database) {table other : Table} (rows : List Row)
    (different : other ≠ table) :
    (database.replace table rows).rows other = database.rows other := if_neg different

/-- Databases with the same rows are the same. -/
theorem ext_rows {database other : Database}
    (same : ∀ table, database.rows table = other.rows table) : database = other :=
  congrArg mk (funext same)

/-- The rows of a table that were replaced last are there. -/
theorem replace_replace (database : Database) (table : Table) (rows later : List Row) :
    (database.replace table rows).replace table later = database.replace table later := by
  refine ext_rows fun other => ?_
  by_cases same : other = table
  · subst same
    rw [rows_replace_self, rows_replace_self]
  · rw [rows_replace_ne _ _ same, rows_replace_ne _ _ same, rows_replace_ne _ _ same]

/-- Other tables have the rows that they had. -/
theorem mem_rows_replace_ne {database : Database} {table other : Table} {rows : List Row}
    {row : Row} (different : other ≠ table) :
    row ∈ (database.replace table rows).rows other ↔ row ∈ database.rows other := by
  rw [rows_replace_ne database rows different]

/-- A row of another table was there before. -/
theorem mem_of_mem_replace {database : Database} {table other : Table} {rows : List Row}
    {row : Row} (different : other ≠ table)
    (member : row ∈ (database.replace table rows).rows other) : row ∈ database.rows other :=
  (mem_rows_replace_ne different).mp member

/-- A row stays when another is added. -/
theorem mem_replace_cons {database : Database} {other : Table} {row : Row}
    (member : row ∈ database.rows other) (table : Table) (new : Row) :
    row ∈ (database.replace table (new :: database.rows table)).rows other := by
  by_cases same : other = table
  · subst same
    rw [rows_replace_self]
    exact List.mem_cons_of_mem _ member
  · exact (mem_rows_replace_ne same).mpr member

/-- A row stays when others are removed. -/
theorem mem_replace_filter {database : Database} {table other : Table} {row : Row}
    {chosen : Row → Bool} (member : row ∈ database.rows other)
    (unchosen : other = table → chosen row = false) :
    row ∈ (database.replace table
      ((database.rows table).filter fun row => !chosen row)).rows other := by
  by_cases same : other = table
  · subst same
    rw [rows_replace_self]
    exact List.mem_filter.mpr ⟨member, by simp [unchosen rfl]⟩
  · exact (mem_rows_replace_ne same).mpr member

/-- Ids are unique in every table, and so are the subjects of users. -/
structure Keyed (database : Database) : Prop where
  ids : ∀ table, ((database.rows table).map fun row => row.get? "id").Nodup
  subjects : ((database.rows .users).map fun row => row.get? "gid").Nodup

instance (database : Database) : Decidable database.Keyed :=
  decidable_of_iff ((∀ table, ((database.rows table).map fun row => row.get? "id").Nodup) ∧
      ((database.rows .users).map fun row => row.get? "gid").Nodup)
    ⟨fun ⟨ids, subjects⟩ => ⟨ids, subjects⟩, fun keyed => ⟨keyed.ids, keyed.subjects⟩⟩

/-- The number in the id of a row. -/
def idNumber? (row : Row) : Option Int :=
  match row.get? "id" with
  | some (.int id) => some id.toInt
  | _ => none

/-- The id is one more than the greatest of a table, or zero if the table has no rows. -/
def IsNextId (rows : List Row) (id : Int64) : Prop :=
  id.toInt = (rows.filterMap idNumber?).max?.getD (-1) + 1

end Database

/-! ### Conditions and queries -/

/-- How a store compares values: integers are equal exactly if they are the same, and so are
texts. -/
structure Collation extends Sql.Comparing where
  text_eq_text : ∀ stored given : String,
    compare .eq (.text stored) (.text given) = .true ↔ stored = given

namespace Sql

/-- Whether a condition is true in a row. -/
def Condition.selects (comparing : Comparing) (condition : Condition Bound) (row : Row) : Bool :=
  (condition.truth fun leaf => comparing.truthAt row leaf.comparison) = .true

namespace Query

/-- Whether the condition of a query, if it has one, is true in a row. -/
def selects (comparing : Comparing) (query : Query) (row : Row) : Bool :=
  query.condition.all fun condition => condition.selects comparing row

/-- No row comes behind another that its order puts first. -/
def Sorted (comparing : Comparing) (query : Query) (rows : List Row) : Prop :=
  ∀ column direction, query.order = some (column, direction) →
    rows.Pairwise fun first second =>
      ∀ value ∈ first.get? column, ∀ other ∈ second.get? column,
        match direction with
        | .asc => comparing.compare .lt other value ≠ .true
        | .desc => comparing.compare .gt other value ≠ .true

/-- The page that a query asks for. -/
def page (query : Query) (rows : List Row) : List Row :=
  let behind := rows.drop (query.offset.getD 0)
  match query.limit with
  | some limit => behind.take limit
  | none => behind

/-- The query reads these rows of a table: a page of the selected ones in its order. -/
def Yields (comparing : Comparing) (query : Query) (stored read : List Row) : Prop :=
  ∃ selected, selected.Perm (stored.filter (query.selects comparing)) ∧
    query.Sorted comparing selected ∧ read = query.page selected

end Query

/-! ### Statements -/

/-- What an operation does to a database, and with what outcome. -/
inductive Operation.Performs (collation : Collation) :
    Operation → Database → Outcome → Database → Prop
  | query {query : Query} {table : Table} {database : Database} {rows : List Row}
      (named : Table.ofName? query.table = some table) (whole : query.outputs = [.star])
      (yields : query.Yields collation.toComparing (database.rows table) rows) :
      Performs collation (.query query) database (.ofRows rows) database
  | nextId {table : Table} {database : Database} {id : Int64}
      (next : Database.IsNextId (database.rows table) id) :
      Performs collation (.nextId table) database
        (.ofRows [⟨[(Table.nextIdColumn, .int id)]⟩]) database
  | insert {table : Table} {values : List Value} {database after : Database}
      (arity : values.length = table.columns.length)
      (added : after = database.replace table (table.row values :: database.rows table))
      (keyed : after.Keyed) :
      Performs collation (.insert table values) database (.affected 1) after
  | update {table : Table} {assignments : List (String × Value)} {condition : Condition Bound}
      {database after : Database}
      (assigned : after = database.replace table ((database.rows table).map fun row =>
        if condition.selects collation.toComparing row then row.assign assignments else row))
      (keyed : after.Keyed) :
      Performs collation (.update table assignments condition) database
        (.affected ((database.rows table).countP (condition.selects collation.toComparing))) after
  | delete {table : Table} {condition : Condition Bound} {database after : Database}
      (removed : after = database.replace table
        ((database.rows table).filter fun row => !condition.selects collation.toComparing row)) :
      Performs collation (.delete table condition) database
        (.affected ((database.rows table).countP (condition.selects collation.toComparing))) after

end Sql

/-- What a statement does to a database, and with what outcome. -/
def Statement.Runs (collation : Collation) (statement : Statement) (before : Database)
    (outcome : Outcome) (after : Database) : Prop :=
  ∃ operation, Sql.Operation.ofStatement? statement = some operation ∧
    operation.Performs collation before outcome after

/-- What statements do to a database one after the other. -/
inductive Statement.RunAll (collation : Collation) :
    List Statement → Database → List Outcome → Database → Prop
  | nil (database : Database) : RunAll collation [] database [] database
  | cons {statement : Statement} {rest : List Statement} {before between after : Database}
      {outcome : Outcome} {outcomes : List Outcome}
      (first : statement.Runs collation before outcome between)
      (later : RunAll collation rest between outcomes after) :
      RunAll collation (statement :: rest) before (outcome :: outcomes) after

/-- How a database answers a request: it refuses, and nothing has changed, or it runs all
statements of the request in one step. -/
inductive Request.Answered (collation : Collation) :
    (request : Request) → Database → request.Answer → Database → Prop
  | refused (request : Request) (error : Error) (database : Database) :
      Answered collation request database (request.refuse error) database
  | executed {statement : Statement} {before after : Database} {outcome : Outcome}
      (ran : statement.Runs collation before outcome after) :
      Answered collation (.execute statement) before (.ok outcome) after
  | atomic {statements : List Statement} {before after : Database} {outcomes : List Outcome}
      (ran : Statement.RunAll collation statements before outcomes after) :
      Answered collation (.executeAtomic statements) before (.ok outcomes) after
  | serialized {lock : String} {head statement : Statement}
      {tail : Outcome → Except Error Statement} {before between after : Database}
      {first second : Outcome} (ranHead : head.Runs collation before first between)
      (built : tail first = .ok statement)
      (ranTail : statement.Runs collation between second after) :
      Answered collation (.executeSerialized lock head tail) before (.ok (first, second)) after

/-- How the surroundings of the service answer one action. Time goes as it likes. -/
inductive Action.Answered (collation : Collation) :
    (action : Action) → World Database → action.Answer → World Database → Prop
  | store {request : Request} {world : World Database} {answer : request.Answer}
      {after : Database} (answered : request.Answered collation world.store answer after) :
      Answered collation (.store request) world answer { world with store := after }
  | cache (call : IdentityCache.Call) (world : World Database) :
      Answered collation (.cache call) world (IdentityCache.perform call world.cache).1
        { world with cache := (IdentityCache.perform call world.cache).2 }
  | now (time : Timestamp) (world : World Database) :
      Answered collation .now world time { world with clock := time }

end Notebook
