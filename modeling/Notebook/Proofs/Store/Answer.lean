import Notebook.Proofs.Store.Effect

/-!
# What a database may answer

The other direction of what statements do: a request that was built may be answered by what
the tables hold. Any answer that is given here keeps to `Request.Answered`, so the histories
that are spoken of elsewhere are there.
-/

namespace Notebook

open Notebook.Sql

variable {collation : Collation} {before : Database} {statement : Statement}

/-! ### What can be built -/

/-- A query without placeholders in what it selects is built if its columns are declared. -/
theorem Select.exists_statement {query : Select}
    (checked : (Draft.select query).check = .ok ())
    (plain : ∀ output ∈ query.outputs, Piece.Lacks placeholder output) :
    ∃ statement, query.statement = .ok statement :=
  ⟨_, Draft.statement_eq_ok_iff.mpr ⟨checked, plain, rfl⟩⟩

/-- There is no placeholder in what a query for whole rows selects. -/
theorem Select.lacks_of_star {query : Select} (star : query.outputs = ["*"]) :
    ∀ output ∈ query.outputs, Piece.Lacks placeholder output := by
  intro output member
  rw [star, List.mem_singleton] at member
  rw [member]
  decide

/-- The query for the next id is built. -/
theorem Table.exists_nextIdQuery (table : Table) :
    ∃ statement, table.nextIdQuery.statement = .ok statement := by
  refine Select.exists_statement rfl ?_
  intro output member
  rw [List.mem_singleton.mp member]
  decide

/-- An insertion is built if there are as many values as columns. -/
theorem Table.exists_insertStatement {table : Table} {values : List Value}
    (arity : values.length = table.columns.length) :
    ∃ statement, table.insertStatement values = .ok statement := by
  have checked : (Draft.insert table values).check = .ok () := if_pos arity
  exact ⟨_, Draft.statement_eq_ok_iff.mpr ⟨checked, (fun _ member => nomatch member), rfl⟩⟩

/-- A deletion is built if its column is declared. -/
theorem Table.exists_deleteStatement {table : Table} {condition : Predicate}
    (checked : table.checkPredicate condition = .ok ()) :
    ∃ statement, table.deleteStatement condition = .ok statement := by
  have drafted : (Draft.delete table condition).check = .ok () := checked
  exact ⟨_, Draft.statement_eq_ok_iff.mpr ⟨drafted, (fun _ member => nomatch member), rfl⟩⟩

/-! ### What can be answered -/

/-- If a query selects one row at most, the page of what it selects may be read. -/
theorem Sql.Query.yields_of_length_le_one {comparing : Comparing} {query : Query}
    {stored : List Row} (few : (stored.filter (query.selects comparing)).length ≤ 1) :
    query.Yields comparing stored (query.page (stored.filter (query.selects comparing))) := by
  refine ⟨_, .refl _, fun column direction _ => ?_, rfl⟩
  generalize stored.filter (query.selects comparing) = selected at few
  match selected with
  | [] => exact .nil
  | [row] => exact List.pairwise_singleton _ row
  | _ :: _ :: _ =>
      simp only [List.length_cons] at few
      omega

/-- A query may be answered by the rows that it reads. -/
theorem Request.Answered.of_query (query : Select) {rows : List Row}
    (built : query.statement = .ok statement) (star : query.outputs = ["*"])
    (yields : (Query.reading [.star] query).Yields collation.toComparing
      (before.rows query.table) rows) :
    (Request.execute statement).Answered collation before (.ok (.ofRows rows)) before := by
  have drafted : (Draft.select query).statement = .ok statement := built
  exact .executed ⟨_, Operation.ofStatement?_select drafted star,
    .query (Table.ofName?_name query.table) rfl yields⟩

/-- An insertion under the next id may be answered by that id, as long as the keys hold. -/
theorem Request.Answered.of_allocate {table : Table} {values : Int64 → List Value}
    {lock : String} {head : Statement} {id : Int64}
    (built : table.nextIdQuery.statement = .ok head)
    (arity : (values id).length = table.columns.length)
    (next : Database.IsNextId (before.rows table) id)
    (keyed : (before.replace table (table.row (values id) :: before.rows table)).Keyed) :
    (Request.executeSerialized lock head (table.insertNext values)).Answered collation before
      (.ok (.ofRows [⟨[(Table.nextIdColumn, .int id)]⟩], .affected 1))
      (before.replace table (table.row (values id) :: before.rows table)) := by
  obtain ⟨statement, inserts⟩ := Table.exists_insertStatement arity
  have readId : table.readNextId (.ofRows [⟨[(Table.nextIdColumn, .int id)]⟩]) = .ok id := by
    simp [Table.readNextId, Outcome.ofRows, Row.int_eq_ok_iff, Row.get?]
  have builtTail : table.insertNext values (.ofRows [⟨[(Table.nextIdColumn, .int id)]⟩]) =
      .ok statement := by
    unfold Table.insertNext
    rw [readId]
    exact inserts
  have drafted : (Draft.insert table (values id)).statement = .ok statement := inserts
  exact .serialized ⟨_, Operation.ofStatement?_nextId built, .nextId next⟩ builtTail
    ⟨_, Operation.ofStatement?_insert drafted, .insert arity rfl keyed⟩

/-- An update by id may be answered by how many rows had the id, as long as the keys hold. -/
theorem Request.Answered.of_update {after : Database} {table : Table} {id : Int64}
    {assignments : List (String × Value)}
    (built : table.updateStatement (.eq "id" (.int id)) assignments = .ok statement)
    (assigned : after = before.replace table ((before.rows table).map fun row =>
      if (Condition.equals (assignments.length + 1) "id" (.int id)).selects
        collation.toComparing row then row.assign assignments else row))
    (keyed : after.Keyed) :
    (Request.execute statement).Answered collation before (.ok (.affected
      ((before.rows table).countP ((Condition.equals (assignments.length + 1) "id"
        (.int id)).selects collation.toComparing)))) after := by
  have drafted : (Draft.update table (.eq "id" (.int id)) assignments).statement =
      .ok statement := built
  exact .executed ⟨_, Operation.ofStatement?_update drafted, .update assigned keyed⟩

/-- The database without the rows of a table in which a column has a number. -/
def Database.without (collation : Collation) (database : Database) (table : Table)
    (column : String) (id : Int64) : Database :=
  database.replace table ((database.rows table).filter fun row =>
    !(Condition.equals 1 column (.int id)).selects collation.toComparing row)

/-- A deletion may be answered by how many rows had the number. -/
theorem Statement.Runs.of_delete {table : Table} {column : String} {id : Int64}
    (built : table.deleteStatement (.eq column (.int id)) = .ok statement) :
    statement.Runs collation before
      (.affected ((before.rows table).countP
        ((Condition.equals 1 column (.int id)).selects collation.toComparing)))
      (before.without collation table column id) := by
  have drafted : (Draft.delete table (.eq column (.int id))).statement = .ok statement := built
  exact ⟨_, Operation.ofStatement?_delete drafted, .delete rfl⟩

/-- The deletion of a set and of the notes in it may be answered. -/
theorem Request.Answered.of_deleteBoth {id : Int64} {filed itself : Statement}
    (builtNotes : Table.notes.deleteStatement (.eq "set" (.int id)) = .ok filed)
    (builtSet : Table.sets.deleteStatement (.eq "id" (.int id)) = .ok itself) :
    ∃ outcomes, (Request.executeAtomic [filed, itself]).Answered collation before (.ok outcomes)
      ((before.without collation .notes "set" id).without collation .sets "id" id) :=
  ⟨_, .atomic (.cons (.of_delete builtNotes) (.cons (.of_delete builtSet) (.nil _)))⟩

end Notebook
