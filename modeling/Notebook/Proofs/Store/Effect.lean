import Notebook.Proofs.Entity.Edit
import Notebook.Proofs.Predicate.Truth
import Notebook.Proofs.Store.Database

/-!
# What statements do

The effect of everything that the builders build, on any database. Each theorem here takes a
statement that was built and an answer to it, and says what rows were read, or which rows
are there afterwards; what the statement is read as has been used up then.
-/

namespace Notebook

open Notebook.Sql

/-! ### Rows -/

/-- What a store does to a cell is to overwrite it with the value as it is kept. -/
theorem Row.overwritten_stored (assignments : List (String × Value)) (column : String)
    (value : Value) :
    overwritten (assignments.map fun cell => (cell.1, cell.2.stored)) column value =
      ((assignments.lookup column).map Value.stored).getD value := by
  rw [overwritten, lookup_map assignments fun _ value => value.stored]

/-- What a store does to a row is to write the values into it as they are kept. -/
theorem Row.assign_eq_write (row : Row) (assignments : List (String × Value)) :
    row.assign assignments = row.write (assignments.map fun cell => (cell.1, cell.2.stored)) := by
  simp only [assign, write, overwritten_stored]

/-- An assigned column has its new value, and all others keep theirs. -/
theorem Row.get?_assign (row : Row) (assignments : List (String × Value)) (column : String) :
    (row.assign assignments).get? column =
      (row.get? column).map fun value =>
        ((assignments.lookup column).map Value.stored).getD value := by
  simp only [assign_eq_write, get?_write, ← overwritten_stored]

/-- What is in the row of a note. -/
theorem Note.get?_row (note : Note) :
    (Table.notes.row note.values).get? "id" = some (.int note.id) ∧
      (Table.notes.row note.values).get? "owner" = some (.int note.owner) ∧
      (Table.notes.row note.values).get? "set" = some (.int (setNumber note.set)) :=
  ⟨rfl, rfl, rfl⟩

/-- What is in the row of a set. -/
theorem NoteSet.get?_row (set : NoteSet) :
    (Table.sets.row set.values).get? "id" = some (.int set.id) ∧
      (Table.sets.row set.values).get? "owner" = some (.int set.owner) :=
  ⟨rfl, rfl⟩

/-- What is in the row of a user. -/
theorem User.get?_row (user : User) :
    (Table.users.row user.values).get? "id" = some (.int user.id) ∧
      (Table.users.row user.values).get? "gid" = some (.text user.gid) :=
  ⟨rfl, rfl⟩

/-! ### Conditions -/

/-- The condition that compares a column with a value for equality. -/
def Sql.Condition.equals (place : Nat) (column : String) (value : Value) : Condition Bound :=
  ((Predicate.eq column value).group place).close

/-- A column with an integer equals an integer exactly if they are the same. -/
theorem Sql.Condition.selects_int_iff {comparing : Comparing} {row : Row} {place : Nat}
    {column : String} {stored given : Int64} (found : row.get? column = some (.int stored)) :
    (equals place column (.int given)).selects comparing row = true ↔ stored = given := by
  have whole : (equals place column (.int given)).selects comparing row =
      decide (comparing.truthAt row ⟨column, .eq, .int given⟩ = .true) := rfl
  rw [whole, decide_eq_true_iff, Comparing.truthAt, found]
  exact comparing.int_eq_int stored given

/-- A column with an integer is compared with an integer as what it has. -/
theorem Sql.Comparing.truthAt_eq_iff {comparing : Comparing} {row : Row} {column : String}
    {stored given : Int64} (found : row.get? column = some (.int stored)) :
    comparing.truthAt row ⟨column, .eq, .int given⟩ = .true ↔
      row.get? column = some (.int given) := by
  rw [Comparing.truthAt, found]
  simpa using comparing.int_eq_int stored given

/-- A query selects the rows in which its condition is true. -/
theorem Sql.Query.selects_reading_iff {comparing : Comparing} {query : Select}
    {predicate : Predicate} {row : Row} (conditional : query.condition = some predicate) :
    (Query.reading [.star] query).selects comparing row = true ↔
      predicate.truth (comparing.truthAt row) = .true := by
  rw [← Predicate.truth_group _ _ 1]
  simp [Query.selects, Query.reading, conditional, Condition.selects]

/-! ### Reading -/

variable {collation : Collation} {before after : Database} {statement : Statement}

/-- A page has no other rows. -/
theorem Sql.Query.page_subset (query : Query) (rows : List Row) : query.page rows ⊆ rows := by
  unfold page
  intro row member
  have behind : ∀ row ∈ rows.drop (query.offset.getD 0), row ∈ rows :=
    fun row => List.mem_of_mem_drop
  split at member
  · exact behind row (List.mem_of_mem_take member)
  · exact behind row member

/-- A query for whole rows changes nothing, and gives rows that it yields unless it fails. -/
theorem Request.Answered.yields {query : Select} {answer : Except Error Outcome}
    (built : query.statement = .ok statement) (star : query.outputs = ["*"])
    (answered : (Request.execute statement).Answered collation before answer after) :
    after = before ∧ ∀ outcome, answer = .ok outcome →
      ∃ rows, outcome = .ofRows rows ∧ (Query.reading [.star] query).Yields collation.toComparing
        (before.rows query.table) rows := by
  have drafted : (Draft.select query).statement = .ok statement := built
  have readable := Operation.ofStatement?_select drafted star
  cases answered with
  | refused =>
      refine ⟨rfl, ?_⟩
      intro outcome same
      cases same
  | executed ran =>
      obtain ⟨operation, reads, performs⟩ := ran
      rw [readable] at reads
      cases reads
      cases performs with
      | query named _ yields =>
          refine ⟨rfl, ?_⟩
          rintro outcome same
          cases same
          have table : query.table = _ := Option.some.inj
            ((Table.ofName?_name query.table).symm.trans named)
          exact ⟨_, rfl, table ▸ yields⟩

/-- A query changes nothing, and reads rows of its table in which its condition is true. -/
theorem Request.Answered.query {query : Select} {answer : Except Error Outcome}
    (built : query.statement = .ok statement) (star : query.outputs = ["*"])
    (answered : (Request.execute statement).Answered collation before answer after) :
    after = before ∧ ∀ outcome, answer = .ok outcome → ∀ row ∈ outcome.rows,
      row ∈ before.rows query.table ∧ ∀ predicate ∈ query.condition,
        (predicate.truth (collation.truthAt row)) = .true := by
  obtain ⟨kept, gives⟩ := answered.yields built star
  refine ⟨kept, fun outcome same row member => ?_⟩
  obtain ⟨rows, rfl, selected, all, _, rfl⟩ := gives outcome same
  have chosen := all.subset (Query.page_subset _ _ member)
  obtain ⟨stored, selects⟩ := List.mem_filter.mp chosen
  exact ⟨stored, fun predicate present =>
    (Query.selects_reading_iff (Option.mem_def.mp present)).mp selects⟩

/-! ### Changing -/

/-- An update by id assigns the columns of the rows with that id, or nothing has happened. -/
theorem Request.Answered.update {table : Table} {id : Int64}
    {assignments : List (String × Value)} {answer : Except Error Outcome}
    (built : table.updateStatement (.eq "id" (.int id)) assignments = .ok statement)
    (answered : (Request.execute statement).Answered collation before answer after) :
    after = before ∨ after.Keyed ∧
      after = before.replace table ((before.rows table).map fun row =>
        if (Condition.equals (assignments.length + 1) "id" (.int id)).selects
          collation.toComparing row then row.assign assignments else row) := by
  have drafted : (Draft.update table (.eq "id" (.int id)) assignments).statement = .ok statement :=
    built
  have readable := Operation.ofStatement?_update drafted
  cases answered with
  | refused => exact .inl rfl
  | executed ran =>
      obtain ⟨operation, reads, performs⟩ := ran
      rw [readable] at reads
      cases reads
      cases performs with
      | update assigned keyed => exact .inr ⟨keyed, assigned⟩

/-- A deletion takes the rows away in which a column has the number. -/
theorem Statement.Runs.delete {table : Table} {column : String} {id : Int64} {outcome : Outcome}
    (built : table.deleteStatement (.eq column (.int id)) = .ok statement)
    (ran : statement.Runs collation before outcome after) :
    after = before.replace table ((before.rows table).filter fun row =>
      !(Condition.equals 1 column (.int id)).selects collation.toComparing row) := by
  have drafted : (Draft.delete table (.eq column (.int id))).statement = .ok statement := built
  have readable := Operation.ofStatement?_delete drafted
  obtain ⟨operation, reads, performs⟩ := ran
  rw [readable] at reads
  cases reads
  cases performs with
  | delete removed => exact removed

/-- A deletion of one note takes away the rows with its id, or nothing has happened. -/
theorem Request.Answered.delete {table : Table} {column : String} {id : Int64}
    {answer : Except Error Outcome}
    (built : table.deleteStatement (.eq column (.int id)) = .ok statement)
    (answered : (Request.execute statement).Answered collation before answer after) :
    after = before ∨
      after = before.replace table ((before.rows table).filter fun row =>
        !(Condition.equals 1 column (.int id)).selects collation.toComparing row) := by
  cases answered with
  | refused => exact .inl rfl
  | executed ran => exact .inr (ran.delete built)

/-- Two deletions in one transaction both take their rows away, or nothing has happened. -/
theorem Request.Answered.deleteBoth {table other : Table} {column column' : String}
    {id id' : Int64} {second : Statement} {answer : Except Error (List Outcome)}
    (built : table.deleteStatement (.eq column (.int id)) = .ok statement)
    (built' : other.deleteStatement (.eq column' (.int id')) = .ok second)
    (answered : (Request.executeAtomic [statement, second]).Answered collation before answer
      after) :
    after = before ∨
      ∃ between, between = before.replace table ((before.rows table).filter fun row =>
          !(Condition.equals 1 column (.int id)).selects collation.toComparing row) ∧
        after = between.replace other ((between.rows other).filter fun row =>
          !(Condition.equals 1 column' (.int id')).selects collation.toComparing row) := by
  cases answered with
  | refused => exact .inl rfl
  | atomic ran =>
      cases ran with
      | cons first later =>
          cases later with
          | cons next last =>
              cases last
              exact .inr ⟨_, first.delete built, next.delete built'⟩

/-- An insertion under the next id adds the row with that id and says which it is, or
nothing has happened. -/
theorem Request.Answered.allocate {table : Table} {values : Int64 → List Value} {lock : String}
    {head : Statement} {answer : Except Error (Outcome × Outcome)}
    (built : table.nextIdQuery.statement = .ok head)
    (answered : (Request.executeSerialized lock head (table.insertNext values)).Answered
      collation before answer after) :
    (after = before ∧ ∀ outcomes, answer ≠ .ok outcomes) ∨
      ∃ id outcomes, answer = .ok outcomes ∧ table.readNextId outcomes.1 = .ok id ∧
        Database.IsNextId (before.rows table) id ∧ after.Keyed ∧
        after = before.replace table (table.row (values id) :: before.rows table) := by
  cases answered with
  | refused =>
      refine .inl ⟨rfl, ?_⟩
      intro outcomes same
      cases same
  | serialized ranHead builtTail ranTail =>
      obtain ⟨operation, reads, performs⟩ := ranHead
      rw [Operation.ofStatement?_nextId built] at reads
      cases reads
      cases performs with
      | @nextId _ _ id next =>
          have readId : table.readNextId (.ofRows [⟨[(Table.nextIdColumn, .int id)]⟩]) =
              .ok id := by
            simp [Table.readNextId, Outcome.ofRows, Row.int_eq_ok_iff, Row.get?]
          unfold Table.insertNext at builtTail
          rw [readId] at builtTail
          have drafted : (Draft.insert table (values id)).statement = _ := builtTail
          obtain ⟨operation, reads, performs⟩ := ranTail
          rw [Operation.ofStatement?_insert drafted] at reads
          cases reads
          cases performs with
          | insert _ added keyed => exact .inr ⟨id, _, rfl, readId, next, keyed, added⟩

/-! ### Rows that are touched -/

/-- The operation rewrites or removes the row. -/
def Sql.Operation.Touches (collation : Collation) (table : Table) (row : Row) :
    Operation → Prop
  | .query _ => False
  | .nextId _ => False
  | .insert _ _ => False
  | .update target _ condition =>
      table = target ∧ condition.selects collation.toComparing row = true
  | .delete target condition =>
      table = target ∧ condition.selects collation.toComparing row = true

/-- The statement rewrites or removes the row. -/
def Statement.Touches (collation : Collation) (statement : Statement) (table : Table)
    (row : Row) : Prop :=
  ∃ operation, Operation.ofStatement? statement = some operation ∧
    operation.Touches collation table row

/-- The statement is run for the request, if the request gets that far. -/
def Request.Sends (statement : Statement) : Request → Prop
  | .execute only => statement = only
  | .executeAtomic statements => statement ∈ statements
  | .executeSerialized _ head tail =>
      statement = head ∨ ∃ outcome, tail outcome = .ok statement

/-- The action rewrites or removes the row. -/
def Action.Touches (collation : Collation) (action : Action) (table : Table) (row : Row) :
    Prop :=
  ∃ request statement, action = .store request ∧ request.Sends statement ∧
    statement.Touches collation table row

/-- A statement leaves every row as it is that it does not touch. -/
theorem Statement.Runs.mem_of_untouched {outcome : Outcome} {table : Table} {row : Row}
    (ran : statement.Runs collation before outcome after) (member : row ∈ before.rows table)
    (untouched : ¬ statement.Touches collation table row) : row ∈ after.rows table := by
  obtain ⟨operation, reads, performs⟩ := ran
  have other {target : Table} {rows : List Row} (different : table ≠ target) :
      row ∈ (before.replace target rows).rows table :=
    (Database.mem_rows_replace_ne different).mpr member
  cases performs with
  | query => exact member
  | nextId => exact member
  | @insert target values _ _ _ added =>
      rw [added]
      by_cases same : table = target
      · subst same
        rw [Database.rows_replace_self]
        exact List.mem_cons_of_mem _ member
      · exact other same
  | @update target assignments condition _ _ assigned =>
      rw [assigned]
      by_cases same : table = target
      · subst same
        rw [Database.rows_replace_self]
        have unchosen : ¬ condition.selects collation.toComparing row = true :=
          fun chosen => untouched ⟨_, reads, rfl, chosen⟩
        exact List.mem_map.mpr ⟨row, member, if_neg unchosen⟩
      · exact other same
  | @delete target condition _ _ removed =>
      rw [removed]
      by_cases same : table = target
      · subst same
        rw [Database.rows_replace_self]
        have unchosen : condition.selects collation.toComparing row = false :=
          Bool.eq_false_iff.mpr fun chosen => untouched ⟨_, reads, rfl, chosen⟩
        exact List.mem_filter.mpr ⟨member, by rw [unchosen]; rfl⟩
      · exact other same

/-- Statements in a row leave every row as it is that none of them touches. -/
theorem Statement.RunAll.mem_of_untouched {statements : List Statement}
    {outcomes : List Outcome} {table : Table} {row : Row}
    (ran : Statement.RunAll collation statements before outcomes after)
    (member : row ∈ before.rows table)
    (untouched : ∀ statement ∈ statements, ¬ statement.Touches collation table row) :
    row ∈ after.rows table := by
  induction ran with
  | nil => exact member
  | cons first _ inductionHypothesis =>
      rw [List.forall_mem_cons] at untouched
      exact inductionHypothesis (first.mem_of_untouched member untouched.1) untouched.2

/-- An action leaves every row as it is that it does not touch. -/
theorem Action.Answered.mem_of_untouched {action : Action} {world later : World Database}
    {answer : action.Answer} {table : Table} {row : Row}
    (answered : action.Answered collation world answer later)
    (member : row ∈ world.store.rows table) (untouched : ¬ action.Touches collation table row) :
    row ∈ later.store.rows table := by
  cases answered with
  | cache => exact member
  | now => exact member
  | @store request _ _ _ answered =>
      have apart (statement : Statement) (sends : request.Sends statement) :
          ¬ statement.Touches collation table row :=
        fun touches => untouched ⟨request, statement, rfl, sends, touches⟩
      cases answered with
      | refused => exact member
      | executed ran => exact ran.mem_of_untouched member (apart _ rfl)
      | atomic ran => exact ran.mem_of_untouched member apart
      | serialized ranHead built ranTail =>
          have between := ranHead.mem_of_untouched member (apart _ (.inl rfl))
          exact ranTail.mem_of_untouched between (apart _ (.inr ⟨_, built⟩))

/-- A query touches nothing. -/
theorem Statement.not_touches_of_query {query : Select} {table : Table} {row : Row}
    (built : query.statement = .ok statement) (star : query.outputs = ["*"]) :
    ¬ statement.Touches collation table row := by
  have drafted : (Draft.select query).statement = .ok statement := built
  rintro ⟨operation, reads, touches⟩
  rw [Operation.ofStatement?_select drafted star] at reads
  cases reads
  exact touches

/-- An insertion under the next id touches nothing. -/
theorem Request.not_touches_of_allocate {table other : Table} {values : Int64 → List Value}
    {lock : String} {head : Statement} {row : Row}
    (built : table.nextIdQuery.statement = .ok head)
    (sends : (Request.executeSerialized lock head (table.insertNext values)).Sends statement) :
    ¬ statement.Touches collation other row := by
  rintro ⟨operation, reads, touches⟩
  rcases sends with rfl | ⟨outcome, builtTail⟩
  · rw [Operation.ofStatement?_nextId built] at reads
    cases reads
    exact touches
  · obtain ⟨id, _, inserts⟩ := Except.bind_eq_ok_iff.mp builtTail
    have drafted : (Draft.insert table (values id)).statement = .ok statement := inserts
    rw [Operation.ofStatement?_insert drafted] at reads
    cases reads
    exact touches

/-- An update by id touches rows of its table with that id. -/
theorem Statement.Touches.update {table other : Table} {id : Int64}
    {assignments : List (String × Value)} {row : Row}
    (touches : statement.Touches collation other row)
    (built : table.updateStatement (.eq "id" (.int id)) assignments = .ok statement) :
    other = table ∧ (Condition.equals (assignments.length + 1) "id" (.int id)).selects
      collation.toComparing row = true := by
  have drafted : (Draft.update table (.eq "id" (.int id)) assignments).statement = .ok statement :=
    built
  obtain ⟨operation, reads, touches⟩ := touches
  rw [Operation.ofStatement?_update drafted] at reads
  cases reads
  exact touches

/-- A deletion by a number touches rows of its table with that number. -/
theorem Statement.Touches.delete {table other : Table} {column : String} {id : Int64} {row : Row}
    (touches : statement.Touches collation other row)
    (built : table.deleteStatement (.eq column (.int id)) = .ok statement) :
    other = table ∧ (Condition.equals 1 column (.int id)).selects
      collation.toComparing row = true := by
  have drafted : (Draft.delete table (.eq column (.int id))).statement = .ok statement := built
  obtain ⟨operation, reads, touches⟩ := touches
  rw [Operation.ofStatement?_delete drafted] at reads
  cases reads
  exact touches

/-! ### Keys -/

/-- Fewer rows keep the keys. -/
theorem Database.Keyed.filter {database : Database} (keyed : database.Keyed) (table : Table)
    (kept : Row → Bool) : (database.replace table ((database.rows table).filter kept)).Keyed := by
  have shorter (other : Table) :
      ((database.replace table ((database.rows table).filter kept)).rows other).Sublist
        (database.rows other) := by
    by_cases same : other = table
    · subst same
      rw [Database.rows_replace_self]
      exact List.filter_sublist
    · simp only [Database.rows_replace_ne _ _ same, List.Sublist.refl]
  exact ⟨fun other => (keyed.ids other).sublist ((shorter other).map _),
    keyed.subjects.sublist ((shorter .users).map _)⟩

/-- No statement breaks the keys. -/
theorem Statement.Runs.keyed {outcome : Outcome} (keyed : before.Keyed)
    (ran : statement.Runs collation before outcome after) : after.Keyed := by
  obtain ⟨operation, _, performs⟩ := ran
  cases performs with
  | query => exact keyed
  | nextId => exact keyed
  | insert _ _ keyed => exact keyed
  | update _ keyed => exact keyed
  | delete removed =>
      rw [removed]
      exact keyed.filter _ _

/-- No request breaks the keys. -/
theorem Request.Answered.keyed {request : Request} {answer : request.Answer}
    (keyed : before.Keyed) (answered : request.Answered collation before answer after) :
    after.Keyed := by
  cases answered with
  | refused => exact keyed
  | executed ran => exact ran.keyed keyed
  | atomic ran =>
      induction ran with
      | nil => exact keyed
      | cons first _ inductionHypothesis => exact inductionHypothesis (first.keyed keyed)
  | serialized ranHead _ ranTail => exact ranTail.keyed (ranHead.keyed keyed)

/-- No action breaks the keys. -/
theorem Action.Answered.keyed {action : Action} {world later : World Database}
    {answer : action.Answer} (keyed : world.store.Keyed)
    (answered : action.Answered collation world answer later) : later.store.Keyed := by
  cases answered with
  | store answered => exact answered.keyed keyed
  | cache => exact keyed
  | now => exact keyed

end Notebook
