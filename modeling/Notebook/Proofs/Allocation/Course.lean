import Notebook.Proofs.Store.Answer
import Notebook.Proofs.Work.Sending

/-!
# The course of an insertion

What is sent to insert a row under the next id. What was said tells how far an insertion has
got (`Insertion.phase`), and that says what it may send and how it may end (`Insertion.meets`):
the id is read under the lock of the table, the row is inserted under this id in the same
transaction, and the insertion succeeds exactly if that is committed.
-/

namespace Notebook

/-- The query for the next id of a table is about that table. -/
theorem Table.table_of_nextIdQuery {table : Table} {query : Statement}
    (built : table.nextIdQuery.statement = .ok query) : query.table = table := by
  have drafted : (Sql.Draft.select table.nextIdQuery).statement = .ok query := built
  obtain ⟨_, _, rfl⟩ := Sql.Draft.statement_eq_ok_iff.mp drafted
  rfl

/-- A row to be inserted into a table, whatever its id will be. -/
structure Insertion where
  table : Table
  attempts : Nat
  values : Int64 → List Value
  arity : ∀ id, (values id).length = table.columns.length
  /-- The values are led by the id. -/
  led : ∀ id, (values id).head? = some (.int id)

namespace Insertion

/-- The row under an id. -/
def row (insertion : Insertion) (id : Int64) : Row :=
  insertion.table.row (insertion.values id)

/-- The id of the row is the one it is inserted under. -/
@[simp]
theorem get?_row (insertion : Insertion) (id : Int64) :
    (insertion.row id).get? "id" = some (.int id) := by
  obtain ⟨rest, values⟩ := List.head?_eq_some_iff.mp (insertion.led id)
  rw [row, Table.row, values]
  cases insertion.table <;> rfl

/-- What an insertion sends to a server. -/
def program (around : World Unit) (insertion : Insertion) :
    Program Command Command.Answer (Except Error Int64) :=
  (Job.sent around (insertion.table.insertWithNextId insertion.attempts insertion.values)).run

/-! ### Phases -/

/-- How far an insertion has got. -/
inductive Phase where
  /-- No transaction is begun, or the last one is rolled back. -/
  | outside
  | begun
  | locked
  /-- The next id was read. -/
  | looked (id : Int64)
  | inserted (id : Int64)
  /-- Something failed, and the transaction is to be rolled back. -/
  | failed
  | finished (id : Int64)

/-- How far an insertion has got after one more command with its answer. -/
def Phase.after (table : Table) : Phase → Program.Exchange Command Command.Answer → Phase
  | .outside, ⟨.begin, .ok ()⟩ => .begun
  | .begun, ⟨.run statement, answer⟩ =>
      match Session.reading statement answer with
      | .ok _ => .locked
      | .error _ => .failed
  | .locked, ⟨.run statement, answer⟩ =>
      match (Session.reading statement answer).bind table.readNextId with
      | .ok id => .looked id
      | .error _ => .failed
  | .looked id, ⟨.run statement, answer⟩ =>
      match Session.reading statement answer with
      | .ok _ => .inserted id
      | .error _ => .failed
  | .inserted id, ⟨.commit, .ok ()⟩ => .finished id
  | .inserted _, ⟨.commit, .error _⟩ => .failed
  | .failed, ⟨.rollback, _⟩ => .outside
  | phase, _ => phase

/-- How far an insertion has got after what was said. -/
def phase (insertion : Insertion) (said : Session.Talk) : Phase :=
  said.foldl (Phase.after insertion.table) .outside

@[simp]
theorem phase_append (insertion : Insertion) (said : Session.Talk)
    (exchange : Program.Exchange Command Command.Answer) :
    insertion.phase (said ++ [exchange]) =
      (insertion.phase said).after insertion.table exchange := by
  simp [phase]

/-- What an insertion may send when it has got so far. -/
inductive May (insertion : Insertion) : Phase → Command → Prop
  | begin : May insertion .outside .begin
  | lock : May insertion .begun (.run (Session.taking insertion.table insertion.table.lockKey))
  | look {query : Statement} (built : insertion.table.nextIdQuery.statement = .ok query) :
      May insertion .locked (.run query)
  | insert {id : Int64} {statement : Statement}
      (built : insertion.table.insertStatement (insertion.values id) = .ok statement) :
      May insertion (.looked id) (.run statement)
  | commit {id : Int64} : May insertion (.inserted id) .commit
  | rollback : May insertion .failed .rollback

/-- What an insertion may send after what was said. -/
def Sends (insertion : Insertion) (said : Session.Talk) (command : Command) : Prop :=
  insertion.May (insertion.phase said) command

/-- What is asked for by a statement that may be sent. -/
theorem May.reads {insertion : Insertion} {phase : Phase} {statement : Statement}
    (may : insertion.May phase (.run statement)) :
    phase = .begun ∧ statement = Session.taking insertion.table insertion.table.lockKey ∨
      phase = .locked ∧
        Sql.Operation.ofStatement? statement = some (.nextId insertion.table) ∨
      ∃ id, phase = .looked id ∧ Sql.Operation.ofStatement? statement =
        some (.insert insertion.table (insertion.values id)) := by
  cases may with
  | lock => exact .inl ⟨rfl, rfl⟩
  | look built => exact .inr (.inl ⟨rfl, Sql.Operation.ofStatement?_nextId built⟩)
  | @insert id _ built =>
      have drafted : (Sql.Draft.insert insertion.table (insertion.values id)).statement =
          .ok statement := built
      exact .inr (.inr ⟨id, rfl, Sql.Operation.ofStatement?_insert drafted⟩)

/-- How an insertion may end after what was said. -/
def Ends (insertion : Insertion) (said : Session.Talk) : Except Error Int64 → Prop
  | .ok id => insertion.phase said = .finished id
  | .error _ => insertion.phase said = .outside

/-! ### The bound -/

section Bound

variable {insertion : Insertion} {said : Session.Talk} {α : Type}

/-- What has failed is rolled back, and then the insertion is outside of a transaction. -/
theorem mayUndo {ends : Session.Talk → Except Error α → Prop} {error : Error}
    (failed : insertion.phase said = .failed)
    (ended : ∀ later, insertion.phase later = .outside → ends later (.error error)) :
    Session.MayUndo insertion.Sends ends said error := by
  refine ⟨?_, fun answer => ended _ ?_⟩
  · rw [Sends, failed]
    exact .rollback
  · rw [phase_append, failed]
    rfl

/-- Within a transaction, an insertion is ready for the commit with the id that was read first,
or it has failed. -/
theorem keeps_pair {query : Statement}
    {ends : Session.Talk → Except Error (Outcome × Outcome) → Prop}
    (built : insertion.table.nextIdQuery.statement = .ok query)
    (begun : insertion.phase said = .begun)
    (succeeds : ∀ later id outcomes, insertion.phase later = .inserted id →
      insertion.table.readNextId outcomes.1 = .ok id → ends later (.ok outcomes))
    (fails : ∀ later error, insertion.phase later = .failed → ends later (.error error)) :
    Session.Keeps insertion.Sends ends said (do
      let _ ← Session.statement (Session.taking insertion.table insertion.table.lockKey)
      let first ← Session.statement query
      let next ← Session.ofExcept (insertion.table.insertNext insertion.values first)
      let second ← Session.statement next
      return (first, second)) := by
  have allowed : insertion.Sends said
      (.run (Session.taking insertion.table insertion.table.lockKey)) := by
    rw [Sends, begun]
    exact .lock
  refine .bind (.statement allowed fun answer => ?_)
  cases took : Session.reading (Session.taking insertion.table insertion.table.lockKey) answer with
  | error error => exact fails _ error (by simp [begun, Phase.after, took])
  | ok outcome =>
      have locked : insertion.phase (said ++ [⟨.run (Session.taking insertion.table
          insertion.table.lockKey), answer⟩]) = .locked := by
        simp [begun, Phase.after, took]
      generalize said ++ [⟨.run (Session.taking insertion.table insertion.table.lockKey),
        answer⟩] = said at locked
      refine .bind (.statement (by rw [Sends, locked]; exact .look built) fun answer => ?_)
      cases read : Session.reading query answer with
      | error error => exact fails _ error (by simp [locked, Phase.after, read, Except.bind])
      | ok first =>
          refine .bind (.ofExcept ?_)
          cases readId : insertion.table.readNextId first with
          | error error =>
              rw [Table.insertNext, readId]
              exact fails _ error (by simp [locked, Phase.after, read, Except.bind, readId])
          | ok id =>
              obtain ⟨statement, inserts⟩ :=
                Table.exists_insertStatement (insertion.arity id)
              have looked : insertion.phase (said ++ [⟨.run query, answer⟩]) = .looked id := by
                simp [locked, Phase.after, read, Except.bind, readId]
              have next : insertion.table.insertNext insertion.values first = .ok statement := by
                rw [Table.insertNext, readId]
                exact inserts
              rw [next]
              generalize said ++ [⟨.run query, answer⟩] = said at looked
              refine .bind (.statement (by rw [Sends, looked]; exact .insert inserts)
                fun answer => ?_)
              cases came : Session.reading statement answer with
              | error error => exact fails _ error (by simp [looked, Phase.after, came])
              | ok second =>
                  exact .pure (succeeds _ id _ (by simp [looked, Phase.after, came]) readId)

/-- An attempt to insert a row ends outside of a transaction, or with the id under which the
row was committed. -/
theorem keeps_allocate (around : World Unit) (outside : insertion.phase said = .outside) :
    Session.Keeps insertion.Sends insertion.Ends said
      (Job.sent around (insertion.table.allocate insertion.values)) := by
  obtain ⟨query, built⟩ := insertion.table.exists_nextIdQuery
  rw [Table.allocate, Job.sent_bind, Job.sent_ofExcept]
  refine .bind (.ofExcept ?_)
  rw [built]
  dsimp only
  rw [Job.sent_bind, Job.sent_executeSerialized]
  refine .bind (Session.Keeps.transaction ?_ (fun fault => ?_) ?_)
  · rw [Sends, outside]
    exact .begin
  · show insertion.phase _ = .outside
    rw [phase_append, outside]
    rfl
  · have begun : insertion.phase (said ++ [⟨.begin, .ok ()⟩]) = .begun := by
      rw [phase_append, outside]
      rfl
    rw [Table.table_of_nextIdQuery built]
    refine keeps_pair built begun ?_ ?_
    · intro later id outcomes inserted readId
      refine ⟨by rw [Sends, inserted]; exact .commit, ?_, fun fault => ?_⟩
      · dsimp only
        rw [Job.sent_ofExcept, readId]
        refine .ofExcept ?_
        show insertion.phase _ = .finished id
        rw [phase_append, inserted]
        rfl
      · exact mayUndo (by rw [phase_append, inserted]; rfl) fun _ outside => outside
    · exact fun later error failed => mayUndo failed fun _ outside => outside

/-- Attempts one after the other end outside of a transaction, or with the id under which the
row was committed. -/
theorem keeps_allocateWithin (around : World Unit) (total left : Nat)
    (outside : insertion.phase said = .outside) :
    Session.Keeps insertion.Sends insertion.Ends said
      (Job.sent around (insertion.table.allocateWithin insertion.values total left)) := by
  induction left generalizing said with
  | zero => exact .done outside
  | succ left inductionHypothesis =>
      rw [Table.allocateWithin, Job.sent_bind, Job.sent_observe]
      refine .bind (.observe (Program.Meets.mono (keeps_allocate around outside)
        (fun _ _ allowed => allowed) fun said result ended => ?_))
      cases result with
      | ok id => exact .done ended
      | error error =>
          dsimp only
          split
          · exact inductionHypothesis ended
          · exact .done ended

end Bound

/-- An insertion sends what it may, and succeeds exactly if its row is committed. -/
theorem meets (around : World Unit) (insertion : Insertion) :
    Program.Meets insertion.Sends insertion.Ends [] (insertion.program around) :=
  keeps_allocateWithin around _ _ rfl

end Insertion

end Notebook
