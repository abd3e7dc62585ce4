import Notebook.Proofs.Store.Database
import Notebook.Proofs.Store.Session

/-!
# A server with transactions

What a server with locks answers to the commands of many sessions. A statement is run on the
committed rows and those that its own transaction has inserted; a lock is given to one
transaction at a time, until it ends; and a commit makes the inserted rows committed ones.

`Engine.Answers` is a relation, since any command may fail. It speaks of transactions that only
read and insert; statements that change or remove rows are answered by faults alone.
-/

namespace Notebook

open Notebook.Sql

/-- What a transaction has that is not committed: the locks it holds, and the rows that it has
inserted, the last one first. -/
structure Transaction where
  locks : List String := []
  added : List (Table × Row) := []

/-- The rows that an operation adds, unless it may change others. -/
def Sql.Operation.added? : Operation → Option (List (Table × Row))
  | .query _ => some []
  | .nextId _ => some []
  | .insert table values => some [(table, table.row values)]
  | .update .. => none
  | .delete .. => none

namespace Database

/-- The database with added rows, the last one of a list first. -/
def adding (database : Database) (added : List (Table × Row)) : Database :=
  added.foldr (fun (table, row) database => database.replace table (row :: database.rows table))
    database

@[simp]
theorem adding_singleton (database : Database) (table : Table) (row : Row) :
    database.adding [(table, row)] = database.replace table (row :: database.rows table) := rfl

end Database

/-- A server: the committed rows, and the open transaction of each session. -/
structure Engine where
  committed : Database
  active : Nat → Option Transaction

namespace Engine

/-- The server with another transaction of a session, or none. -/
def put (engine : Engine) (session : Nat) (transaction : Option Transaction) : Engine :=
  { engine with
    active := fun other => if other = session then transaction else engine.active other }

@[simp]
theorem active_put_self (engine : Engine) (session : Nat) (transaction : Option Transaction) :
    (engine.put session transaction).active session = transaction := if_pos rfl

theorem active_put_ne (engine : Engine) {session other : Nat} (transaction : Option Transaction)
    (different : other ≠ session) :
    (engine.put session transaction).active other = engine.active other := if_neg different

/-- The row is committed, or a transaction has inserted it. -/
def Has (engine : Engine) (table : Table) (row : Row) : Prop :=
  row ∈ engine.committed.rows table ∨
    ∃ session transaction, engine.active session = some transaction ∧
      (table, row) ∈ transaction.added

/-- What a server answers to a command of a session, and how it goes on. -/
inductive Answers (collation : Collation) (engine : Engine) (session : Nat) :
    (command : Command) → command.Answer → Engine → Prop
  | begun (idle : engine.active session = none) :
      Answers collation engine session .begin (.ok ()) (engine.put session (some {}))
  | refused (fault : DatabaseFault) :
      Answers collation engine session .begin (.error fault) engine
  | failed (statement : Statement) (fault : DatabaseFault) :
      Answers collation engine session (.run statement) (.error fault) engine
  /-- A lock is given only if nobody else holds it. -/
  | locked {table : Table} {lock : String} {transaction : Transaction} (reply : ServerReply)
      (active : engine.active session = some transaction)
      (free : ∀ other transaction', other ≠ session →
        engine.active other = some transaction' → lock ∉ transaction'.locks) :
      Answers collation engine session (.run (Session.taking table lock)) (.ok reply)
        (engine.put session (some { transaction with locks := lock :: transaction.locks }))
  /-- Where a reply can be read, it says what the statement gives. -/
  | ran {statement : Statement} {operation : Operation} {outcome : Outcome} {after : Database}
      {added : List (Table × Row)} {transaction : Transaction} {reply : ServerReply}
      (active : engine.active session = some transaction)
      (reads : Operation.ofStatement? statement = some operation)
      (performs : operation.Performs collation (engine.committed.adding transaction.added)
        outcome after)
      (grows : operation.added? = some added)
      (gives : ∀ read, Session.reading statement (.ok reply) = .ok read → read = outcome) :
      Answers collation engine session (.run statement) (.ok reply)
        (engine.put session (some { transaction with added := added ++ transaction.added }))
  | committed {transaction : Transaction} (active : engine.active session = some transaction) :
      Answers collation engine session .commit (.ok ())
        { engine.put session none with
          committed := engine.committed.adding transaction.added }
  | uncommitted (fault : DatabaseFault) :
      Answers collation engine session .commit (.error fault) (engine.put session none)
  | rolledBack (answer : Except DatabaseFault Unit) :
      Answers collation engine session .rollback answer (engine.put session none)

/-- The query for the next id may be answered by what is committed, where the transaction has
inserted nothing. -/
theorem Answers.of_nextId {collation : Collation} {engine : Engine} {session : Nat}
    {table : Table} {query : Statement} {transaction : Transaction} {id : Int64}
    (built : table.nextIdQuery.statement = .ok query)
    (active : engine.active session = some transaction) (unused : transaction.added = [])
    (next : Database.IsNextId (engine.committed.rows table) id) :
    engine.Answers collation session (.run query)
      (.ok ⟨[(Table.nextIdColumn, "INT8")], [[.int id]], 0⟩)
      (engine.put session (some transaction)) := by
  have seen : Database.IsNextId ((engine.committed.adding transaction.added).rows table) id := by
    rwa [unused]
  refine .ran active (Operation.ofStatement?_nextId built) (.nextId seen) rfl fun read same => ?_
  have drafted : (Draft.select table.nextIdQuery).statement = .ok query := built
  obtain ⟨_, _, rfl⟩ := Draft.statement_eq_ok_iff.mp drafted
  cases same
  rfl

end Engine

/-- To take a lock is no operation on tables. -/
theorem Session.ofStatement?_taking (table : Table) (lock : String) :
    Operation.ofStatement? (taking table lock) = none := by
  have tokens : lexFrom .blank "SELECT pg_advisory_xact_lock(hashtext($1))".toList =
      some [.word "SELECT", .word "pg_advisory_xact_lock", .opening, .word "hashtext", .opening,
        .parameter 1, .closing, .closing] := by decide
  rw [Operation.ofStatement?, taking]
  dsimp only
  rw [tokens]
  rfl

end Notebook
