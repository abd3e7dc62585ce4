import Notebook.Proofs.Allocation.Course
import Notebook.Proofs.Allocation.Numbering
import Notebook.Proofs.Store.Engine

/-!
# Insertions that overlap

A registry is a server with all insertions that were called, each in a session of its own. Their
commands are answered in any order, and any transaction may be rolled back at any time.

What an insertion has of the server is known from its phase (`Insertion.Agrees`): whoever has
read the next id holds the lock of the table, so nobody else commits a row there, and the id is
still the next one when the row is committed (`Registry.Sound`).
-/

namespace Notebook

open Notebook.Sql

/-! ### The system -/

/-- An insertion with what was said for it and what is left to send. -/
structure Insertion.Call where
  insertion : Insertion
  said : Session.Talk
  rest : Program Command Command.Answer (Except Error Int64)

/-- An insertion that was just called. -/
def Insertion.Call.begin (around : World Unit) (insertion : Insertion) : Insertion.Call :=
  ⟨insertion, [], insertion.program around⟩

/-- The row that a call has inserted into a table, if it has succeeded. -/
def Insertion.Call.row? (table : Table) : Insertion.Call → Option Row
  | ⟨insertion, _, .done (.ok id)⟩ =>
      if insertion.table = table then some (insertion.row id) else none
  | _ => none

/-- A server, and all insertions in the order in which they were called. -/
structure Registry where
  engine : Engine
  calls : List Insertion.Call

namespace Registry

/-- A server on which nothing is open. -/
def start (store : Database) : Registry where
  engine := ⟨store, fun _ => none⟩
  calls := []

/-- The rows that calls which succeeded have inserted into a table. -/
def inserted (registry : Registry) (table : Table) : List Row :=
  registry.calls.filterMap (Insertion.Call.row? table)

/-- An insertion is called, a command is answered, or a transaction is rolled back by the
server. -/
inductive Step (collation : Collation) : Registry → Registry → Prop
  | call {registry : Registry} (around : World Unit) (insertion : Insertion) :
      Step collation registry
        { registry with calls := registry.calls ++ [.begin around insertion] }
  | act {registry : Registry} {engine : Engine} {session : Nat} {insertion : Insertion}
      {said : Session.Talk} {command : Command}
      {next : command.Answer → Program Command Command.Answer (Except Error Int64)}
      {answer : command.Answer}
      (acting : registry.calls[session]? = some ⟨insertion, said, .ask command next⟩)
      (answered : registry.engine.Answers collation session command answer engine) :
      Step collation registry
        ⟨engine, registry.calls.set session
          ⟨insertion, said ++ [⟨command, answer⟩], next answer⟩⟩
  | abort {registry : Registry} (session : Nat) :
      Step collation registry { registry with engine := registry.engine.put session none }

/-- The registry can come from a server on which nothing was open. -/
inductive Runs (collation : Collation) (store : Database) : Registry → Prop
  | start : Runs collation store (start store)
  | step {registry later : Registry} (runs : Runs collation store registry)
      (step : Step collation registry later) : Runs collation store later

end Registry

/-! ### What a server does -/

section Answers

variable {collation : Collation} {engine later : Engine} {session : Nat} {command : Command}
  {answer : command.Answer}

/-- No two transactions hold the same lock. -/
def Engine.Exclusive (engine : Engine) : Prop :=
  ∀ session other transaction transaction' lock, session ≠ other →
    engine.active session = some transaction → engine.active other = some transaction' →
    lock ∈ transaction.locks → lock ∉ transaction'.locks

/-- Locks stay exclusive where a transaction gets none that another one holds. -/
theorem Engine.Exclusive.put (exclusive : engine.Exclusive) {transaction? : Option Transaction}
    (apart : ∀ transaction, transaction? = some transaction → ∀ lock ∈ transaction.locks,
      ∀ other transaction', other ≠ session → engine.active other = some transaction' →
        lock ∉ transaction'.locks) : (engine.put session transaction?).Exclusive := by
  intro first second transaction transaction' lock different active active' holds holds'
  by_cases isFirst : first = session
  · subst isFirst
    rw [Engine.active_put_self] at active
    rw [Engine.active_put_ne _ _ different.symm] at active'
    exact apart transaction active lock holds second transaction' different.symm active' holds'
  · rw [Engine.active_put_ne _ _ isFirst] at active
    by_cases isSecond : second = session
    · subst isSecond
      rw [Engine.active_put_self] at active'
      exact apart transaction' active' lock holds' first transaction isFirst active holds
    · rw [Engine.active_put_ne _ _ isSecond] at active'
      exact exclusive first second transaction transaction' lock different active active' holds
        holds'

/-- Locks stay exclusive where a transaction ends. -/
theorem Engine.Exclusive.put_none (exclusive : engine.Exclusive) (session : Nat) :
    (engine.put session none).Exclusive :=
  exclusive.put fun _ same => nomatch same

/-- A server keeps locks exclusive. -/
theorem Engine.Answers.exclusive (exclusive : engine.Exclusive)
    (answered : engine.Answers collation session command answer later) : later.Exclusive := by
  cases answered with
  | begun =>
      refine exclusive.put ?_
      rintro transaction ⟨⟩ lock member
      cases member
  | refused => exact exclusive
  | failed => exact exclusive
  | locked _ active free =>
      refine exclusive.put ?_
      rintro _ ⟨⟩ lock member other transaction' different active' holds
      rcases List.mem_cons.mp member with rfl | old
      · exact free other transaction' different active' holds
      · exact exclusive session other _ transaction' lock different.symm active active' old holds
  | ran active =>
      refine exclusive.put ?_
      rintro _ ⟨⟩ lock member other transaction' different active' holds
      exact exclusive session other _ transaction' lock different.symm active active' member holds
  | committed => exact exclusive.put_none session
  | uncommitted => exact exclusive.put_none session
  | rolledBack => exact exclusive.put_none session

/-- What other sessions have open stays open. -/
theorem Engine.Answers.active_ne (answered : engine.Answers collation session command answer later)
    {other : Nat} (different : other ≠ session) : later.active other = engine.active other := by
  cases answered with
  | refused => rfl
  | failed => rfl
  | begun => exact engine.active_put_ne _ different
  | locked => exact engine.active_put_ne _ different
  | ran => exact engine.active_put_ne _ different
  | committed => exact engine.active_put_ne _ different
  | uncommitted => exact engine.active_put_ne _ different
  | rolledBack => exact engine.active_put_ne _ different

end Answers

/-! ### What an insertion has of a server -/

namespace Insertion

/-- What an insertion that has got so far has open, where these are the committed rows of its
table. Nothing is open outside of a transaction, and nothing once it is committed. -/
inductive Agrees (insertion : Insertion) (rows : List Row) : Phase → Transaction → Prop
  | begun {transaction : Transaction} (unused : transaction.added = []) :
      Agrees insertion rows .begun transaction
  | locked {transaction : Transaction} (holds : insertion.table.lockKey ∈ transaction.locks)
      (unused : transaction.added = []) : Agrees insertion rows .locked transaction
  | looked {id : Int64} {transaction : Transaction}
      (holds : insertion.table.lockKey ∈ transaction.locks) (unused : transaction.added = [])
      (next : Database.IsNextId rows id) : Agrees insertion rows (.looked id) transaction
  | inserted {id : Int64} {transaction : Transaction}
      (holds : insertion.table.lockKey ∈ transaction.locks)
      (added : transaction.added = [(insertion.table, insertion.row id)])
      (next : Database.IsNextId rows id) : Agrees insertion rows (.inserted id) transaction
  | failed {transaction : Transaction}
      (guarded : ∀ entry ∈ transaction.added,
        entry.1 = insertion.table ∧ insertion.table.lockKey ∈ transaction.locks) :
      Agrees insertion rows .failed transaction

variable {insertion : Insertion} {rows : List Row} {phase : Phase} {transaction : Transaction}

/-- Rows are inserted only into the table of the insertion, and only under its lock. -/
theorem Agrees.guarded (agrees : insertion.Agrees rows phase transaction) :
    ∀ entry ∈ transaction.added,
      entry.1 = insertion.table ∧ insertion.table.lockKey ∈ transaction.locks := by
  intro entry member
  cases agrees with
  | begun unused => rw [unused] at member; cases member
  | locked _ unused => rw [unused] at member; cases member
  | looked _ unused => rw [unused] at member; cases member
  | inserted holds added =>
      rw [added, List.mem_singleton] at member
      exact ⟨by rw [member], holds⟩
  | failed guarded => exact guarded entry member

/-- Where the lock of the table is held, its rows have to stay as they are. -/
theorem Agrees.of_rows (agrees : insertion.Agrees rows phase transaction) {later : List Row}
    (same : insertion.table.lockKey ∈ transaction.locks → later = rows) :
    insertion.Agrees later phase transaction := by
  cases agrees with
  | begun unused => exact .begun unused
  | locked holds unused => exact .locked holds unused
  | looked holds unused next => exact .looked holds unused (same holds ▸ next)
  | inserted holds added next => exact .inserted holds added (same holds ▸ next)
  | failed guarded => exact .failed guarded

section Own

variable {collation : Collation} {engine later : Engine} {session : Nat} {command : Command}
  {answer : command.Answer}

/-- What an insertion has open after an answer agrees with how far it has got then. -/
theorem Agrees.answered (may : insertion.May phase command)
    (agrees : ∀ transaction, engine.active session = some transaction →
      insertion.Agrees (engine.committed.rows insertion.table) phase transaction)
    (answered : engine.Answers collation session command answer later)
    (active : later.active session = some transaction) :
    insertion.Agrees (later.committed.rows insertion.table)
      (phase.after insertion.table ⟨command, answer⟩) transaction := by
  cases answered with
  | begun =>
      rw [Engine.active_put_self] at active
      cases active
      cases may
      exact .begun rfl
  | refused fault =>
      cases may
      cases agrees transaction active
  | failed statement fault =>
      have guarded := (agrees transaction active).guarded
      cases may <;> exact .failed guarded
  | locked reply held =>
      rw [Engine.active_put_self] at active
      cases active
      rcases may.reads with ⟨rfl, same⟩ | ⟨_, reads⟩ | ⟨_, _, reads⟩
      · cases same
        cases agrees _ held with
        | begun unused => exact .locked List.mem_cons_self unused
      · rw [Session.ofStatement?_taking] at reads
        cases reads
      · rw [Session.ofStatement?_taking] at reads
        cases reads
  | ran held reads performs grows gives =>
      rw [Engine.active_put_self] at active
      cases active
      rcases may.reads with ⟨_, rfl⟩ | ⟨rfl, asks⟩ | ⟨id, rfl, asks⟩
      · rw [Session.ofStatement?_taking] at reads
        cases reads
      · rw [asks] at reads
        cases reads
        cases grows
        cases agrees _ held with
        | locked holds unused =>
            rw [unused] at performs
            cases performs with
            | @nextId _ _ id next =>
                have readId : insertion.table.readNextId
                    (.ofRows [⟨[(Table.nextIdColumn, .int id)]⟩]) = .ok id := by
                  simp [Table.readNextId, Outcome.ofRows, Row.int_eq_ok_iff, Row.get?]
                rw [Phase.after]
                cases read : Session.reading _ _ with
                | error error => exact .failed (by simp [unused])
                | ok first =>
                    rw [gives first read, Except.bind, readId]
                    exact .looked holds unused next
      · rw [asks] at reads
        cases reads
        cases grows
        cases agrees _ held with
        | looked holds unused next =>
            rw [Phase.after]
            cases read : Session.reading _ _ with
            | error error => exact .failed (by simp [unused, holds])
            | ok second => exact .inserted holds (by rw [unused]; rfl) next
  | committed =>
      rw [Engine.active_put_self] at active
      cases active
  | uncommitted =>
      rw [Engine.active_put_self] at active
      cases active
  | rolledBack =>
      rw [Engine.active_put_self] at active
      cases active

/-- The row that an insertion has committed into a table when it has got so far. -/
def stored? (insertion : Insertion) (table : Table) : Phase → Option Row
  | .finished id => if insertion.table = table then some (insertion.row id) else none
  | _ => none

/-- Whoever may send something has committed nothing. -/
theorem May.stored? (may : insertion.May phase command) (table : Table) :
    insertion.stored? table phase = none := by
  cases may <;> rfl

/-- Nothing is committed by a statement. -/
theorem May.stored?_after {statement : Statement} (may : insertion.May phase (.run statement))
    (answer : Except DatabaseFault ServerReply) (table : Table) :
    insertion.stored? table (phase.after insertion.table ⟨.run statement, answer⟩) = none := by
  rcases may.reads with ⟨rfl, _⟩ | ⟨rfl, _⟩ | ⟨_, rfl, _⟩ <;>
  · rw [Phase.after]
    split <;> rfl

/-- What becomes of the committed rows of a table, if the insertion has committed this row: it
held the lock of the table and was inserted under the next id. -/
inductive Grows (insertion : Insertion) (engine : Engine) (session : Nat) (later : Engine)
    (table : Table) : Option Row → Prop
  | nothing (same : later.committed.rows table = engine.committed.rows table) :
      Grows insertion engine session later table none
  | row {id : Int64} {transaction : Transaction} (own : insertion.table = table)
      (active : engine.active session = some transaction)
      (holds : insertion.table.lockKey ∈ transaction.locks)
      (next : Database.IsNextId (engine.committed.rows table) id)
      (added : later.committed.rows table =
        insertion.row id :: engine.committed.rows table) :
      Grows insertion engine session later table (some (insertion.row id))

/-- Only a commit adds rows, and it adds the row of the insertion, under the id that is still
the next one. -/
theorem Agrees.grows (may : insertion.May phase command)
    (agrees : ∀ transaction, engine.active session = some transaction →
      insertion.Agrees (engine.committed.rows insertion.table) phase transaction)
    (answered : engine.Answers collation session command answer later) (table : Table) :
    insertion.Grows engine session later table
      (insertion.stored? table (phase.after insertion.table ⟨command, answer⟩)) := by
  cases answered with
  | begun => cases may; exact .nothing rfl
  | refused => cases may; exact .nothing rfl
  | failed =>
      rw [may.stored?_after]
      exact .nothing rfl
  | locked =>
      rw [may.stored?_after]
      exact .nothing rfl
  | ran =>
      rw [may.stored?_after]
      exact .nothing rfl
  | @committed transaction active =>
      cases may
      cases agrees _ active with
      | inserted holds added next =>
          have adds : engine.committed.adding transaction.added = _ :=
            congrArg engine.committed.adding added
          rw [Phase.after, Insertion.stored?]
          split
          next own =>
            subst own
            refine .row rfl active holds next ?_
            show (engine.committed.adding transaction.added).rows insertion.table = _
            rw [adds, Database.adding_singleton, Database.rows_replace_self]
          next other =>
            refine .nothing ?_
            show (engine.committed.adding transaction.added).rows table = _
            rw [adds, Database.adding_singleton, Database.rows_replace_ne _ _ (Ne.symm other)]
  | uncommitted => cases may; exact .nothing rfl
  | rolledBack => cases may; exact .nothing rfl

end Own

end Insertion

end Notebook
