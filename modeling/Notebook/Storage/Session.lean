import Notebook.Job

/-!
# Sessions with a server

How storage requests are carried out by a server that takes statements and
transaction commands one at a time. A single statement is sent alone. Several
statements go inside one transaction, which is committed only if all of them
succeeded and rolled back otherwise. A request under a lock takes the lock as
the first statement of its transaction, so the lock is held until the end.
-/

namespace Notebook

/-- The rows a server sends, with the types of their columns, or the count of a
mutation. -/
structure ServerReply where
  /-- Names and types of the columns. -/
  columns : List (String × String)
  rows : List (List Value)
  affected : Nat

namespace ServerReply

/-- The column types that can be read. -/
def readableTypes : List String :=
  ["INT8", "INT4", "INT2", "BOOL", "TEXT", "VARCHAR", "BPCHAR", "NAME", "TIMESTAMPTZ"]

/-- Names the values of one row. Every column must have a readable type, even
where its value is missing. -/
def readRow (columns : List (String × String)) (values : List Value) : Except Error Row :=
  match columns.find? fun column => !readableTypes.contains column.2 with
  | some (name, type) => .error (.decode (.unsupportedType name type))
  | none => .ok ⟨(columns.map Prod.fst).zip values⟩

/-- The outcome of a statement: rows are read for queries only. -/
def outcome (reply : ServerReply) : StatementKind → Except Error Outcome
  | .query => (reply.rows.mapM (readRow reply.columns)).map Outcome.ofRows
  | .mutation => .ok (.affected reply.affected)

end ServerReply

/-- What is sent to a server. -/
inductive Command where
  | begin
  | commit
  | rollback
  | run (statement : Statement)
deriving DecidableEq

/-- What a server answers to a command. -/
@[reducible]
def Command.Answer : Command → Type
  | .begin => Except DatabaseFault Unit
  | .commit => Except DatabaseFault Unit
  | .rollback => Except DatabaseFault Unit
  | .run _ => Except DatabaseFault ServerReply

/-- Sends one command and gives its answer. -/
def Command.send (command : Command) : Program Command Command.Answer command.Answer :=
  .ask command .done

/-- Work that sends commands and may fail. -/
abbrev Session (α : Type) := ExceptT Error (Program Command Command.Answer) α

namespace Session

/-- Reports a fault of the server as an error. -/
def ofAnswer (answer : Except DatabaseFault α) : Except Error α :=
  answer.mapError .database

/-- Gives a result that is already known. -/
def ofExcept (result : Except Error α) : Session α :=
  ExceptT.mk (.done result)

/-- Opens a transaction. -/
def begin : Session Unit :=
  ExceptT.mk (ofAnswer <$> Command.send .begin)

/-- Commits the open transaction. -/
def commit : Session Unit :=
  ExceptT.mk (ofAnswer <$> Command.send .commit)

/-- Rolls the open transaction back; what the server says to it does not matter. -/
def rollback : Session Unit :=
  ExceptT.lift ((fun _ => ()) <$> Command.send .rollback)

/-- Sends one statement and reads what it gives. -/
def statement (statement : Statement) : Session Outcome := do
  let reply ← ExceptT.mk (ofAnswer <$> Command.send (.run statement))
  ofExcept (reply.outcome statement.kind)

/-- Performs `body` inside a transaction. If the body or the commit fails, the
transaction is rolled back and the failure is the result. -/
def transaction (body : Session α) : Session α := do
  begin
  let committed : Session α := do
    let result ← body
    commit
    return result
  match ← ExceptT.lift committed.run with
  | .ok result => return result
  | .error error =>
      rollback
      throw error

/-- The statement that takes a lock until the end of the transaction. -/
def lockStatement (table : Table) (lock : String) : Except Error Statement :=
  Statement.finalize .mutation table "SELECT pg_advisory_xact_lock(hashtext(?))" [.text lock]

/-- Carries out a storage request. -/
def carryOut : (request : Request) → Program Command Command.Answer request.Answer
  | .execute head => (statement head).run
  | .executeAtomic statements => (transaction (statements.mapM statement)).run
  | .executeSerialized lock head tail => ExceptT.run do
      let taking ← ofExcept (lockStatement head.table lock)
      transaction do
        let _ ← statement taking
        let first ← statement head
        let next ← ofExcept (tail first)
        let second ← statement next
        return (first, second)

end Session

end Notebook
