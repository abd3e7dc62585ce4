import Notebook.Storage.Precision
import Notebook.Storage.Session

/-!
# A server with prepared answers

A server that answers statements from a list and transaction commands with
success or a prepared fault, and keeps a record of what it was sent. Timestamps
reach it and leave it with its own precision. It stands behind a pool of one
connection, which is idle between requests.
-/

namespace Notebook

/-- Prepared answers and the record of commands, in order. -/
structure Server where
  answers : List (Except DatabaseFault ServerReply) := []
  /-- Faults that transaction commands meet. -/
  faults : List (Command × DatabaseFault) := []
  /-- The commands that were sent. -/
  received : List Command := []

namespace Server

/-- What a transaction command meets. -/
def verdict (server : Server) (command : Command) : Except DatabaseFault Unit :=
  match server.faults.lookup command with
  | some fault => .error fault
  | none => .ok ()

/-- The next prepared answer; without one a statement gives no rows. -/
def nextAnswer (server : Server) : Except DatabaseFault ServerReply :=
  (server.answers.headD (.ok ⟨[], [], 0⟩)).map fun reply =>
    { reply with rows := reply.rows.map fun values => values.map Value.stored }

/-- The server with one more command on record. -/
def record (server : Server) (command : Command) : Server :=
  { server with received := server.received ++ [command] }

/-- Answers a command and records it. -/
def respond : (command : Command) → Server → command.Answer × Server
  | .begin, server => (server.verdict .begin, server.record .begin)
  | .commit, server => (server.verdict .commit, server.record .commit)
  | .rollback, server => (server.verdict .rollback, server.record .rollback)
  | .run statement, server =>
      (server.nextAnswer,
        { server.record (.run statement.stored) with answers := server.answers.tail })

/-- Carries out a storage request on the server. -/
def answering : World.Answering Server := fun request world =>
  let (answer, store) := (Session.carryOut request).run respond world.store
  (answer, { world with store })

/-- Open and idle connections between requests. -/
def occupancy (_ : Server) : Nat × Nat :=
  (1, 1)

end Server

end Notebook
