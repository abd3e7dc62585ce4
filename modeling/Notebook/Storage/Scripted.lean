import Notebook.Job

/-!
# Scripted storage

A store that plays back prepared answers: each statement that is run takes the
next one, and once they are used up every statement has the empty outcome. The
store keeps a record of what it was asked. Before each request a prepared change
of the identity cache can be played, as if another caller made it meanwhile.
-/

namespace Notebook

/-- Prepared answers and the record of requests, each in order. -/
structure Script where
  answers : List (Except Error Outcome) := []
  /-- The statements that were run. -/
  sent : List Statement := []
  /-- The locks that were taken. -/
  locks : List String := []
  /-- The sizes of the transactions that were asked for. -/
  batches : List Nat := []
  /-- What others do to the identity cache, one change for each request to come. -/
  meanwhile : List (IdentityCache → IdentityCache) := []

namespace Script

/-- Runs one statement on the next prepared answer. -/
def take (statement : Statement) (script : Script) : Except Error Outcome × Script :=
  let script := { script with sent := script.sent ++ [statement] }
  match script.answers with
  | [] => (.ok (.affected 0), script)
  | answer :: rest => (answer, { script with answers := rest })

/-- Runs statements in order until one fails. -/
def takeAll (script : Script) : List Statement → Except Error (List Outcome) × Script
  | [] => (.ok [], script)
  | statement :: rest =>
      match script.take statement with
      | (.error error, script) => (.error error, script)
      | (.ok outcome, script) =>
          let (outcomes, script) := script.takeAll rest
          (outcomes.map (outcome :: ·), script)

/-- Runs a statement, then the one built from its outcome. -/
def takePair (head : Statement) (tail : Outcome → Except Error Statement)
    (script : Script) : Except Error (Outcome × Outcome) × Script :=
  match script.take head with
  | (.error error, script) => (.error error, script)
  | (.ok outcome, script) =>
      match tail outcome with
      | .error error => (.error error, script)
      | .ok statement =>
          let (last, script) := script.take statement
          (last.map (outcome, ·), script)

/-- Answers a request. -/
def respond : (request : Request) → Script → request.Answer × Script
  | .execute statement, script => script.take statement
  | .executeAtomic statements, script =>
      takeAll { script with batches := script.batches ++ [statements.length] } statements
  | .executeSerialized lock head tail, script =>
      takePair head tail { script with locks := script.locks ++ [lock] }

/-- Lets the others change the identity cache, then answers the request. -/
def answering : World.Answering Script := fun request world =>
  let change := world.store.meanwhile.headD id
  let (answer, store) :=
    respond request { world.store with meanwhile := world.store.meanwhile.tail }
  (answer, { world with store, cache := change world.cache })

end Script

end Notebook
