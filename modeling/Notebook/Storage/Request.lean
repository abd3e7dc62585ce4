import Notebook.Row
import Notebook.Sql.Statement

/-!
# Storage requests

What can be asked of the store: to run one statement, to run several in one
transaction, or to run two under a lock, the second built from the outcome of
the first.
-/

namespace Notebook

/-- Something asked of the store. -/
inductive Request where
  | execute (statement : Statement)
  /-- All statements take effect, or none does. -/
  | executeAtomic (statements : List Statement)
  /-- Holders of one lock never overlap. A tail that cannot be built fails the
  whole request. -/
  | executeSerialized (lock : String) (head : Statement)
      (tail : Outcome → Except Error Statement)

/-- What the store answers. -/
@[reducible]
def Request.Answer : Request → Type
  | .execute _ => Except Error Outcome
  | .executeAtomic _ => Except Error (List Outcome)
  | .executeSerialized .. => Except Error (Outcome × Outcome)

/-- The answer that nothing was done because of an error. -/
def Request.refuse (error : Error) : (request : Request) → request.Answer
  | .execute _ => .error error
  | .executeAtomic _ => .error error
  | .executeSerialized .. => .error error

end Notebook
