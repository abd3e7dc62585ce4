import Notebook.Identity.Cache
import Notebook.Program
import Notebook.Storage.Request

/-!
# Jobs

The work of the service is a program that may ask the store, the identity cache
and the clock, and may fail. Each question is one atomic step, so several jobs
may be interleaved between any two of them. A `World` answers the questions of
jobs that run on it.
-/

namespace Notebook

/-- One atomic step of the service's work. -/
inductive Action where
  | store (request : Request)
  | cache (call : IdentityCache.Call)
  | now

/-- What an action answers. -/
@[reducible]
def Action.Answer : Action → Type
  | .store request => request.Answer
  | .cache call => call.Answer
  | .now => Timestamp

/-- Work that asks actions. -/
abbrev Work (α : Type) := Program Action Action.Answer α

/-- The work that asks one action and gives its answer. -/
def Action.ask (action : Action) : Work action.Answer :=
  .ask action .done

/-- Work that may fail. -/
abbrev Job (α : Type) := ExceptT Error (Program Action Action.Answer) α

namespace Job

/-- Gives a result that is already known. -/
def ofExcept (result : Except Error α) : Job α :=
  ExceptT.mk (.done result)

/-- Runs one statement. -/
def execute (statement : Statement) : Job Outcome :=
  ExceptT.mk (Action.ask (.store (.execute statement)))

/-- Runs statements in one transaction. -/
def executeAtomic (statements : List Statement) : Job (List Outcome) :=
  ExceptT.mk (Action.ask (.store (.executeAtomic statements)))

/-- Runs a statement, and another built from its outcome, under a lock. -/
def executeSerialized (lock : String) (head : Statement)
    (tail : Outcome → Except Error Statement) : Job (Outcome × Outcome) :=
  ExceptT.mk (Action.ask (.store (.executeSerialized lock head tail)))

/-- Uses the identity cache. -/
def cache (call : IdentityCache.Call) : Job call.Answer :=
  ExceptT.lift (Action.ask (.cache call))

/-- Reads the clock. -/
def now : Job Timestamp :=
  ExceptT.lift (Action.ask .now)

/-- Performs a job and gives its failure as a result. -/
def observe (job : Job α) : Job (Except Error α) :=
  ExceptT.lift job.run

end Job

/-- Surroundings with a store, an identity cache and a clock. -/
structure World (Store : Type) where
  store : Store
  cache : IdentityCache
  clock : Timestamp

namespace World

variable {Store α : Type}

/-- A way to answer storage requests. -/
abbrev Answering (Store : Type) :=
  (request : Request) → World Store → request.Answer × World Store

/-- Answers one action. -/
def perform (answering : Answering Store) :
    (action : Action) → World Store → action.Answer × World Store
  | .store request, world => answering request world
  | .cache call, world =>
      let (answer, cache) := IdentityCache.perform call world.cache
      (answer, { world with cache })
  | .now, world => (world.clock, world)

/-- Runs work to its end. -/
def run (answering : Answering Store) (work : Work α) (world : World Store) :
    α × World Store :=
  Program.run (perform answering) work world

end World

end Notebook
