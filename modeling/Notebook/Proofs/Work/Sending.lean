import Notebook.Proofs.Store.Session
import Notebook.Repository.Allocation

/-!
# Work that is sent to a server

The commands that the work of the service comes to where storage requests are carried out by
sessions. Sending goes through sequences part by part, so what is known of the session of a
request is known of all work that makes it.
-/

namespace Notebook

/-- The commands that work comes to, where the cache and the clock stay as they are. -/
def Work.sent {α : Type} (around : World Unit) : Work α → Program Command Command.Answer α
  | .done result => .done result
  | .ask (.store request) next =>
      Session.carryOut request >>= fun answer => sent around (next answer)
  | .ask (.cache call) next => sent around (next (IdentityCache.perform call around.cache).1)
  | .ask .now next => sent around (next around.clock)

/-- The session that a job comes to. -/
def Job.sent {α : Type} (around : World Unit) (job : Job α) : Session α :=
  ExceptT.mk (Work.sent around job.run)

section Sent

variable {α β : Type} (around : World Unit)

/-- Work in a row is sent in a row. -/
theorem Work.sent_bind (work : Work α) (next : α → Work β) :
    sent around (work >>= next) = sent around work >>= fun result => sent around (next result) := by
  induction work with
  | done result => rfl
  | ask action rest inductionHypothesis =>
      cases action with
      | store request =>
          show (Session.carryOut request >>= fun answer => sent around (rest answer >>= next)) =
            (Session.carryOut request >>= fun answer => sent around (rest answer)) >>=
              fun result => sent around (next result)
          rw [bind_assoc]
          exact congrArg (Session.carryOut request >>= ·) (funext inductionHypothesis)
      | cache call => exact inductionHypothesis _
      | now => exact inductionHypothesis _

namespace Job

/-- Jobs in a row are sent in a row. -/
theorem sent_bind (job : Job α) (next : α → Job β) :
    sent around (job >>= next) = sent around job >>= fun value => sent around (next value) := by
  refine (Work.sent_bind around job.run _).trans ?_
  refine congrArg (Work.sent around job.run >>= ·) (funext fun result => ?_)
  cases result <;> rfl

/-- Nothing is sent for a result that is known. -/
@[simp]
theorem sent_ofExcept (result : Except Error α) :
    sent around (ofExcept result) = Session.ofExcept result := rfl

/-- What is sent for two statements under a lock. -/
@[simp]
theorem sent_executeSerialized (lock : String) (head : Statement)
    (tail : Outcome → Except Error Statement) :
    sent around (executeSerialized lock head tail) =
      ExceptT.mk (Session.carryOut (.executeSerialized lock head tail)) :=
  bind_pure (Session.carryOut (.executeSerialized lock head tail))

/-- A failure that is looked at is sent like one that is not. -/
theorem sent_observe (job : Job α) :
    sent around (observe job) = ExceptT.lift (sent around job).run :=
  Work.sent_bind around job.run _

end Job

end Sent

end Notebook
