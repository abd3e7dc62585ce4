import Notebook.Proofs.Work.Conversation
import Notebook.Storage.Session

/-!
# Bounds on sessions

What a session sends to a server, after what the server said to it, and how it may end. There
is one rule for each way to put sessions together, so the bound of a request is read off its
parts. The rule for transactions (`Session.Keeps.transaction`) says once what is sent around
the statements of a transaction, whatever they are.
-/

namespace Notebook

namespace Session

/-- What was said in a session: the commands, each with the answer to it. -/
abbrev Talk := List (Program.Exchange Command Command.Answer)

/-- What a session makes of the answer to a statement: a fault is a failure, and so are rows
that cannot be read. -/
def reading (statement : Statement) (answer : Except DatabaseFault ServerReply) :
    Except Error Outcome :=
  (ofAnswer answer).bind fun reply => reply.outcome statement.kind

/-- After what was said, the session sends only what it may and ends as it may. -/
def Keeps {α : Type} (may : Talk → Command → Prop) (ends : Talk → Except Error α → Prop)
    (said : Talk) (session : Session α) : Prop :=
  Program.Meets may ends said session.run

/-- After what was said, the transaction may be rolled back, and the session may then fail. -/
def MayUndo {α : Type} (may : Talk → Command → Prop) (ends : Talk → Except Error α → Prop)
    (said : Talk) (error : Error) : Prop :=
  may said .rollback ∧ ∀ answer, ends (said ++ [⟨.rollback, answer⟩]) (.error error)

/-- After what was said, the transaction may be committed, and the session may then succeed;
if the commit fails, the transaction may be rolled back. -/
def MayCommit {α : Type} (may : Talk → Command → Prop) (ends : Talk → Except Error α → Prop)
    (said : Talk) (value : α) : Prop :=
  may said .commit ∧ ends (said ++ [⟨.commit, .ok ()⟩]) (.ok value) ∧
    ∀ fault, MayUndo may ends (said ++ [⟨.commit, .error fault⟩]) (.database fault)

/-- What is sent around the body of a transaction: whatever fails behind the beginning, the
transaction is rolled back. -/
theorem transaction_run {α : Type} (body : Session α) :
    (transaction body).run = .ask .begin fun
      | .error fault => .done (.error (.database fault))
      | .ok () => body.run >>= fun
        | .error error => .ask .rollback fun _ => .done (.error error)
        | .ok value => .ask .commit fun
          | .ok () => .done (.ok value)
          | .error fault => .ask .rollback fun _ => .done (.error (.database fault)) := by
  unfold transaction
  simp only [ExceptT.run_bind, ExceptT.run_lift, bind_assoc, map_eq_pure_bind]
  refine congrArg (Program.ask Command.begin) (funext fun answer => ?_)
  cases answer with
  | error fault => rfl
  | ok begun =>
      refine congrArg (body.run >>= ·) (funext fun result => ?_)
      cases result with
      | error error => rfl
      | ok value =>
          refine congrArg (Program.ask Command.commit) (funext fun answer => ?_)
          cases answer <;> rfl

namespace Keeps

variable {α β : Type} {may : Talk → Command → Prop} {ends : Talk → Except Error α → Prop}
  {said : Talk}

/-- A result that is there is the end. -/
theorem pure {value : α} (ended : ends said (.ok value)) :
    Keeps may ends said (Pure.pure value) :=
  .done ended

/-- A result that is known is the end. -/
theorem ofExcept {result : Except Error α} (ended : ends said result) :
    Keeps may ends said (Session.ofExcept result) :=
  .done ended

/-- Sessions in a row keep to a bound if the first does, and what follows after it. -/
theorem bind {session : Session β} {next : β → Session α}
    (first : Keeps may (fun said result =>
      match result with
      | .ok value => Keeps may ends said (next value)
      | .error error => ends said (.error error)) said session) :
    Keeps may ends said (session >>= next) := by
  refine Program.Meets.bind (Program.Meets.mono first (fun _ _ allowed => allowed) ?_)
  intro said result ended
  cases result with
  | ok value => exact ended
  | error error => exact .done ended

/-- A session whose failure is looked at does not fail. -/
theorem observe {session : Session β} {ends : Talk → Except Error (Except Error β) → Prop}
    (kept : Keeps may (fun said result => ends said (.ok result)) said session) :
    Keeps may ends said (ExceptT.lift session.run) := by
  refine Program.Meets.bind (Program.Meets.mono kept (fun _ _ allowed => allowed) ?_)
  exact fun _ _ ended => .done ended

/-- A statement that may be sent comes to what is made of the answer to it. -/
theorem statement {ends : Talk → Except Error Outcome → Prop} {statement : Statement}
    (allowed : may said (.run statement))
    (ended : ∀ answer, ends (said ++ [⟨.run statement, answer⟩]) (reading statement answer)) :
    Keeps may ends said (Session.statement statement) := by
  refine .ask allowed fun answer => ?_
  have whole := ended answer
  cases answer with
  | ok reply => exact .done whole
  | error fault => exact .done whole

/-- A transaction keeps to a bound if it may be begun, its body keeps to it, and it may be
committed after the body has succeeded and rolled back after it has failed. -/
theorem transaction {body : Session α} (begins : may said .begin)
    (refused : ∀ fault, ends (said ++ [⟨.begin, .error fault⟩]) (.error (.database fault)))
    (performed : Keeps may (fun said result =>
      match result with
      | .ok value => MayCommit may ends said value
      | .error error => MayUndo may ends said error) (said ++ [⟨.begin, .ok ()⟩]) body) :
    Keeps may ends said (Session.transaction body) := by
  unfold Keeps
  rw [transaction_run]
  refine .ask begins fun answer => ?_
  cases answer with
  | error fault => exact .done (refused fault)
  | ok begun =>
      refine Program.Meets.bind (Program.Meets.mono performed (fun _ _ allowed => allowed) ?_)
      intro said result ended
      cases result with
      | error error => exact .ask ended.1 fun answer => .done (ended.2 answer)
      | ok value =>
          refine .ask ended.1 fun answer => ?_
          cases answer with
          | ok committed => exact .done ended.2.1
          | error fault =>
              have undoes := ended.2.2 fault
              exact .ask undoes.1 fun answer => .done (undoes.2 answer)

end Keeps

/-! ### The lock -/

/-- The statement that takes a lock until the end of the transaction. -/
def taking (table : Table) (lock : String) : Statement :=
  ⟨.mutation, table, "SELECT pg_advisory_xact_lock(hashtext($1))", [.text lock]⟩

end Session

end Notebook
