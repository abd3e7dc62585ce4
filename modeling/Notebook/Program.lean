/-!
# Programs

A program either is done with a result or asks its surroundings something and
goes on with the answer. What can be asked is a parameter, and so is what the
answers are; a program therefore says nothing about who answers, and the same
program can be run on any surroundings, one question at a time.
-/

namespace Notebook

/-- A computation that asks questions `Op`, each with answers of its own type. -/
inductive Program (Op : Type) (Answer : Op → Type) (α : Type) where
  | done (result : α)
  | ask (op : Op) (next : Answer op → Program Op Answer α)

namespace Program

variable {Op : Type} {Answer : Op → Type} {α β : Type}

/-- Goes on with `next` once a program is done. -/
def bind (program : Program Op Answer α) (next : α → Program Op Answer β) :
    Program Op Answer β :=
  match program with
  | .done result => next result
  | .ask op rest => .ask op fun answer => (rest answer).bind next

instance : Monad (Program Op Answer) where
  pure := .done
  bind := bind

/-- Runs a program on surroundings that keep a state between the questions. -/
def run {State : Type} (answer : (op : Op) → State → Answer op × State) :
    Program Op Answer α → State → α × State
  | .done result, state => (result, state)
  | .ask op next, state =>
      let (reply, state) := answer op state
      (next reply).run answer state

@[simp]
theorem pure_eq_done (result : α) : (pure result : Program Op Answer α) = .done result := rfl

@[simp]
theorem done_bind (result : α) (next : α → Program Op Answer β) :
    (Program.done result >>= next) = next result := rfl

@[simp]
theorem ask_bind (op : Op) (rest : Answer op → Program Op Answer α)
    (next : α → Program Op Answer β) :
    (Program.ask op rest >>= next) = .ask op fun answer => rest answer >>= next := rfl

/-- Sequencing programs one way or the other makes no difference. -/
theorem bind_assoc {γ : Type} (program : Program Op Answer α) (first : α → Program Op Answer β)
    (second : β → Program Op Answer γ) :
    program >>= first >>= second = program >>= fun result => first result >>= second := by
  induction program with
  | done result => rfl
  | ask op rest inductionHypothesis =>
      exact congrArg (Program.ask op) (funext inductionHypothesis)

/-- Ending with the result as it is changes nothing. -/
theorem id_map (program : Program Op Answer α) : id <$> program = program := by
  induction program with
  | done result => rfl
  | ask op rest inductionHypothesis =>
      exact congrArg (Program.ask op) (funext inductionHypothesis)

instance : LawfulMonad (Program Op Answer) :=
  LawfulMonad.mk' _ id_map (fun _ _ => rfl) bind_assoc

/-- Running two programs in sequence hands the state from one to the other. -/
theorem run_bind {State : Type} (answer : (op : Op) → State → Answer op × State)
    (program : Program Op Answer α) (next : α → Program Op Answer β) (state : State) :
    (program >>= next).run answer state =
      (next (program.run answer state).1).run answer (program.run answer state).2 := by
  induction program generalizing state with
  | done result => rfl
  | ask op rest inductionHypothesis => exact inductionHypothesis _ _

end Program

end Notebook
