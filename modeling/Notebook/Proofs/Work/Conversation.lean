import Notebook.Job

/-!
# Conversations

A program is judged by what it says: the questions it asks, each with the answer it got.
A conversation is such a list, and `Program.Reaches` says which conversations a program
can have had and what is left of it then, whatever its surroundings answered.

`Program.Meets` bounds a program from outside: what it may ask after what was said before,
and how it may end. The rules for sequences let the bound of a long program be put together
from those of its steps, and `Program.Meets.of_reaches` carries it to every conversation.
-/

namespace Notebook

/-- A question with the answer it got. -/
structure Program.Exchange (Op : Type) (Answer : Op → Type) where
  op : Op
  answer : Answer op

namespace Program

variable {Op : Type} {Answer : Op → Type} {α β : Type}

/-! ### What was said -/

/-- The program can have said this and be left with that. -/
inductive Reaches : Program Op Answer α → List (Exchange Op Answer) → Program Op Answer α → Prop
  | refl (program : Program Op Answer α) : Reaches program [] program
  | ask {op : Op} {next : Answer op → Program Op Answer α} {said : List (Exchange Op Answer)}
      {rest : Program Op Answer α} (answer : Answer op) (later : Reaches (next answer) said rest) :
      Reaches (.ask op next) (⟨op, answer⟩ :: said) rest

/-- After what was said, the program asks only what it may and ends as it may, whatever
the answers are. -/
inductive Meets (may : List (Exchange Op Answer) → Op → Prop)
    (ends : List (Exchange Op Answer) → α → Prop) :
    List (Exchange Op Answer) → Program Op Answer α → Prop
  | done {said : List (Exchange Op Answer)} {result : α} (ended : ends said result) :
      Meets may ends said (.done result)
  | ask {said : List (Exchange Op Answer)} {op : Op} {next : Answer op → Program Op Answer α}
      (allowed : may said op)
      (later : ∀ answer, Meets may ends (said ++ [⟨op, answer⟩]) (next answer)) :
      Meets may ends said (.ask op next)

namespace Meets

variable {may : List (Exchange Op Answer) → Op → Prop}
  {ends : List (Exchange Op Answer) → α → Prop} {said : List (Exchange Op Answer)}

/-- A program that is done has ended as it may. -/
theorem ended {result : α} (meets : Meets may ends said (.done result)) : ends said result := by
  cases meets with
  | done ended => exact ended

/-- What a program asks, it may ask. -/
theorem allowed {op : Op} {next : Answer op → Program Op Answer α}
    (meets : Meets may ends said (.ask op next)) : may said op := by
  cases meets with
  | ask allowed _ => exact allowed

/-- Whatever the answer is, what follows meets the bound. -/
theorem answered {op : Op} {next : Answer op → Program Op Answer α}
    (meets : Meets may ends said (.ask op next)) (answer : Answer op) :
    Meets may ends (said ++ [⟨op, answer⟩]) (next answer) := by
  cases meets with
  | ask _ later => exact later answer

/-- A sequence meets a bound if its first program does, and what follows after it. -/
theorem bind {program : Program Op Answer β} {next : β → Program Op Answer α}
    (first : Meets may (fun said result => Meets may ends said (next result)) said program) :
    Meets may ends said (program >>= next) := by
  induction first with
  | done ended => exact ended
  | ask allowed _ inductionHypothesis => exact .ask allowed inductionHypothesis

/-- A looser bound is met as well. -/
theorem mono {may' : List (Exchange Op Answer) → Op → Prop}
    {ends' : List (Exchange Op Answer) → α → Prop} {program : Program Op Answer α}
    (meets : Meets may ends said program) (looser : ∀ said op, may said op → may' said op)
    (laxer : ∀ said result, ends said result → ends' said result) :
    Meets may' ends' said program := by
  induction meets with
  | done ended => exact .done (laxer _ _ ended)
  | ask allowed _ inductionHypothesis => exact .ask (looser _ _ allowed) inductionHypothesis

end Meets

/-! ### With given surroundings -/

/-- What a program comes to, and all that was said then, if after anything that was said each
question is answered so. -/
def converse (behaviour : List (Exchange Op Answer) → (op : Op) → Answer op)
    (program : Program Op Answer α) (said : List (Exchange Op Answer)) :
    α × List (Exchange Op Answer) :=
  program.run (fun op said => (behaviour said op, said ++ [⟨op, behaviour said op⟩])) said

/-- A program that meets a bound ends as it may, however its questions are answered. -/
theorem Meets.converse {may : List (Exchange Op Answer) → Op → Prop}
    {ends : List (Exchange Op Answer) → α → Prop} {said : List (Exchange Op Answer)}
    {program : Program Op Answer α} (meets : Meets may ends said program)
    (behaviour : List (Exchange Op Answer) → (op : Op) → Answer op) :
    ends (program.converse behaviour said).2 (program.converse behaviour said).1 := by
  induction meets with
  | done ended => exact ended
  | @ask said op next _ _ inductionHypothesis => exact inductionHypothesis (behaviour said op)

end Program

/-! ### Work that may fail -/

/-- What the work of the service asked, with the answers. -/
abbrev Conversation := List (Program.Exchange Action Action.Answer)

/-- After what was said, the work asks only what it may, and both its results and its
failures are as they may be. -/
def Attempts {ε α : Type} (may : Conversation → Action → Prop) (ends : Conversation → α → Prop)
    (fails : Conversation → ε → Prop) (said : Conversation)
    (work : ExceptT ε (Program Action Action.Answer) α) : Prop :=
  Program.Meets may
    (fun said result =>
      match result with
      | .ok value => ends said value
      | .error error => fails said error)
    said work.run

namespace Attempts

variable {ε α β : Type} {may : Conversation → Action → Prop} {ends : Conversation → α → Prop}
  {fails : Conversation → ε → Prop} {said : Conversation}

/-- A result that is there is the end. -/
theorem pure {value : α} (ended : ends said value) :
    Attempts may ends fails said (Pure.pure value) :=
  .done ended

/-- A failure is the end. -/
theorem throw {error : ε} (failed : fails said error) :
    Attempts may ends fails said (MonadExcept.throw error) :=
  .done failed

/-- Work in a row keeps to a bound if its first part does, and what follows after it. -/
theorem bind {work : ExceptT ε (Program Action Action.Answer) β}
    {next : β → ExceptT ε (Program Action Action.Answer) α}
    (first : Attempts may (fun said value => Attempts may ends fails said (next value)) fails said
      work) : Attempts may ends fails said (work >>= next) := by
  refine Program.Meets.bind (Program.Meets.mono first (fun _ _ allowed => allowed) ?_)
  intro said result ended
  cases result with
  | ok value => exact ended
  | error error => exact .done ended

/-- Work whose result is changed keeps to a bound if the changed result is in it. -/
theorem map {change : β → α} {work : ExceptT ε (Program Action Action.Answer) β}
    (attempts : Attempts may (fun said value => ends said (change value)) fails said work) :
    Attempts may ends fails said (change <$> work) := by
  refine Program.Meets.bind (Program.Meets.mono attempts (fun _ _ allowed => allowed) ?_)
  intro said result ended
  cases result with
  | ok value => exact .done ended
  | error error => exact .done ended

/-- A looser bound is kept as well. -/
theorem mono {may' : Conversation → Action → Prop} {ends' : Conversation → α → Prop}
    {fails' : Conversation → ε → Prop} {work : ExceptT ε (Program Action Action.Answer) α}
    (attempts : Attempts may ends fails said work)
    (looser : ∀ said action, may said action → may' said action)
    (laxer : ∀ said value, ends said value → ends' said value)
    (milder : ∀ said error, fails said error → fails' said error) :
    Attempts may' ends' fails' said work := by
  refine Program.Meets.mono attempts looser ?_
  intro said result ended
  cases result with
  | ok value => exact laxer said value ended
  | error error => exact milder said error ended

/-- A result that is known is the end, or the failure is. -/
theorem ofExcept {fails : Conversation → Error → Prop} {result : Except Error α}
    (ended : ∀ value, result = .ok value → ends said value)
    (failed : ∀ error, result = .error error → fails said error) :
    Attempts may ends fails said (Job.ofExcept result) := by
  cases result with
  | ok value => exact .done (ended value rfl)
  | error error => exact .done (failed error rfl)

/-- A statement that may be run is answered by an outcome or an error. -/
theorem execute {ends : Conversation → Outcome → Prop} {fails : Conversation → Error → Prop}
    {statement : Statement} (allowed : may said (.store (.execute statement)))
    (ended : ∀ outcome, ends (said ++ [⟨.store (.execute statement), .ok outcome⟩]) outcome)
    (failed : ∀ error, fails (said ++ [⟨.store (.execute statement), .error error⟩]) error) :
    Attempts may ends fails said (Job.execute statement) := by
  refine .ask allowed fun answer => .done ?_
  cases answer with
  | ok outcome => exact ended outcome
  | error error => exact failed error

/-- A transaction that may be run is answered by its outcomes or an error. -/
theorem executeAtomic {ends : Conversation → List Outcome → Prop}
    {fails : Conversation → Error → Prop} {statements : List Statement}
    (allowed : may said (.store (.executeAtomic statements)))
    (ended : ∀ outcomes,
      ends (said ++ [⟨.store (.executeAtomic statements), .ok outcomes⟩]) outcomes)
    (failed : ∀ error,
      fails (said ++ [⟨.store (.executeAtomic statements), .error error⟩]) error) :
    Attempts may ends fails said (Job.executeAtomic statements) := by
  refine .ask allowed fun answer => .done ?_
  cases answer with
  | ok outcomes => exact ended outcomes
  | error error => exact failed error

/-- A pair of statements that may be run is answered by both outcomes or an error. -/
theorem executeSerialized {ends : Conversation → Outcome × Outcome → Prop}
    {fails : Conversation → Error → Prop} {lock : String} {head : Statement}
    {tail : Outcome → Except Error Statement}
    (allowed : may said (.store (.executeSerialized lock head tail)))
    (ended : ∀ outcomes,
      ends (said ++ [⟨.store (.executeSerialized lock head tail), .ok outcomes⟩]) outcomes)
    (failed : ∀ error,
      fails (said ++ [⟨.store (.executeSerialized lock head tail), .error error⟩]) error) :
    Attempts may ends fails said (Job.executeSerialized lock head tail) := by
  refine .ask allowed fun answer => .done ?_
  cases answer with
  | ok outcomes => exact ended outcomes
  | error error => exact failed error

/-- A use of the cache always ends. -/
theorem cache {fails : Conversation → Error → Prop} {call : IdentityCache.Call}
    {ends : Conversation → call.Answer → Prop} (allowed : may said (.cache call))
    (ended : ∀ answer, ends (said ++ [⟨.cache call, answer⟩]) answer) :
    Attempts may ends fails said (Job.cache call) :=
  .ask allowed fun answer => .done (ended answer)

/-- A look at the clock always ends. -/
theorem now {fails : Conversation → Error → Prop} {ends : Conversation → Timestamp → Prop}
    (allowed : may said .now) (ended : ∀ time, ends (said ++ [⟨.now, time⟩]) time) :
    Attempts may ends fails said Job.now :=
  .ask allowed fun time => .done (ended time)

/-- A job whose failure is looked at does not fail. -/
theorem observe {fails : Conversation → Error → Prop} {job : Job α}
    {ends : Conversation → Except Error α → Prop}
    (attempts : Attempts may (fun said value => ends said (.ok value))
      (fun said error => ends said (.error error)) said job) :
    Attempts may ends fails said (Job.observe job) := by
  refine Program.Meets.bind (Program.Meets.mono attempts (fun _ _ allowed => allowed) ?_)
  intro said result ended
  cases result with
  | ok value => exact .done ended
  | error error => exact .done ended

end Attempts

end Notebook
