import Notebook.Proofs.Store.Session

/-!
# All or nothing

A request of several statements is one transaction on the server, which may refuse the
beginning, any statement and the commit. Whatever the server answers: the statements reach it
in order, none behind one that failed; the commit is sent exactly if all of them succeeded; the
request succeeds exactly if the commit did; and otherwise the first error is the answer and the
transaction is rolled back.

What a transaction is for is a `Session.Plan`: to run a list of statements, or a statement and
one built from its outcome under a lock. `Session.Carries` says what is promised for any plan,
and it is shown once, from what the statements of the plan come to (`Session.Follows`).
-/

namespace Notebook

namespace Session

/-! ### What was said -/

/-- Statements that were sent, each with what was made of the answer. -/
abbrev Runs := List (Statement × Except Error Outcome)

/-- The error of a statement that failed. -/
def failure? (run : Statement × Except Error Outcome) : Option Error :=
  match run.2 with
  | .ok _ => none
  | .error error => some error

namespace Talk

/-- The commands that were sent. -/
def commands (said : Talk) : List Command :=
  said.map fun exchange => exchange.op

/-- The statement that was sent, with what was made of the answer. -/
def run? : Program.Exchange Command Command.Answer → Option (Statement × Except Error Outcome)
  | ⟨.run statement, answer⟩ => some (statement, reading statement answer)
  | _ => none

/-- The statements that were sent, each with what was made of the answer. -/
def runs (said : Talk) : Runs :=
  said.filterMap run?

/-- A transaction was begun. -/
def Begun (said : Talk) : Prop :=
  ⟨.begin, .ok ()⟩ ∈ said

/-- The transaction was committed. -/
def Committed (said : Talk) : Prop :=
  ⟨.commit, .ok ()⟩ ∈ said

/-- The error that an exchange amounts to. What is said to a rollback does not matter. -/
def error? : Program.Exchange Command Command.Answer → Option Error
  | ⟨.begin, .error fault⟩ => some (.database fault)
  | ⟨.commit, .error fault⟩ => some (.database fault)
  | ⟨.run statement, answer⟩ => failure? (statement, reading statement answer)
  | _ => none

/-- The first error that occurred. -/
def firstError? (said : Talk) : Option Error :=
  said.findSome? error?

end Talk

/-! ### Plans -/

/-- What a transaction is for. -/
structure Plan (α : Type) where
  /-- The statements may have got so far. -/
  allows : Runs → Prop
  /-- All statements have succeeded, and this is what they give. -/
  attains : Runs → α → Prop
  /-- The next statement cannot be built, for this reason. -/
  abandons : Runs → Error → Prop

/-- To run statements in order, which gives an outcome for each. -/
def Plan.all (statements : List Statement) : Plan (List Outcome) where
  allows runs := runs.map Prod.fst <+: statements
  attains runs outcomes :=
    outcomes.length = statements.length ∧ runs = statements.zip (outcomes.map .ok)
  abandons _ _ := False

/-- To take a lock, to run a statement, and to run the one built from its outcome, which gives
both outcomes. -/
def Plan.pair (lock : String) (head : Statement) (tail : Outcome → Except Error Statement) :
    Plan (Outcome × Outcome) where
  allows runs :=
    (∀ run, runs[0]? = some run → run.1 = taking head.table lock) ∧
    (∀ run, runs[1]? = some run → run.1 = head) ∧
    (∀ run, runs[2]? = some run →
      ∃ first, runs[1]? = some (head, .ok first) ∧ tail first = .ok run.1) ∧
    runs.length ≤ 3
  attains runs outcomes :=
    ∃ locked next, tail outcomes.1 = .ok next ∧
      runs = [(taking head.table lock, .ok locked), (head, .ok outcomes.1), (next, .ok outcomes.2)]
  abandons runs error :=
    ∃ locked first, tail first = .error error ∧
      runs = [(taking head.table lock, .ok locked), (head, .ok first)]

/-- What was said is one transaction for the plan, and this came of it. -/
structure Carries {α : Type} (plan : Plan α) (said : Talk) (result : Except Error α) : Prop where
  /-- Nothing follows a refused beginning; otherwise the statements stand between the beginning
  and a commit, a rollback, or a commit that failed with the rollback behind it. -/
  bracketed : said.commands = [.begin] ∧ ¬ said.Begun ∨
    said.Begun ∧ ∃ ending ∈ [[Command.commit], [.commit, .rollback], [.rollback]],
      said.commands = .begin :: said.runs.map (fun run => .run run.1) ++ ending
  inOrder : plan.allows said.runs
  /-- A statement is followed by another only if it succeeded. -/
  onward : ∀ run ∈ said.runs.dropLast, ∃ outcome, run.2 = .ok outcome
  commits : .commit ∈ said.commands ↔ said.Begun ∧ ∃ value, plan.attains said.runs value
  succeeds : ∀ value, result = .ok value ↔ said.Committed ∧ plan.attains said.runs value
  /-- The first error is the answer. -/
  fails : ∀ error, result = .error error ↔
    said.firstError? = some error ∨ plan.abandons said.runs error
  /-- What was begun and not committed was rolled back at last. -/
  undone : said.Begun → ¬ said.Committed → said.commands.getLast? = some .rollback

/-! ### Transactions -/

/-- Statements with what the server answered to them. -/
abbrev Answers := List (Statement × Except DatabaseFault ServerReply)

/-- What is made of the answers. -/
def Answers.runs (answers : Answers) : Runs :=
  answers.map fun (statement, answer) => (statement, reading statement answer)

@[simp]
theorem Answers.runs_nil : Answers.runs [] = [] := rfl

@[simp]
theorem Answers.runs_cons (statement : Statement) (answer : Except DatabaseFault ServerReply)
    (answers : Answers) : Answers.runs ((statement, answer) :: answers) =
      (statement, reading statement answer) :: answers.runs := rfl

/-- The conversation in which the statements were sent. -/
def Answers.talk (answers : Answers) : Talk :=
  answers.map fun (statement, answer) => ⟨.run statement, answer⟩

/-- The statements that were sent follow a plan, and this came of them. -/
structure Follows {α : Type} (plan : Plan α) (answers : Answers) (result : Except Error α) :
    Prop where
  allowed : plan.allows answers.runs
  onward : ∀ run ∈ answers.runs.dropLast, ∃ outcome, run.2 = .ok outcome
  succeeds : ∀ value, result = .ok value ↔ plan.attains answers.runs value
  fails : ∀ error, result = .error error ↔
    answers.runs.findSome? failure? = some error ∨ plan.abandons answers.runs error

/-- A transaction goes so if its statements follow the plan. -/
inductive Transacts {α : Type} (plan : Plan α) : Talk → Except Error α → Prop
  | refused (fault : DatabaseFault) :
      Transacts plan [⟨.begin, .error fault⟩] (.error (.database fault))
  | undone {answers : Answers} {error : Error} (failed : Follows plan answers (.error error))
      (answer : Except DatabaseFault Unit) :
      Transacts plan (⟨.begin, .ok ()⟩ :: answers.talk ++ [⟨.rollback, answer⟩]) (.error error)
  | lost {answers : Answers} {value : α} (done : Follows plan answers (.ok value))
      (fault : DatabaseFault) (answer : Except DatabaseFault Unit) :
      Transacts plan
        (⟨.begin, .ok ()⟩ :: answers.talk ++ [⟨.commit, .error fault⟩, ⟨.rollback, answer⟩])
        (.error (.database fault))
  | committed {answers : Answers} {value : α} (done : Follows plan answers (.ok value)) :
      Transacts plan (⟨.begin, .ok ()⟩ :: answers.talk ++ [⟨.commit, .ok ()⟩]) (.ok value)

section Transacts

variable {α : Type} {plan : Plan α} {answers : Answers} {ending : Talk}

/-- The commands of a transaction. -/
theorem commands_begun :
    Talk.commands (⟨.begin, .ok ()⟩ :: answers.talk ++ ending) =
      .begin :: answers.runs.map (fun run => .run run.1) ++ ending.commands := by
  simp [Talk.commands, Answers.talk, Answers.runs]

/-- The statements of a transaction. -/
theorem runs_begun (quiet : ending.runs = []) :
    Talk.runs (⟨.begin, .ok ()⟩ :: answers.talk ++ ending) = answers.runs := by
  have body : answers.talk.filterMap Talk.run? = answers.runs := by
    rw [Answers.talk, List.filterMap_map, Answers.runs, ← List.filterMap_eq_map]
    rfl
  rw [Talk.runs] at quiet
  rw [Talk.runs, List.cons_append, List.filterMap_cons, List.filterMap_append, body, quiet,
    List.append_nil]
  rfl

/-- A transaction is committed at its end. -/
theorem committed_begun :
    Talk.Committed (⟨.begin, .ok ()⟩ :: answers.talk ++ ending) ↔ ending.Committed := by
  simp [Talk.Committed, Answers.talk]

/-- Errors of a transaction come from its statements or from its end. -/
theorem firstError?_begun :
    Talk.firstError? (⟨.begin, .ok ()⟩ :: answers.talk ++ ending) =
      (answers.runs.findSome? failure?).or ending.firstError? := by
  have body : answers.talk.findSome? Talk.error? = answers.runs.findSome? failure? := by
    rw [Answers.talk, Answers.runs, List.findSome?_map, List.findSome?_map]
    rfl
  rw [Talk.firstError?, List.cons_append, List.findSome?_cons, List.findSome?_append, body]
  rfl

/-- Statements that follow a plan to its end do not fail. -/
theorem Follows.failure?_eq_none {value : α} (done : Follows plan answers (.ok value)) :
    answers.runs.findSome? failure? = none := by
  cases failed : answers.runs.findSome? failure? with
  | none => rfl
  | some error => exact nomatch (done.fails error).mpr (.inl failed)

/-- What was said from a beginning to an end carries out a plan, if the statements follow the
plan and it ends as transactions do. -/
theorem Follows.carries {came result : Except Error α} (follows : Follows plan answers came)
    (quiet : ending.runs = [])
    (closed : ending.commands ∈ [[Command.commit], [.commit, .rollback], [.rollback]])
    (commits : .commit ∈ ending.commands ↔ ∃ value, came = .ok value)
    (succeeds : ∀ value, result = .ok value ↔ ending.Committed ∧ came = .ok value)
    (fails : ∀ error, result = .error error ↔
      came = .error error ∨ (∃ value, came = .ok value) ∧ ending.firstError? = some error)
    (calm : ∀ error, came = .error error → ending.firstError? = none)
    (undone : ¬ ending.Committed → ending.commands.getLast? = some .rollback) :
    Carries plan (⟨.begin, .ok ()⟩ :: answers.talk ++ ending) result where
  bracketed := by
    refine .inr ⟨List.mem_cons_self, ending.commands, closed, ?_⟩
    rw [commands_begun, runs_begun quiet]
  inOrder := by
    rw [runs_begun quiet]
    exact follows.allowed
  onward := by
    rw [runs_begun quiet]
    exact follows.onward
  commits := by
    rw [commands_begun, runs_begun quiet]
    have within : Command.commit ∈ .begin :: answers.runs.map (fun run => .run run.1) ++
        ending.commands ↔ .commit ∈ ending.commands := by simp
    rw [within, commits]
    exact (exists_congr follows.succeeds).trans (and_iff_right List.mem_cons_self).symm
  succeeds := by
    intro value
    rw [succeeds, committed_begun, runs_begun quiet, follows.succeeds]
  fails := by
    intro error
    rw [fails, firstError?_begun, runs_begun quiet]
    have ofBody := follows.fails error
    cases came with
    | error first => simpa [calm first rfl] using ofBody
    | ok value =>
        rw [follows.failure?_eq_none] at ofBody ⊢
        have built : ¬ plan.abandons answers.runs error := by simpa using ofBody
        simp [built]
  undone := by
    intro _ uncommitted
    have last := undone fun within => uncommitted (committed_begun.mpr within)
    rw [commands_begun, List.getLast?_append, last]
    rfl

/-- A transaction whose statements follow a plan carries it out, if nothing is done is allowed
by the plan and nothing is abandoned before it is begun. -/
theorem Transacts.carries {said : Talk} {result : Except Error α}
    (transacts : Transacts plan said result) (idle : plan.allows [])
    (unbegun : ∀ error, ¬ plan.abandons [] error) : Carries plan said result := by
  cases transacts with
  | refused fault =>
      have unsaid (exchange : Program.Exchange Command Command.Answer)
          (member : exchange ∈ [(⟨.begin, .error fault⟩ :
            Program.Exchange Command Command.Answer)]) : exchange ≠ ⟨.begin, .ok ()⟩ ∧
          exchange ≠ ⟨.commit, .ok ()⟩ := by
        rw [List.mem_singleton.mp member]
        simp
      exact {
        bracketed := .inl ⟨rfl, fun begun => (unsaid _ begun).1 rfl⟩
        inOrder := idle
        onward := fun run member => nomatch member
        commits := by simp [Talk.commands, Talk.Begun]
        succeeds := fun value =>
          ⟨fun same => (nomatch same), fun done => absurd rfl (unsaid _ done.1).2⟩
        fails := fun error => by
          have first : Talk.firstError? [⟨.begin, .error fault⟩] = some (.database fault) := rfl
          rw [first]
          exact ⟨fun same => .inl (by cases same; rfl), fun either => either.elim
            (fun same => by cases same; rfl) fun abandoned => absurd abandoned (unbegun error)⟩
        undone := fun begun => absurd rfl (unsaid _ begun).1 }
  | undone failed answer =>
      refine failed.carries rfl (by simp [Talk.commands]) ?_ ?_ ?_ (fun _ _ => rfl) fun _ => rfl
      · simp [Talk.commands]
      · simp
      · simp
  | lost done fault answer =>
      have first : Talk.firstError? [⟨.commit, .error fault⟩, ⟨.rollback, answer⟩] =
          some (.database fault) := rfl
      refine done.carries rfl (by simp [Talk.commands]) ?_ ?_ ?_ ?_ fun _ => rfl
      · simp [Talk.commands]
      · simp [Talk.Committed]
      · simp [first]
      · simp
  | committed done =>
      have first : Talk.firstError? [⟨.commit, .ok ()⟩] = none := rfl
      refine done.carries rfl (by simp [Talk.commands]) ?_ ?_ ?_ ?_ ?_
      · simp [Talk.commands]
      · simp [Talk.Committed]
      · simp [first]
      · simp
      · exact fun uncommitted => absurd List.mem_cons_self uncommitted

end Transacts

/-! ### Statements in a row -/

/-- The statements were sent one after the other until one failed, and this came of it. -/
inductive RunsThrough : List Statement → Answers → Except Error (List Outcome) → Prop
  | nil : RunsThrough [] [] (.ok [])
  | stop {statement : Statement} {rest : List Statement}
      {answer : Except DatabaseFault ServerReply} {error : Error}
      (failed : reading statement answer = .error error) :
      RunsThrough (statement :: rest) [(statement, answer)] (.error error)
  | cons {statement : Statement} {rest : List Statement} {answers : Answers}
      {answer : Except DatabaseFault ServerReply} {outcome : Outcome}
      {result : Except Error (List Outcome)} (ran : reading statement answer = .ok outcome)
      (later : RunsThrough rest answers result) :
      RunsThrough (statement :: rest) ((statement, answer) :: answers)
        (result.map (outcome :: ·))

namespace RunsThrough

variable {statements : List Statement} {answers : Answers} {result : Except Error (List Outcome)}

/-- The statements are sent in order. -/
theorem inOrder (runs : RunsThrough statements answers result) :
    answers.runs.map Prod.fst <+: statements := by
  induction runs with
  | nil => exact List.prefix_refl []
  | stop => simp
  | cons ran _ inductionHypothesis =>
      exact List.cons_prefix_cons.mpr ⟨rfl, inductionHypothesis⟩

/-- All statements but the last succeeded. -/
theorem onward (runs : RunsThrough statements answers result) :
    ∀ run ∈ answers.runs.dropLast, ∃ outcome, run.2 = .ok outcome := by
  induction runs with
  | nil => exact fun _ member => nomatch member
  | stop => exact fun _ member => nomatch member
  | @cons _ _ answers _ outcome _ ran _ inductionHypothesis =>
      intro run member
      rw [Answers.runs_cons] at member
      by_cases last : answers.runs = []
      · rw [last] at member
        cases member
      · rw [List.dropLast_cons_of_ne_nil last, List.mem_cons] at member
        rcases member with rfl | later
        · exact ⟨outcome, ran⟩
        · exact inductionHypothesis run later

/-- If all statements succeed, there is an outcome for each. -/
theorem succeeds_iff (runs : RunsThrough statements answers result) {outcomes : List Outcome} :
    result = .ok outcomes ↔
      outcomes.length = statements.length ∧ answers.runs = statements.zip (outcomes.map .ok) := by
  induction runs generalizing outcomes with
  | nil =>
      constructor
      · rintro ⟨⟩
        exact ⟨rfl, rfl⟩
      · rintro ⟨length, _⟩
        rw [List.length_eq_zero_iff.mp length]
  | @stop _ rest _ _ failed =>
      constructor
      · rintro ⟨⟩
      · rintro ⟨length, whole⟩
        cases outcomes with
        | nil => cases length
        | cons outcome outcomes => simp [failed] at whole
  | @cons _ _ _ _ outcome result ran _ inductionHypothesis =>
      cases outcomes with
      | nil => cases result <;> simp [Except.map]
      | cons other outcomes =>
          have split : result.map (outcome :: ·) = .ok (other :: outcomes) ↔
              outcome = other ∧ result = .ok outcomes := by
            cases result <;> simp [Except.map]
          rw [split, inductionHypothesis, Answers.runs_cons, ran]
          simp [and_left_comm]

/-- What fails is the first that fails. -/
theorem fails_iff (runs : RunsThrough statements answers result) {error : Error} :
    result = .error error ↔ answers.runs.findSome? failure? = some error := by
  induction runs with
  | nil => simp
  | stop failed => simp [failed, failure?]
  | @cons _ _ _ _ _ result ran _ inductionHypothesis =>
      rw [Answers.runs_cons, List.findSome?_cons, ran]
      refine Iff.trans ?_ inductionHypothesis
      cases result <;> simp [Except.map]

/-- Statements that were sent one after the other follow the plan to run them all. -/
theorem follows (runs : RunsThrough statements answers result) :
    Follows (.all statements) answers result where
  allowed := runs.inOrder
  onward := runs.onward
  succeeds := fun _ => runs.succeeds_iff
  fails := fun _ => runs.fails_iff.trans (or_false _).symm.to_iff

end RunsThrough

/-- Statements that may be sent one after the other come to what is made of the answers. -/
theorem Keeps.each {may : Talk → Command → Prop}
    {ends : Talk → Except Error (List Outcome) → Prop} {said : Talk} {statements : List Statement}
    (allowed : ∀ said statement, may said (.run statement))
    (ended : ∀ answers result, RunsThrough statements answers result →
      ends (said ++ answers.talk) result) :
    Keeps may ends said (statements.mapM Session.statement) := by
  induction statements generalizing said ends with
  | nil =>
      have whole := ended [] (.ok []) .nil
      rw [Answers.talk, List.map_nil, List.append_nil] at whole
      exact Keeps.pure whole
  | cons first rest inductionHypothesis =>
      rw [List.mapM_cons]
      refine Keeps.bind (Keeps.statement (allowed _ _) fun answer => ?_)
      cases came : reading first answer with
      | error error => exact ended [(first, answer)] (.error error) (.stop came)
      | ok outcome =>
          refine Keeps.bind (inductionHypothesis fun answers result runs => ?_)
          have whole := ended _ _ (.cons came runs)
          rw [List.append_assoc]
          cases result with
          | error error => exact whole
          | ok outcomes => exact Keeps.pure whole

/-! ### A pair under a lock -/

/-- The lock was taken, the first statement sent, and then the one built from its outcome, until
something failed, and this came of it. -/
inductive RunsPair (lock : String) (head : Statement) (tail : Outcome → Except Error Statement) :
    Answers → Except Error (Outcome × Outcome) → Prop
  | unlocked {answer : Except DatabaseFault ServerReply} {error : Error}
      (failed : reading (taking head.table lock) answer = .error error) :
      RunsPair lock head tail [(taking head.table lock, answer)] (.error error)
  | unread {answer answer' : Except DatabaseFault ServerReply} {locked : Outcome} {error : Error}
      (took : reading (taking head.table lock) answer = .ok locked)
      (failed : reading head answer' = .error error) :
      RunsPair lock head tail [(taking head.table lock, answer), (head, answer')] (.error error)
  | unbuilt {answer answer' : Except DatabaseFault ServerReply} {locked first : Outcome}
      {error : Error} (took : reading (taking head.table lock) answer = .ok locked)
      (read : reading head answer' = .ok first) (failed : tail first = .error error) :
      RunsPair lock head tail [(taking head.table lock, answer), (head, answer')] (.error error)
  | built {answer answer' answer'' : Except DatabaseFault ServerReply} {locked first : Outcome}
      {next : Statement} (took : reading (taking head.table lock) answer = .ok locked)
      (read : reading head answer' = .ok first) (follows : tail first = .ok next) :
      RunsPair lock head tail
        [(taking head.table lock, answer), (head, answer'), (next, answer'')]
        ((reading next answer'').map (first, ·))

/-- Statements of a pair that were sent one after the other follow its plan. -/
theorem RunsPair.follows {lock : String} {head : Statement}
    {tail : Outcome → Except Error Statement} {answers : Answers}
    {result : Except Error (Outcome × Outcome)} (runs : RunsPair lock head tail answers result) :
    Follows (.pair lock head tail) answers result := by
  cases runs with
  | unlocked failed =>
      refine ⟨?_, fun _ member => (nomatch member), fun outcomes => ?_, fun error => ?_⟩
      · simp [Plan.pair]
      · simp [Plan.pair]
      · simp [Plan.pair, failed, failure?]
  | unread took failed =>
      refine ⟨?_, ?_, fun outcomes => ?_, fun error => ?_⟩
      · simp [Plan.pair]
      · simp [took]
      · simp [Plan.pair]
      · simp [Plan.pair, took, failed, failure?, List.findSome?_cons]
  | unbuilt took read failed =>
      refine ⟨?_, ?_, fun outcomes => ?_, fun error => ?_⟩
      · simp [Plan.pair]
      · simp [took]
      · simp [Plan.pair]
      · simp [Plan.pair, took, read, failed, failure?, List.findSome?_cons]
  | @built _ _ answer locked first next took read follows =>
      refine ⟨?_, ?_, fun outcomes => ?_, fun error => ?_⟩
      · simp [Plan.pair, read, follows]
      · simp [took, read]
      · constructor
        · intro done
          cases came : reading next answer with
          | error error =>
              rw [came] at done
              cases done
          | ok second =>
              rw [came] at done
              cases done
              exact ⟨locked, next, follows, by simp [took, read, came]⟩
        · rintro ⟨locked, other, _, whole⟩
          simp only [Answers.runs_cons, Answers.runs_nil, took, read, List.cons.injEq,
            Prod.mk.injEq, Except.ok.injEq, true_and, and_true] at whole
          obtain ⟨rfl, rfl, rfl, came⟩ := whole
          rw [came]
          rfl
      · cases came : reading next answer <;>
          simp [Plan.pair, took, read, failure?, List.findSome?_cons, Except.map, came]

/-- Statements of a pair that may be sent come to what is made of the answers. -/
theorem Keeps.pair {may : Talk → Command → Prop}
    {ends : Talk → Except Error (Outcome × Outcome) → Prop} {said : Talk} {lock : String}
    {head : Statement} {tail : Outcome → Except Error Statement}
    (allowed : ∀ said statement, may said (.run statement))
    (ended : ∀ answers result, RunsPair lock head tail answers result →
      ends (said ++ answers.talk) result) :
    Keeps may ends said (do
      let _ ← Session.statement (taking head.table lock)
      let first ← Session.statement head
      let next ← Session.ofExcept (tail first)
      let second ← Session.statement next
      return (first, second)) := by
  refine Keeps.bind (Keeps.statement (allowed _ _) fun answer => ?_)
  cases took : reading (taking head.table lock) answer with
  | error error => exact ended _ _ (.unlocked took)
  | ok locked =>
      refine Keeps.bind (Keeps.statement (allowed _ _) fun answer' => ?_)
      rw [List.append_assoc]
      cases read : reading head answer' with
      | error error => exact ended _ _ (.unread took read)
      | ok first =>
          refine Keeps.bind (Keeps.ofExcept ?_)
          cases follows : tail first with
          | error error => exact ended _ _ (.unbuilt took read follows)
          | ok next =>
              refine Keeps.bind (Keeps.statement (allowed _ _) fun answer'' => ?_)
              rw [List.append_assoc]
              have runs : RunsPair lock head tail
                  [(taking head.table lock, answer), (head, answer'), (next, answer'')]
                  ((reading next answer'').map (first, ·)) := .built took read follows
              have whole := ended _ _ runs
              cases came : reading next answer'' with
              | error error =>
                  rw [came] at whole
                  exact whole
              | ok second =>
                  rw [came] at whole
                  exact Keeps.pure whole

/-! ### The result -/

/-- A transaction whose statements follow a plan transacts it. -/
theorem Keeps.transacts {α : Type} {plan : Plan α} {body : Session α}
    (performed : ∀ said, Keeps (fun _ _ => True)
      (fun later result => ∃ answers, Follows plan answers result ∧ later = said ++ answers.talk)
      said body) :
    Keeps (fun _ _ => True) (Transacts plan) [] (Session.transaction body) := by
  refine Keeps.transaction trivial (fun fault => .refused fault) ?_
  refine Program.Meets.mono (performed _) (fun _ _ allowed => allowed) ?_
  rintro _ result ⟨answers, follows, rfl⟩
  cases result with
  | error error => exact ⟨trivial, fun answer => .undone follows answer⟩
  | ok value =>
      refine ⟨trivial, .committed follows, fun fault => ⟨trivial, fun answer => ?_⟩⟩
      rw [List.append_assoc]
      exact .lost follows fault answer

end Session

/-- Whatever a server answers to what it was sent: a list of statements is carried out in one
transaction, in order and up to the first failure, which is committed exactly if all of them
succeeded, and so is a statement with the one that is built from its outcome, behind the taking
of the lock. The request succeeds exactly if the commit did, with what the statements gave, and
otherwise fails with the first error, and what was begun is rolled back. -/
theorem committed_exactly_when_all_succeed
    (behaviour : Session.Talk → (command : Command) → command.Answer) :
    (∀ statements,
      let (result, said) := (Session.carryOut (.executeAtomic statements)).converse behaviour []
      Session.Carries (.all statements) said result) ∧
    ∀ lock head tail,
      let (result, said) :=
        (Session.carryOut (.executeSerialized lock head tail)).converse behaviour []
      Session.Carries (.pair lock head tail) said result := by
  constructor
  · intro statements
    have transacts : Session.Keeps (fun _ _ => True) (Session.Transacts (.all statements)) []
        (Session.transaction (statements.mapM Session.statement)) :=
      .transacts fun said => .each (fun _ _ => trivial) fun answers result runs =>
        ⟨answers, runs.follows, rfl⟩
    exact (transacts.converse behaviour).carries List.nil_prefix fun _ => id
  · intro lock head tail
    have transacts : Session.Keeps (fun _ _ => True)
        (Session.Transacts (.pair lock head tail)) [] (Session.transaction do
          let _ ← Session.statement (Session.taking head.table lock)
          let first ← Session.statement head
          let next ← Session.ofExcept (tail first)
          let second ← Session.statement next
          return (first, second)) :=
      .transacts fun said => .pair (fun _ _ => trivial) fun answers result runs =>
        ⟨answers, runs.follows, rfl⟩
    refine (transacts.converse behaviour).carries ?_ ?_
    · simp [Session.Plan.pair]
    · simp [Session.Plan.pair]

end Notebook
