import Notebook.Proofs.Store.Answer
import Notebook.Proofs.Work.Running
import Notebook.Storage.Scripted

/-!
# Attempts

How often an insertion under the next id is attempted, and why. `Table.Attempt` lists the ways
one attempt can go, each with the statements that it sends and the answers to them. A script
has answers for any number of attempts (`Script.Plays`), so what is said of all scripts is said
of all that a store may answer.

`retries_only_collisions` puts an insertion together from its attempts: another one is made only
after a violated unique constraint, and the last one decides what comes of the insertion.
-/

namespace Notebook

/-! ### What a script answers -/

namespace Script

/-- The next answers of a script, so many of them. When the prepared ones are used up, there is
the empty outcome for every statement. -/
def next (script : Script) (count : Nat) : List (Except Error Outcome) :=
  (List.range count).map fun place => script.answers.getD place (.ok (.affected 0))

/-- While the locks were taken the script answered these statements so, each by its next answer,
and it has a record of all that. -/
structure Plays (before : Script) (locks : List String)
    (said : List (Statement × Except Error Outcome)) (after : Script) : Prop where
  answers : said.map Prod.snd = before.next said.length
  record : after = { before with
    answers := before.answers.drop said.length
    sent := before.sent ++ said.map Prod.fst
    locks := before.locks ++ locks
    meanwhile := before.meanwhile.drop locks.length }

/-- Answers that are asked for later follow those that were asked for before. -/
theorem next_add (script : Script) (first second : Nat) :
    script.next (first + second) =
      script.next first ++ { script with answers := script.answers.drop first }.next second := by
  simp [next, List.range_add, List.getD_eq_getElem?_getD]

/-- A script goes on from where it was left. -/
theorem Plays.trans {before between after : Script} {locks locks' : List String}
    {said said' : List (Statement × Except Error Outcome)}
    (first : before.Plays locks said between) (second : between.Plays locks' said' after) :
    before.Plays (locks ++ locks') (said ++ said') after := by
  obtain ⟨answers, rfl⟩ := first
  obtain ⟨answers', rfl⟩ := second
  constructor
  · have later : said'.map Prod.snd =
        { before with answers := before.answers.drop said.length }.next said'.length := answers'
    rw [List.map_append, List.length_append, next_add, answers, later]
  · simp [List.drop_drop]

/-- A script of which nothing is asked is left as it was. -/
theorem Plays.nil (script : Script) : script.Plays [] [] script :=
  ⟨rfl, by simp⟩

/-- A statement takes the next answer. -/
theorem plays_take (script : Script) (statement : Statement) :
    script.Plays [] [(statement, (script.take statement).1)] (script.take statement).2 := by
  obtain ⟨answers, sent, locks, batches, meanwhile⟩ := script
  cases answers <;> exact ⟨rfl, by simp [take]⟩

/-- A lock is recorded, and the others have their turn at the cache. -/
theorem plays_lock (script : Script) (lock : String) :
    script.Plays [lock] []
      { script with locks := script.locks ++ [lock], meanwhile := script.meanwhile.tail } :=
  ⟨rfl, by simp⟩

end Script

/-! ### One attempt -/

namespace Table

/-- How one attempt to insert a row under the next id can go: the statements that are sent with
the answers to them, and what comes of it. -/
inductive Attempt (table : Table) (values : Int64 → List Value) :
    List (Statement × Except Error Outcome) → Except Error Int64 → Prop
  /-- The query for the next id fails. -/
  | unanswered {query : Statement} {error : Error}
      (asks : table.nextIdQuery.statement = .ok query) :
      Attempt table values [(query, .error error)] (.error error)
  /-- The answer is no id. -/
  | unreadable {query : Statement} {outcome : Outcome} {error : Error}
      (asks : table.nextIdQuery.statement = .ok query)
      (unread : table.readNextId outcome = .error error) :
      Attempt table values [(query, .ok outcome)] (.error error)
  /-- There are too few or too many values for the row. -/
  | misfit {query : Statement} {outcome : Outcome} {id : Int64}
      (asks : table.nextIdQuery.statement = .ok query)
      (read : table.readNextId outcome = .ok id)
      (misfits : (values id).length ≠ table.columns.length) :
      Attempt table values [(query, .ok outcome)]
        (.error (.invalidInput (.wrongArity table (values id).length)))
  /-- The insertion of the row fails. -/
  | rejected {query insert : Statement} {outcome : Outcome} {id : Int64} {error : Error}
      (asks : table.nextIdQuery.statement = .ok query)
      (read : table.readNextId outcome = .ok id)
      (inserts : table.insertStatement (values id) = .ok insert) :
      Attempt table values [(query, .ok outcome), (insert, .error error)] (.error error)
  | inserted {query insert : Statement} {outcome second : Outcome} {id : Int64}
      (asks : table.nextIdQuery.statement = .ok query)
      (read : table.readNextId outcome = .ok id)
      (inserts : table.insertStatement (values id) = .ok insert) :
      Attempt table values [(query, .ok outcome), (insert, .ok second)] (.ok id)

/-- An attempt that was made. -/
structure Trial (table : Table) (values : Int64 → List Value) where
  said : List (Statement × Except Error Outcome)
  result : Except Error Int64
  attempt : table.Attempt values said result

/-- The attempt ended in a violated unique constraint. -/
def Trial.Collided {table : Table} {values : Int64 → List Value} (trial : table.Trial values) :
    Prop :=
  ∃ error, trial.result = .error error ∧ error.isUniqueViolation = true

variable {table : Table} {values : Int64 → List Value}

/-- An attempt that failed collided exactly if its error is a violated unique constraint. -/
theorem Trial.collided_iff {trial : table.Trial values} {error : Error}
    (failed : trial.result = .error error) :
    trial.Collided ↔ error.isUniqueViolation = true := by
  constructor
  · rintro ⟨other, failed', violates⟩
    rw [failed] at failed'
    cases failed'
    exact violates
  · exact fun violates => ⟨error, failed, violates⟩

/-- An attempt that succeeded did not collide. -/
theorem Trial.not_collided {trial : table.Trial values} {id : Int64}
    (succeeded : trial.result = .ok id) : ¬ trial.Collided := by
  rintro ⟨error, failed, _⟩
  rw [succeeded] at failed
  cases failed

/-- An insertion is not built if there are too few or too many values. -/
theorem insertStatement_of_misfit {values : List Value}
    (misfits : values.length ≠ table.columns.length) :
    table.insertStatement values = .error (.invalidInput (.wrongArity table values.length)) :=
  if_neg misfits

/-- An attempt is one request under the lock of the table, and what was answered first has the
id. -/
theorem allocate_run {query : Statement} (asks : table.nextIdQuery.statement = .ok query)
    (values : Int64 → List Value) :
    (table.allocate values).run =
      .ask (.store (.executeSerialized table.lockKey query (table.insertNext values)))
        fun answer => .done (answer >>= fun outcomes => table.readNextId outcomes.1) := by
  rw [allocate, asks]
  let finish (outcomes : Outcome × Outcome) : Job Int64 :=
    Job.ofExcept (table.readNextId outcomes.1)
  have asked (answer : Except Error (Outcome × Outcome)) :
      (ExceptT.bindCont finish answer : Work (Except Error Int64)) =
        .done (answer >>= fun outcomes => table.readNextId outcomes.1) := by
    cases answer <;> rfl
  exact congrArg (Program.ask _) (funext asked)

/-- Whatever a script answers to a query and the insertion built from its outcome, an attempt
went so. -/
theorem exists_trial_takePair {query : Statement} (values : Int64 → List Value)
    (asks : table.nextIdQuery.statement = .ok query) (script : Script) :
    ∃ trial : table.Trial values,
      trial.result = ((script.takePair query (table.insertNext values)).1 >>= fun outcomes =>
        table.readNextId outcomes.1) ∧
      script.Plays [] trial.said (script.takePair query (table.insertNext values)).2 := by
  have first := script.plays_take query
  unfold Script.takePair
  generalize script.take query = taken at first ⊢
  obtain ⟨answer, between⟩ := taken
  cases answer with
  | error error => exact ⟨⟨_, _, .unanswered asks⟩, rfl, first⟩
  | ok outcome =>
      dsimp only
      cases read : table.readNextId outcome with
      | error error =>
          have built : table.insertNext values outcome = .error error := by
            rw [insertNext, read]
            rfl
          rw [built]
          exact ⟨⟨_, _, .unreadable asks read⟩, rfl, first⟩
      | ok id =>
          have built : table.insertNext values outcome = table.insertStatement (values id) := by
            rw [insertNext, read]
            rfl
          by_cases fits : (values id).length = table.columns.length
          · obtain ⟨insert, inserts⟩ := exists_insertStatement fits
            have second := between.plays_take insert
            rw [built, inserts]
            dsimp only
            generalize between.take insert = last at second ⊢
            obtain ⟨answer, after⟩ := last
            cases answer with
            | error error =>
                exact ⟨⟨_, _, .rejected asks read inserts⟩, rfl, first.trans second⟩
            | ok outcome' =>
                exact ⟨⟨_, _, .inserted asks read inserts⟩, read.symm, first.trans second⟩
          · rw [built, insertStatement_of_misfit fits]
            exact ⟨⟨_, _, .misfit asks read fits⟩, rfl, first⟩

/-- On any script, an attempt goes in one of the ways in which it can, under one lock. -/
theorem exists_trial (table : Table) (values : Int64 → List Value) (world : World Script) :
    ∃ (trial : table.Trial values) (after : World Script),
      World.run Script.answering (table.allocate values).run world = (trial.result, after) ∧
      world.store.Plays [table.lockKey] trial.said after.store := by
  obtain ⟨query, asks⟩ := table.exists_nextIdQuery
  obtain ⟨trial, result, plays⟩ := exists_trial_takePair values asks
    { world.store with
      locks := world.store.locks ++ [table.lockKey], meanwhile := world.store.meanwhile.tail }
  rw [allocate_run asks]
  refine ⟨trial, _, Prod.ext result.symm rfl, ?_⟩
  exact (world.store.plays_lock table.lockKey).trans plays

/-! ### Attempts in a row -/

/-- What all attempts together say. -/
def transcript (trials : List (table.Trial values)) : List (Statement × Except Error Outcome) :=
  trials.flatMap Trial.said

/-- One attempt alone says what it says. -/
theorem transcript_singleton (trial : table.Trial values) : transcript [trial] = trial.said := by
  simp [transcript]

/-- So many attempts were made and came to this: either each of them collided, or one did not,
which was the last. -/
inductive Insists (table : Table) (values : Int64 → List Value) (total : Nat) :
    (left : Nat) → List (table.Trial values) → Except Error Int64 → Prop
  | exhausted : Insists table values total 0 [] (.error (.conflict (.ids table total)))
  | ended {left : Nat} {trial : table.Trial values} {result : Except Error Int64}
      (apart : ¬ trial.Collided) (last : trial.result = result) :
      Insists table values total (left + 1) [trial] result
  | again {left : Nat} {trial : table.Trial values} {later : List (table.Trial values)}
      {result : Except Error Int64} (collided : trial.Collided)
      (goesOn : Insists table values total left later result) :
      Insists table values total (left + 1) (trial :: later) result

/-- An insertion insists as often as it may, with one lock for each attempt. -/
theorem allocateWithin_insists (table : Table) (values : Int64 → List Value) (total left : Nat)
    (world : World Script) :
    ∃ trials : List (table.Trial values),
      table.Insists values total left trials
        (World.run Script.answering (table.allocateWithin values total left).run world).1 ∧
      world.store.Plays (List.replicate trials.length table.lockKey) (transcript trials)
        (World.run Script.answering
          (table.allocateWithin values total left).run world).2.store := by
  induction left generalizing world with
  | zero => exact ⟨[], .exhausted, .nil world.store⟩
  | succ left inductionHypothesis =>
      obtain ⟨trial, between, came, plays⟩ := exists_trial table values world
      rw [allocateWithin, World.run_observe_bind came]
      have alone : world.store.Plays (List.replicate 1 table.lockKey) (transcript [trial])
          between.store := by
        rwa [transcript_singleton]
      cases ended : trial.result with
      | ok id => exact ⟨[trial], .ended (Trial.not_collided ended) ended, alone⟩
      | error error =>
          have collides := Trial.collided_iff ended
          dsimp only
          split
          next violates =>
            obtain ⟨later, goesOn, plays'⟩ := inductionHypothesis between
            exact ⟨trial :: later, .again (collides.mpr violates) goesOn, plays.trans plays'⟩
          next unviolated =>
            exact ⟨[trial], .ended (fun collided => unviolated (collides.mp collided)) ended,
              alone⟩

/-- Of the attempts that an insertion makes, all but the last collided; if that did too, there
was none left, and else it decides what comes of the insertion. -/
theorem Insists.split {total left : Nat} {trials : List (table.Trial values)}
    {result : Except Error Int64} (insists : table.Insists values total left trials result)
    (positive : 0 < left) :
    ∃ earlier last, trials = earlier ++ [last] ∧ trials.length ≤ left ∧
      (∀ trial ∈ earlier, trial.Collided) ∧
      (last.Collided ∧ trials.length = left ∧ result = .error (.conflict (.ids table total)) ∨
        ¬ last.Collided ∧ result = last.result) := by
  induction insists with
  | exhausted => exact absurd positive (Nat.lt_irrefl 0)
  | ended apart last =>
      exact ⟨[], _, rfl, Nat.le_add_left 1 _, (fun _ member => nomatch member),
        .inr ⟨apart, last.symm⟩⟩
  | @again left trial later result collided goesOn inductionHypothesis =>
      cases left with
      | zero =>
          cases goesOn
          exact ⟨[], trial, rfl, Nat.le_refl 1, (fun _ member => nomatch member),
            .inl ⟨collided, rfl, rfl⟩⟩
      | succ left =>
          obtain ⟨earlier, last, rfl, within, collisions, ends⟩ :=
            inductionHypothesis (Nat.succ_pos left)
          refine ⟨trial :: earlier, last, rfl, Nat.succ_le_succ within, ?_, ?_⟩
          · exact List.forall_mem_cons.mpr ⟨collided, collisions⟩
          · refine ends.imp (fun ⟨last, made, conflict⟩ => ?_) id
            exact ⟨last, congrArg (· + 1) made, conflict⟩

/-- An attempt that succeeded has inserted the values for the id that it read. -/
theorem Trial.inserted_of_result {trial : table.Trial values} {id : Int64}
    (succeeded : trial.result = .ok id) :
    ∃ query insert outcome second, trial.said = [(query, .ok outcome), (insert, .ok second)] ∧
      table.nextIdQuery.statement = .ok query ∧ table.readNextId outcome = .ok id ∧
      table.insertStatement (values id) = .ok insert := by
  obtain ⟨said, result, attempt⟩ := trial
  cases succeeded
  cases attempt with
  | inserted asks read inserts => exact ⟨_, _, _, _, rfl, asks, read, inserts⟩

/-- On any script, an insertion makes at least one attempt and at most as many as it may, and
only a violated unique constraint makes it try again. Each attempt takes the lock of the table
once. If the last one collided too, none is left and there is a conflict; else what came of it
is what comes of the insertion, and nothing is sent after it: either its error, or the id that it
read, under which it has just inserted the values. -/
theorem retries_only_collisions (table : Table) (attempts : Nat) (values : Int64 → List Value)
    (world : World Script) :
    let ending := World.run Script.answering (table.insertWithNextId attempts values).run world
    ∃ (earlier : List (table.Trial values)) (last : table.Trial values),
      earlier.length + 1 ≤ max attempts 1 ∧ (∀ trial ∈ earlier, trial.Collided) ∧
      world.store.Plays (List.replicate (earlier.length + 1) table.lockKey)
        (transcript (earlier ++ [last])) ending.2.store ∧
      (∀ id, ending.1 = .ok id ↔ last.result = .ok id) ∧
      (∀ id, ending.1 = .ok id → ∃ query insert outcome second,
        last.said = [(query, .ok outcome), (insert, .ok second)] ∧
        table.readNextId outcome = .ok id ∧ table.insertStatement (values id) = .ok insert ∧
        ending.2.store.sent.getLast? = some insert) ∧
      (last.Collided → earlier.length + 1 = max attempts 1 ∧
        ending.1 = .error (.conflict (.ids table (max attempts 1)))) ∧
      (∀ error, last.result = .error error → ¬ last.Collided → ending.1 = .error error) := by
  intro ending
  obtain ⟨trials, insists, plays⟩ :=
    allocateWithin_insists table values (max attempts 1) (max attempts 1) world
  obtain ⟨earlier, last, rfl, within, collisions, ends⟩ := insists.split (by omega)
  rw [List.length_append, List.length_singleton] at within plays ends
  have succeeds (id : Int64) : ending.1 = .ok id ↔ last.result = .ok id := by
    rcases ends with ⟨collided, _, conflict⟩ | ⟨_, same⟩
    · obtain ⟨error, failed, _⟩ := collided
      rw [failed]
      exact ⟨(fun known => nomatch conflict.symm.trans known), (fun known => nomatch known)⟩
    · exact ⟨fun known => same.symm.trans known, fun known => same.trans known⟩
  refine ⟨earlier, last, within, collisions, plays, succeeds, ?_, ?_, ?_⟩
  · intro id known
    obtain ⟨query, insert, outcome, second, said, _, read, inserts⟩ :=
      Trial.inserted_of_result ((succeeds id).mp known)
    refine ⟨query, insert, outcome, second, said, read, inserts, ?_⟩
    have record : ending.2.store.sent = world.store.sent ++ _ := congrArg Script.sent plays.record
    rw [record]
    simp [transcript, said]
  · intro collided
    rcases ends with ⟨_, made, conflict⟩ | ⟨apart, _⟩
    · exact ⟨made, conflict⟩
    · exact absurd collided apart
  · intro error failed apart
    rcases ends with ⟨collided, _⟩ | ⟨_, same⟩
    · exact absurd collided apart
    · exact same.trans failed

end Table

end Notebook
