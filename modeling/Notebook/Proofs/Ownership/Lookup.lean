import Notebook.Proofs.Ownership.Permission

/-!
# Lookups

What a lookup of a thing with an owner is, among everything else that is sent. Statements
are told apart by what they are read as, so no other query and no mutation is taken for a
lookup. All lookups of the endpoints are one piece of work, `Handling.owned`, with different
refusals.

The rules for jobs say once how a query, an allocation and a refused job keep to a bound.
-/

namespace Notebook

open Notebook.Sql

/-! ### Telling statements apart -/

/-- A query for whole rows is read as what was asked for. -/
theorem Select.reading_of_statement {query : Select} {statement : Statement}
    (built : query.statement = .ok statement) (star : query.outputs = ["*"]) :
    Operation.ofStatement? statement = some (.query (Query.reading [.star] query)) := by
  have drafted : (Draft.select query).statement = .ok statement := built
  exact Operation.ofStatement?_select drafted star

/-- Lookups ask for whole rows. -/
theorem Belonging.outputs_lookup (kind : Belonging) (id : Int64) :
    (kind.lookup id).outputs = ["*"] := rfl

/-- What a statement is for and of which table, is as its draft says. -/
theorem Sql.Draft.kind_and_table {draft : Draft} {statement : Statement}
    (built : draft.statement = .ok statement) :
    statement.kind = draft.kind ∧ statement.table = draft.table := by
  obtain ⟨_, _, rfl⟩ := Draft.statement_eq_ok_iff.mp built
  exact ⟨rfl, rfl⟩

/-- The order of a query can be read from its statement. -/
theorem Select.order_unique {query other : Select} {statement : Statement}
    (built : query.statement = .ok statement) (star : query.outputs = ["*"])
    (built' : other.statement = .ok statement) (star' : other.outputs = ["*"]) :
    query.order = other.order := by
  have reads := Select.reading_of_statement built star
  rw [Select.reading_of_statement built' star'] at reads
  injection reads with operation
  injection operation with same
  exact (congrArg Query.order same).symm

/-- The table of a query can be read from its statement. -/
theorem Select.table_unique {query other : Select} {statement : Statement}
    (built : query.statement = .ok statement) (built' : other.statement = .ok statement) :
    query.table = other.table := by
  have drafted : (Draft.select query).statement = .ok statement := built
  have drafted' : (Draft.select other).statement = .ok statement := built'
  exact (Sql.Draft.kind_and_table drafted).2.symm.trans (Sql.Draft.kind_and_table drafted').2

/-- A mutation is no query. -/
theorem Sql.Draft.ne_select {draft : Draft} {query : Select} {statement : Statement}
    (built : draft.statement = .ok statement) (mutates : draft.kind = .mutation) :
    query.statement ≠ .ok statement := by
  intro built'
  have drafted : (Draft.select query).statement = .ok statement := built'
  have queries := (Sql.Draft.kind_and_table drafted).1
  rw [(Sql.Draft.kind_and_table built).1, mutates] at queries
  cases queries

/-- Lookups of different kinds are different statements. -/
theorem Belonging.eq_of_lookup {kind other : Belonging}
    {id id' : Int64} {statement : Statement} (built : (kind.lookup id).statement = .ok statement)
    (built' : (other.lookup id').statement = .ok statement) : kind = other :=
  table_injective (Select.table_unique built built')

/-- A mutation refuses nothing. -/
theorem not_refuses_of_mutation {kind : Belonging} {owner : Int64} {draft : Draft}
    {statement : Statement} {answer : Except Error Outcome}
    (built : draft.statement = .ok statement) (mutates : draft.kind = .mutation) :
    ¬ Refuses kind owner ⟨.store (.execute statement), answer⟩ := by
  rintro ⟨id, looked, outcome, found, built', same, _⟩
  cases same
  exact Sql.Draft.ne_select built mutates built'

/-- A query with an order is no lookup. -/
theorem not_refuses_of_order {kind : Belonging} {owner : Int64} {query : Select}
    {statement : Statement} {answer : Except Error Outcome}
    (built : query.statement = .ok statement) (star : query.outputs = ["*"])
    (ordered : query.order ≠ none) :
    ¬ Refuses kind owner ⟨.store (.execute statement), answer⟩ := by
  rintro ⟨id, looked, outcome, found, built', same, _⟩
  cases same
  exact ordered (Select.order_unique built star built' (kind.outputs_lookup id))

/-- A failed statement refuses nothing. -/
theorem not_refuses_of_error {kind : Belonging} {owner : Int64}
    {statement : Statement} {error : Error} :
    ¬ Refuses kind owner ⟨.store (.execute statement), .error error⟩ := by
  rintro ⟨id, looked, outcome, found, _, same, _⟩
  cases same

/-! ### What grows with a conversation -/

namespace Conversation

variable {said later : Conversation}

/-- One conversation is another with one more exchange. -/
def Next (said later : Conversation) : Prop :=
  ∃ exchange, later = said ++ [exchange]

/-- Nothing of a conversation is lost. -/
theorem Next.subset (next : said.Next later) : said ⊆ later := by
  obtain ⟨exchange, rfl⟩ := next
  exact List.subset_append_left _ _

/-- There is one exchange more. -/
theorem Next.length (next : said.Next later) : later.length = said.length + 1 := by
  obtain ⟨exchange, rfl⟩ := next
  exact List.length_append

/-- What was got is got. -/
theorem Got.mono {query : Select} {outcome : Outcome} (got : said.Got query outcome)
    (grown : said ⊆ later) : later.Got query outcome := by
  obtain ⟨statement, built, member⟩ := got
  exact ⟨statement, built, grown member⟩

/-- What was seen is seen. -/
theorem Saw.mono {kind : Belonging} {id : Int64} {thing : kind.Thing}
    (saw : said.Saw kind id thing) (grown : said ⊆ later) : later.Saw kind id thing := by
  obtain ⟨outcome, got, first⟩ := saw
  exact ⟨outcome, got.mono grown, first⟩

/-- A thing that was found to be owned was. -/
theorem SawOwned.mono {kind : Belonging} {owner id : Int64} (saw : said.SawOwned kind owner id)
    (grown : said ⊆ later) : later.SawOwned kind owner id := by
  obtain ⟨thing, seen, owned⟩ := saw
  exact ⟨thing, seen.mono grown, owned⟩

/-- The last exchange was got. -/
theorem got_append {query : Select} {statement : Statement} {outcome : Outcome}
    (built : query.statement = .ok statement) :
    (said ++ [⟨.store (.execute statement), .ok outcome⟩] : Conversation).Got query outcome :=
  ⟨statement, built, List.mem_append_right _ (List.mem_singleton_self _)⟩

/-- What was got was got before, or by the last exchange. -/
theorem Got.of_append {query : Select} {outcome : Outcome}
    {exchange : Program.Exchange Action Action.Answer}
    (got : Conversation.Got (said ++ [exchange]) query outcome) :
    said.Got query outcome ∨ ∃ statement, query.statement = .ok statement ∧
      exchange = ⟨.store (.execute statement), .ok outcome⟩ := by
  obtain ⟨statement, built, member⟩ := got
  rcases List.mem_append.mp member with before | last
  · exact .inl ⟨statement, built, before⟩
  · exact .inr ⟨statement, built, (List.mem_singleton.mp last).symm⟩

/-- A conversation stays open if nothing refuses the request. -/
theorem Open.append {owner : Int64} {exchange : Program.Exchange Action Action.Answer}
    (opened : said.Open owner) (plain : ∀ kind, ¬ Refuses kind owner exchange) :
    Conversation.Open owner (said ++ [exchange]) := by
  intro earlier member
  rcases List.mem_append.mp member with before | last
  · exact opened earlier before
  · rw [List.mem_singleton.mp last]
    exact plain

/-- Nothing has to be settled while a conversation is open. -/
theorem Open.settles {owner : Int64} (opened : said.Open owner) (endpoint : Endpoint)
    (status : Nat) : Settles endpoint owner said status := by
  rintro kind ⟨exchange, member, refuses⟩
  exact absurd refuses (opened exchange member kind)

end Conversation

/-- No error is answered as a success. -/
theorem Refusal.le_status_ofError (error : Error) : 400 ≤ (Refusal.ofError error).status := by
  unfold Refusal.ofError
  split
  · simp [status]
  · split <;> simp [status]

/-! ### Jobs -/

/-- A query whose outcome is read by `read` keeps to a bound if it may be asked and every
way in which it may end is in the bound. -/
theorem Attempts.query {α : Type} {may : Conversation → Action → Prop}
    {ends : Conversation → α → Prop} {fails : Conversation → Error → Prop} {said : Conversation}
    {query : Select} {read : Outcome → Except Error α}
    (allowed : ∀ action, action.Queries query → may said action)
    (ended : ∀ statement outcome value, query.statement = .ok statement →
      read outcome = .ok value →
      ends (said ++ [⟨.store (.execute statement), .ok outcome⟩]) value)
    (unbuilt : ∀ error, fails said error)
    (unanswered : ∀ statement error,
      fails (said ++ [⟨.store (.execute statement), .error error⟩]) error)
    (unread : ∀ statement outcome error, query.statement = .ok statement →
      read outcome = .error error →
      fails (said ++ [⟨.store (.execute statement), .ok outcome⟩]) error) :
    Attempts may ends fails said (do
      let statement ← Job.ofExcept query.statement
      let outcome ← Job.execute statement
      Job.ofExcept (read outcome)) := by
  refine Attempts.bind (Attempts.ofExcept ?_ fun error _ => unbuilt error)
  intro statement built
  refine Attempts.bind (Attempts.execute (allowed _ ⟨statement, built, rfl⟩) ?_
    (unanswered statement))
  intro outcome
  refine Attempts.ofExcept ?_ ?_
  · exact fun value readable => ended statement outcome value built readable
  · exact fun error unreadable => unread statement outcome error built unreadable

/-- One attempt to insert a row under the next id keeps to a bound if it may be made and
every way in which it may end is in the bound. -/
theorem Attempts.allocate {may : Conversation → Action → Prop}
    {ends : Conversation → Int64 → Prop} {fails : Conversation → Error → Prop} {table : Table}
    {values : Int64 → List Value} {said : Conversation}
    (allowed : ∀ action, action.Allocates table values → may said action)
    (ended : ∀ query outcomes id, table.nextIdQuery.statement = .ok query →
      table.readNextId outcomes.1 = .ok id →
      ends (said ++ [⟨.store (.executeSerialized table.lockKey query (table.insertNext values)),
        .ok outcomes⟩]) id)
    (unbuilt : ∀ error, fails said error)
    (failed : ∀ query answer error,
      fails (said ++ [⟨.store (.executeSerialized table.lockKey query (table.insertNext values)),
        answer⟩]) error) :
    Attempts may ends fails said (table.allocate values) := by
  refine Attempts.bind (Attempts.ofExcept ?_ fun error _ => unbuilt error)
  intro query built
  refine Attempts.bind (Attempts.executeSerialized (allowed _ ⟨query, built, rfl⟩) ?_ ?_)
  · intro outcomes
    refine Attempts.ofExcept ?_ ?_
    · exact fun id readable => ended query outcomes id built readable
    · exact fun error _ => failed query (.ok outcomes) error
  · exact fun error => failed query (.error error) error

/-- Inserting a row under the next id keeps to a bound that is kept up by every attempt. -/
theorem Attempts.insertWithNextId {may : Conversation → Action → Prop}
    {ends : Conversation → Int64 → Prop} {fails : Conversation → Error → Prop} {table : Table}
    {attempts : Nat} {values : Int64 → List Value} {said : Conversation}
    (stays : Conversation → Prop) (start : stays said)
    (allowed : ∀ said action, stays said → action.Allocates table values → may said action)
    (kept : ∀ said lock head tail answer, stays said →
      stays (said ++ [⟨.store (.executeSerialized lock head tail), answer⟩]))
    (ended : ∀ said id, stays said → ends said id)
    (failed : ∀ said error, stays said → fails said error) :
    Attempts may ends fails said (table.insertWithNextId attempts values) := by
  have within : ∀ total left said, stays said →
      Attempts may ends fails said (table.allocateWithin values total left) := by
    intro total left
    induction left with
    | zero =>
        intro said staying
        exact Attempts.throw (failed said _ staying)
    | succ left inductionHypothesis =>
        intro said staying
        have again : ∀ (said : Conversation) (error : Error), stays said →
            Attempts may ends fails said
              (if error.isUniqueViolation then table.allocateWithin values total left
                else MonadExcept.throw error) := by
          intro said error staying
          split
          · exact inductionHypothesis said staying
          · exact Attempts.throw (failed said error staying)
        refine Attempts.bind (Attempts.observe (Attempts.allocate
          (fun action => allowed said action staying) ?_ ?_ ?_))
        · intro query outcomes id _ _
          exact Attempts.pure (ended _ id (kept said _ query _ (.ok outcomes) staying))
        · exact fun error => again said error staying
        · exact fun query answer error => again _ error (kept said _ query _ answer staying)
  exact within _ _ said start

/-- A job that keeps to a bound keeps to it when its error refuses the request. -/
theorem Attempts.ofJob {α : Type} {may : Conversation → Action → Prop}
    {ends : Conversation → α → Prop} {fails : Conversation → Refusal → Prop}
    {said : Conversation} {job : Job α}
    (attempts : Attempts may ends (fun said error => fails said (Refusal.ofError error)) said
      job) : Attempts may ends fails said (Handling.ofJob job) := by
  refine Program.Meets.bind (Program.Meets.mono attempts (fun _ _ allowed => allowed) ?_)
  intro said result ended
  cases result with
  | ok value => exact .done ended
  | error error => exact .done ended

/-! ### Lookups -/

/-- The thing with an id, whoever owns it. -/
def Belonging.get (kind : Belonging) (id : Int64) : Job (Option kind.Thing) := do
  let query ← Job.ofExcept (kind.lookup id).statement
  let outcome ← Job.execute query
  Job.ofExcept (outcome.readFirst kind.read)

/-- The note with an id is got as any thing is. -/
theorem Notes.get_eq (id : Int64) : Notes.get id = Belonging.get .note id := by
  unfold Notes.get Belonging.get Belonging.lookup
  rfl

/-- The set with an id is got as any thing is. -/
theorem Sets.get_eq (id : Int64) : Sets.get id = Belonging.get .set id := by
  unfold Sets.get Belonging.get Belonging.lookup
  rfl

namespace Handling

/-- What a job finds, if it is the caller's; otherwise the request is refused. -/
def owned {α : Type} (job : Job (Option α)) (ownerOf : α → Int64) (owner : Int64)
    (refusal : Refusal) : Handling α := do
  match (← ofJob job).filter fun thing => ownerOf thing = owner with
  | some thing => return thing
  | none => throw refusal

/-- The caller's note is looked up as any thing is. -/
theorem ownedNote_eq (owner id : Int64) :
    ownedNote owner id =
      owned (Belonging.get .note id) Note.owner owner
        (.notFound (Missing.note id).message) := by
  rw [← Notes.get_eq, ownedNote, owned]
  refine congrArg (ofJob _ >>= ·) (funext fun found => ?_)
  generalize Option.filter _ found = kept
  cases kept <;> rfl

/-- The caller's set is looked up as any thing is. -/
theorem ownedSet_eq (owner id : Int64) :
    ownedSet owner id =
      owned (Belonging.get .set id) NoteSet.owner owner
        (.notFound (Missing.set id).message) := by
  rw [← Sets.get_eq, ownedSet, owned]
  refine congrArg (ofJob _ >>= ·) (funext fun found => ?_)
  generalize Option.filter _ found = kept
  cases kept <;> rfl

/-- The set that a note is to be filed in is looked up as any thing is. -/
theorem targetSet_eq (owner id : Int64) :
    targetSet owner id =
      owned (Belonging.get .set id) NoteSet.owner owner
        (.badRequest ("Unknown set " ++ toString id)) := by
  rw [← Sets.get_eq, targetSet, owned]
  refine congrArg (ofJob _ >>= ·) (funext fun found => ?_)
  generalize Option.filter _ found = kept
  cases kept <;> rfl

/-- Reading a body asks nothing, and a body that cannot be read is no success. -/
theorem body_run {α : Type} (read : Json.Scan → Except Json.Fault α) (request : HttpRequest) :
    ∃ result, (body read request).run = .done result ∧
      ∀ refusal, result = .error refusal → 400 ≤ refusal.status := by
  have rejected (status : Nat) (failing : 400 ≤ status) :
      ∃ result : Except Refusal α,
        (Program.done (.error (.rejected status)) : Work (Except Refusal α)) = .done result ∧
        ∀ refusal, result = .error refusal → 400 ≤ refusal.status := by
    refine ⟨_, rfl, ?_⟩
    rintro refusal same
    cases same
    exact failing
  unfold body
  dsimp only
  split
  · split
    · refine ⟨_, rfl, ?_⟩
      rintro refusal same
      cases same
    · exact rejected 400 (by decide)
    · exact rejected 422 (by decide)
  · exact rejected 415 (by decide)

end Handling

end Notebook
