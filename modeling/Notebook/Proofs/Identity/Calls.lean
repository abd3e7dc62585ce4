import Notebook.Proofs.Ownership.Lookup

/-!
# Calls of the repository of users

What a call may ask the store and the cache, step by step. A user that was read is kept at once
and with the epoch that was taken before, a user that was inserted is kept at once, and an edit
ends with an invalidation (`Users.Call.attempts_job`).
-/

namespace Notebook

namespace Users

/-- The query for the first user that meets a condition. -/
def queryBy (condition : Predicate) : Select :=
  { table := .users, outputs := ["*"], condition := some condition, limit := 1 }

/-- The query for the user with a subject. -/
def subjectQuery (subject : String) : Select :=
  { table := .users, outputs := ["*"], condition := some (.eq "gid" (.text subject)), limit := 1 }

/-- A call of the repository. -/
inductive Call where
  | resolve (id : Int64)
  | createOrGet (identity : NewUser)
  | edit (id : Int64) (changes : UserChanges)

namespace Call

/-- What a call gives. -/
@[reducible]
def Result : Call → Type
  | .resolve _ => Option User
  | .createOrGet _ => User
  | .edit .. => Unit

/-- The work on a call. -/
def job (limits : Limits) : (call : Call) → Job call.Result
  | .resolve id => Users.resolve id
  | .createOrGet identity => Users.createOrGet limits identity
  | .edit id changes => Users.edit id changes

/-- The condition by which a call reads users. -/
def reads? : Call → Option Predicate
  | .resolve id => some (.eq "id" (.int id))
  | .createOrGet identity => some (.eq "gid" (.text identity.gid))
  | .edit .. => none

end Call

end Users

/-! ### What was said -/

namespace Conversation

/-- The cache had a user with this subject. -/
def Hit (said : Conversation) (subject : String) (user : User) : Prop :=
  (⟨.cache (.useGid subject), some user⟩ : Program.Exchange Action Action.Answer) ∈ said

/-- The first row that a query read is this user. -/
def Read (said : Conversation) (query : Select) (user : User) : Prop :=
  ∃ outcome, said.Got query outcome ∧ outcome.readFirst User.ofRow = .ok (some user)

/-- The first row with this subject is this user. -/
def SawUser (said : Conversation) (subject : String) (user : User) : Prop :=
  ∃ outcome, said.Got (Users.subjectQuery subject) outcome ∧
    outcome.readFirst User.ofRow = .ok (some user)

/-- A row of this identity was inserted under this id. -/
def Enrolled (said : Conversation) (identity : NewUser) (id : Int64) : Prop :=
  ∃ query outcomes, Table.users.nextIdQuery.statement = .ok query ∧
    Table.users.readNextId outcomes.1 = .ok id ∧
    (⟨.store (.executeSerialized Table.users.lockKey query
      (Table.users.insertNext fun id => (identity.withId id).values)), .ok outcomes⟩ :
        Program.Exchange Action Action.Answer) ∈ said

/-- The user was found or made for this identity. -/
def Resolves (said : Conversation) (identity : NewUser) (user : User) : Prop :=
  said.Hit identity.gid user ∨ said.SawUser identity.gid user ∨
    ∃ id, said.Enrolled identity id ∧ user = identity.withId id

/-- The user with this id was found in the cache or read. -/
def Found (said : Conversation) (id : Int64) (user : User) : Prop :=
  (⟨.cache (.useId id), some user⟩ : Program.Exchange Action Action.Answer) ∈ said ∨
    said.Read (Users.queryBy (.eq "id" (.int id))) user

/-- The epoch was taken, and then at last this user was read. -/
def JustRead (said : Conversation) (query : Select) (epoch : UInt64) (user : User) : Prop :=
  ∃ front statement outcome, query.statement = .ok statement ∧
    outcome.readFirst User.ofRow = .ok (some user) ∧
    said = front ++ [⟨.cache .epoch, epoch⟩] ++ [⟨.store (.execute statement), .ok outcome⟩]

/-- At last a row of this identity was inserted under this id. -/
def JustEnrolled (said : Conversation) (identity : NewUser) (id : Int64) : Prop :=
  ∃ front query outcomes, Table.users.nextIdQuery.statement = .ok query ∧
    Table.users.readNextId outcomes.1 = .ok id ∧
    said = front ++ [⟨.store (.executeSerialized Table.users.lockKey query
      (Table.users.insertNext fun id => (identity.withId id).values)), .ok outcomes⟩]

/-- At last the user with this id was invalidated. -/
def JustInvalidated (said : Conversation) (id : Int64) : Prop :=
  ∃ front, said = front ++ [⟨.cache (.invalidate id), ()⟩]

variable {said later : Conversation}

/-- A user that was read is read. -/
theorem Read.mono {query : Select} {user : User} (read : said.Read query user)
    (grown : said ⊆ later) : later.Read query user := by
  obtain ⟨outcome, got, first⟩ := read
  exact ⟨outcome, got.mono grown, first⟩

/-- What was read at last was read. -/
theorem JustRead.read {query : Select} {epoch : UInt64} {user : User}
    (read : said.JustRead query epoch user) : said.Read query user := by
  obtain ⟨front, statement, outcome, built, readable, rfl⟩ := read
  exact ⟨outcome, got_append built, readable⟩

/-- The epoch that goes with a user was taken. -/
theorem JustRead.epoch_mem {query : Select} {epoch : UInt64} {user : User}
    (read : said.JustRead query epoch user) :
    (⟨.cache .epoch, epoch⟩ : Program.Exchange Action Action.Answer) ∈ said := by
  obtain ⟨front, statement, outcome, _, _, rfl⟩ := read
  exact List.mem_append_left _ (List.mem_append_right _ (List.mem_singleton_self _))

/-- A row that was inserted at last was inserted. -/
theorem JustEnrolled.enrolled {identity : NewUser} {id : Int64}
    (enrolled : said.JustEnrolled identity id) : said.Enrolled identity id := by
  obtain ⟨front, query, outcomes, built, readable, rfl⟩ := enrolled
  exact ⟨query, outcomes, built, readable,
    List.mem_append_right _ (List.mem_singleton_self _)⟩

/-- What was inserted stays so. -/
theorem Enrolled.mono {identity : NewUser} {id : Int64} (enrolled : said.Enrolled identity id)
    (grown : said ⊆ later) : later.Enrolled identity id := by
  obtain ⟨query, outcomes, built, readable, member⟩ := enrolled
  exact ⟨query, outcomes, built, readable, grown member⟩

end Conversation

/-! ### What is asked -/

namespace Users

/-- What a call may ask, after what was said. -/
inductive Asks : Call → Conversation → Action → Prop
  | useId (id : Int64) (said : Conversation) : Asks (.resolve id) said (.cache (.useId id))
  | useGid (identity : NewUser) (said : Conversation) :
      Asks (.createOrGet identity) said (.cache (.useGid identity.gid))
  | epoch {call : Call} (said : Conversation) : Asks call said (.cache .epoch)
  | look {call : Call} {condition : Predicate} {said : Conversation} {action : Action}
      (reads : call.reads? = some condition) (queries : action.Queries (queryBy condition)) :
      Asks call said action
  | keep {call : Call} {condition : Predicate} {said : Conversation} {epoch : UInt64}
      {user : User} (reads : call.reads? = some condition)
      (read : said.JustRead (queryBy condition) epoch user) :
      Asks call said (.cache (.insertIfCurrent user epoch))
  | enroll {identity : NewUser} {said : Conversation} {action : Action}
      (allocates : action.Allocates .users fun id => (identity.withId id).values) :
      Asks (.createOrGet identity) said action
  | insert {identity : NewUser} {said : Conversation} {id : Int64}
      (enrolled : said.JustEnrolled identity id) :
      Asks (.createOrGet identity) said (.cache (.insert (identity.withId id)))
  | update {id : Int64} {changes : UserChanges} {said : Conversation} {action : Action}
      (updates : action.Updates .users id changes.assignments) :
      Asks (.edit id changes) said action
  | invalidate (id : Int64) (changes : UserChanges) (said : Conversation) :
      Asks (.edit id changes) said (.cache (.invalidate id))

namespace Call

/-- How a call may succeed, after what was said. -/
def Gives : (call : Call) → Conversation → call.Result → Prop
  | .resolve id, said, found => ∀ user ∈ found, said.Found id user
  | .createOrGet identity, said, user => said.Resolves identity user
  | .edit id _, said, _ => said.JustInvalidated id

/-- How a call may fail, after what was said. -/
def Fails : Call → Conversation → Prop
  | .edit id _, said => said.JustInvalidated id
  | _, _ => True

end Call

/-- Reading a user keeps to what a call may ask, and gives a user that was read. -/
theorem attempts_load {call : Call} {condition : Predicate} {said : Conversation}
    (reads : call.reads? = some condition) {ends : Conversation → Option User → Prop}
    (ended : ∀ later found, (∀ user ∈ found, later.Read (queryBy condition) user) →
      ends later found) :
    Attempts (Asks call) ends (fun _ (_ : Error) => True) said (load condition) := by
  refine Attempts.bind (Attempts.cache (.epoch said) fun epoch => ?_)
  refine Attempts.bind (Attempts.query (fun action queries => .look reads queries) ?_
    (fun _ => trivial) (fun _ _ => trivial) fun _ _ _ _ _ => trivial)
  intro statement outcome found built readable
  cases found with
  | none => exact Attempts.pure (ended _ none fun user present => nomatch present)
  | some user =>
      have read : Conversation.JustRead (said ++ [⟨.cache .epoch, epoch⟩] ++
          [⟨.store (.execute statement), .ok outcome⟩]) (queryBy condition) epoch user :=
        ⟨said, statement, outcome, built, readable, rfl⟩
      refine Attempts.bind (Attempts.cache (.keep reads read) fun _ => ?_)
      refine Attempts.pure (ended _ (some user) fun other present => ?_)
      cases present
      exact read.read.mono (List.subset_append_left _ _)

section Creation

variable {identity : NewUser} {said : Conversation}

/-- Falling back on something else where no user with the subject is read keeps to what may be
asked, if that does. -/
theorem attempts_loadSubject_bind {next : Option User → Job User}
    (present : ∀ user, next (some user) = pure user)
    (absent : ∀ said, Attempts (Asks (.createOrGet identity))
      (fun said user => said.Resolves identity user) (fun _ (_ : Error) => True) said (next none)) :
    Attempts (Asks (.createOrGet identity)) (fun said user => said.Resolves identity user)
      (fun _ (_ : Error) => True) said (loadSubject identity.gid >>= next) := by
  refine Attempts.bind (attempts_load rfl fun later found read => ?_)
  cases found with
  | some user =>
      rw [present user]
      exact Attempts.pure (.inr (.inl (read user rfl)))
  | none => exact absent later

/-- Recovering from an error keeps to what may be asked, if the work after a violated
constraint does. -/
theorem attempts_recover {next : Option User → Job User}
    (present : ∀ user, next (some user) = pure user)
    (absent : ∀ said, Attempts (Asks (.createOrGet identity))
      (fun said user => said.Resolves identity user) (fun _ (_ : Error) => True) said (next none))
    (error : Error) :
    Attempts (Asks (.createOrGet identity)) (fun said user => said.Resolves identity user)
      (fun _ (_ : Error) => True) said (if error.isUniqueViolation then
        loadSubject identity.gid >>= next else throw error) := by
  split
  · exact attempts_loadSubject_bind present absent
  · exact Attempts.throw trivial

/-- Creating a user keeps to what may be asked, and gives a user of the identity. -/
theorem attempts_createWithin (total left : Nat) :
    Attempts (Asks (.createOrGet identity)) (fun said user => said.Resolves identity user)
      (fun _ (_ : Error) => True) said (createWithin identity total left) := by
  induction left generalizing said with
  | zero => exact Attempts.throw trivial
  | succ left inductionHypothesis =>
      refine Attempts.bind (Attempts.observe (Attempts.allocate
        (fun action allocates => .enroll allocates) ?_ ?_ ?_))
      · intro query outcomes id built readable
        have enrolled : Conversation.JustEnrolled (said ++ [⟨.store (.executeSerialized
            Table.users.lockKey query
            (Table.users.insertNext fun id => (identity.withId id).values)), .ok outcomes⟩])
            identity id := ⟨said, query, outcomes, built, readable, rfl⟩
        refine Attempts.bind (Attempts.cache (Asks.insert enrolled) fun _ => ?_)
        exact Attempts.pure (.inr (.inr ⟨id,
          enrolled.enrolled.mono (List.subset_append_left _ _), rfl⟩))
      -- A lost race is settled by reading the winner, and everything else is the last word.
      · exact attempts_recover (fun _ => rfl) fun _ => inductionHypothesis
      · exact fun _ _ => attempts_recover (fun _ => rfl) fun _ => inductionHypothesis

/-- Signing up or in keeps to what may be asked, and gives a user of the identity. -/
theorem attempts_createOrGet (limits : Limits) :
    Attempts (Asks (.createOrGet identity)) (fun said user => said.Resolves identity user)
      (fun _ (_ : Error) => True) [] (createOrGet limits identity) := by
  refine Attempts.bind (Attempts.cache (.useGid identity []) fun cached => ?_)
  cases cached with
  | some user => exact Attempts.pure (.inl (List.mem_append_right _ (List.mem_singleton_self _)))
  | none => exact attempts_loadSubject_bind (fun _ => rfl) fun _ => attempts_createWithin _ _

end Creation

/-- Resolving an id keeps to what may be asked, and gives a user that was found. -/
theorem attempts_resolve (id : Int64) :
    Attempts (Asks (.resolve id)) (fun said found => ∀ user ∈ found, said.Found id user)
      (fun _ (_ : Error) => True) [] (resolve id) := by
  refine Attempts.bind (Attempts.cache (.useId id []) fun cached => ?_)
  cases cached with
  | some user =>
      refine Attempts.pure fun other present => ?_
      cases present
      exact .inl (List.mem_append_right _ (List.mem_singleton_self _))
  | none => exact attempts_load rfl fun later found read user present => .inr (read user present)

/-- An edit keeps to what may be asked, and ends with an invalidation. -/
theorem attempts_edit (id : Int64) (changes : UserChanges) :
    Attempts (Asks (.edit id changes)) (fun said _ => said.JustInvalidated id)
      (fun said (_ : Error) => said.JustInvalidated id) [] (edit id changes) := by
  have finish (said : Conversation) (result : Except Error Outcome) :
      Attempts (Asks (.edit id changes)) (fun said _ => said.JustInvalidated id)
        (fun said (_ : Error) => said.JustInvalidated id) said (do
          Job.cache (.invalidate id)
          let outcome ← Job.ofExcept result
          if outcome.count = 0 then
            throw (.notFound (.user id))) := by
    refine Attempts.bind (Attempts.cache (Asks.invalidate id changes said) fun _ => ?_)
    refine Attempts.bind (Attempts.ofExcept (fun outcome _ => ?_) fun _ _ => ⟨said, rfl⟩)
    split
    · exact Attempts.throw ⟨said, rfl⟩
    · exact Attempts.pure ⟨said, rfl⟩
  refine Attempts.bind (Attempts.observe (Attempts.bind (Attempts.ofExcept ?_ ?_)))
  · intro statement built
    exact Attempts.execute (.update ⟨statement, built, rfl⟩) (fun outcome => finish _ (.ok outcome))
      fun error => finish _ (.error error)
  · exact fun error _ => finish [] (.error error)

/-- A call keeps to what it may ask, and ends as it may. -/
theorem Call.attempts_job (limits : Limits) (call : Call) :
    Attempts (Asks call) call.Gives (fun said (_ : Error) => call.Fails said) []
      (call.job limits) := by
  cases call with
  | resolve id => exact attempts_resolve id
  | createOrGet identity => exact attempts_createOrGet limits
  | edit id changes => exact attempts_edit id changes

end Users

end Notebook
