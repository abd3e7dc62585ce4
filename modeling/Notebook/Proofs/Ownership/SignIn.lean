import Notebook.Proofs.Identity.Calls
import Notebook.Proofs.Identity.Recency
import Notebook.Proofs.Ownership.Filing
import Notebook.Proofs.Ownership.Lookup

/-!
# Signing in

What is asked to sign a caller in, and why the user that comes of it is the one with the
subject of the request: a user is taken from the cache, which knows only users that are
stored, or read by the subject, or newly stored with it. Nothing is asked here that could
change a user, so what was answered stays true.
-/

namespace Notebook

open Notebook.Sql

/-! ### The cache -/

namespace IdentityCache

/-- The cache knows only users that are stored. -/
structure Coherent (cache : IdentityCache) (database : Database) : Prop where
  byId : ∀ entry ∈ cache.byId.entries,
    entry.2.id = entry.1 ∧ database.IsAccount entry.1 entry.2.gid
  byGid : ∀ entry ∈ cache.byGid.entries, database.IsAccount entry.2 entry.1

variable {cache : IdentityCache} {database : Database}

/-- An empty cache knows nothing wrong. -/
theorem coherent_empty (capacity : UInt64) (database : Database) :
    (empty capacity).Coherent database where
  byId := fun _ member => nomatch member
  byGid := fun _ member => nomatch member

/-- As long as accounts stay, the cache knows only users that are stored. -/
theorem Coherent.mono {later : Database} (coherent : cache.Coherent database)
    (kept : ∀ id subject, database.IsAccount id subject → later.IsAccount id subject) :
    cache.Coherent later where
  byId := fun entry member =>
    ⟨(coherent.byId entry member).1, kept _ _ (coherent.byId entry member).2⟩
  byGid := fun entry member => kept _ _ (coherent.byGid entry member)

/-- A user that is found by a subject is stored with it. -/
theorem Coherent.isAccount_of_useGid (coherent : cache.Coherent database) {subject : String}
    {user : User} (found : (cache.useGid subject).1 = some user) :
    database.IsAccount user.id subject := by
  unfold useGid at found
  split at found
  next id byGid used =>
    cases id with
    | none => cases found
    | some id =>
        have named : (cache.byGid.use subject).1 = some id := by rw [used]
        have known : (cache.byId.use id).1 = some user := found
        rw [Recency.use_fst, Recency.get?_eq_some_iff] at named known
        have account := coherent.byGid _ named
        have same := (coherent.byId _ known).1
        dsimp only at account same
        rwa [same]

/-- Finding a user keeps the cache coherent. -/
theorem Coherent.useGid (coherent : cache.Coherent database) (subject : String) :
    (cache.useGid subject).2.Coherent database := by
  unfold IdentityCache.useGid
  split
  next id byGid used =>
    have fewer {entry : String × Int64} (member : entry ∈ byGid.entries) :
        entry ∈ cache.byGid.entries := Recency.mem_use_iff.mp (by rwa [used])
    cases id with
    | none => exact ⟨coherent.byId, fun entry member => coherent.byGid entry (fewer member)⟩
    | some id =>
        refine ⟨fun entry member => ?_, fun entry member => coherent.byGid entry (fewer member)⟩
        exact coherent.byId entry (Recency.mem_use_iff.mp member)

/-- Keeping a user that is stored keeps the cache coherent. -/
theorem Coherent.insert (coherent : cache.Coherent database) {user : User}
    (account : database.IsAccount user.id user.gid) : (cache.insert user).Coherent database := by
  refine ⟨fun entry member => ?_, fun entry member => ?_⟩
  · rcases Recency.mem_push_iff.mp member with rfl | ⟨old, _⟩
    · exact ⟨rfl, account⟩
    · exact coherent.byId entry old
  · rcases Recency.mem_push_iff.mp member with rfl | ⟨old, _⟩
    · exact account
    · refine coherent.byGid entry ?_
      split at old
      · split at old
        · exact old
        · exact List.mem_of_mem_filter old
      · exact old

end IdentityCache

/-! ### What is asked -/

/-- What may be asked to sign somebody in, after what was said. -/
inductive SignsIn (identity : NewUser) (said : Conversation) : Action → Prop
  | useGid : SignsIn identity said (.cache (.useGid identity.gid))
  | epoch : SignsIn identity said (.cache .epoch)
  | look {action : Action} (queries : action.Queries (Users.subjectQuery identity.gid)) :
      SignsIn identity said action
  | keep {user : User} (saw : said.SawUser identity.gid user) (epoch : UInt64) :
      SignsIn identity said (.cache (.insertIfCurrent user epoch))
  | enroll {action : Action}
      (allocates : action.Allocates .users fun id => (identity.withId id).values) :
      SignsIn identity said action
  | insert {id : Int64} (enrolled : said.Enrolled identity id) :
      SignsIn identity said (.cache (.insert (identity.withId id)))

section SignIn

variable {identity : NewUser} {said : Conversation}

/-- Signing up or in asks what may be asked to sign somebody in. -/
theorem SignsIn.of_asks {action : Action}
    (asks : Users.Asks (.createOrGet identity) said action) : SignsIn identity said action := by
  cases asks with
  | useGid => exact .useGid
  | epoch => exact .epoch
  | look reads queries =>
      cases reads
      exact .look queries
  | keep reads read =>
      cases reads
      exact .keep read.read _
  | enroll allocates => exact .enroll allocates
  | insert enrolled => exact .insert enrolled.enrolled

/-- Looking for a caller keeps to what may be asked, and gives a user of the identity. -/
theorem attempts_caller? {request : HttpRequest} (limits : Limits)
    (named : request.identity? = some identity) :
    Attempts (SignsIn identity) (fun said found => ∀ user ∈ found, said.Resolves identity user)
      (fun _ (_ : Refusal) => True) [] (Handling.caller? limits request) := by
  unfold Handling.caller?
  rw [named]
  refine Attempts.map (Attempts.ofJob ?_)
  refine (Users.attempts_createOrGet limits).mono (fun _ _ => SignsIn.of_asks) ?_
    fun _ _ _ => trivial
  intro said user resolves found same
  cases same
  exact resolves

/-- Signing a caller in keeps to what may be asked, and gives a user of the identity. -/
theorem attempts_caller {request : HttpRequest} (limits : Limits)
    (named : request.identity? = some identity) :
    Attempts (SignsIn identity) (fun said user => said.Resolves identity user)
      (fun _ (_ : Refusal) => True) [] (Handling.caller limits request) := by
  refine Attempts.bind ((attempts_caller? limits named).mono (fun _ _ allowed => allowed) ?_
    fun _ _ _ => trivial)
  intro said found resolves
  cases found with
  | some user => exact Attempts.pure (resolves user rfl)
  | none => exact Attempts.throw trivial

/-- Without an identity nothing is asked. -/
theorem caller_run_of_none {request : HttpRequest} (limits : Limits)
    (unnamed : request.identity? = none) :
    (Handling.caller limits request).run = .done (.error .unauthenticated) := by
  unfold Handling.caller Handling.caller?
  rw [unnamed]
  rfl

end SignIn

/-! ### Why it is true -/

/-- Everybody that was found or made for an identity is stored with its subject. -/
structure Conversation.Vouches (said : Conversation) (identity : NewUser)
    (database : Database) : Prop where
  hit : ∀ user, said.Hit identity.gid user → database.IsAccount user.id identity.gid
  saw : ∀ user, said.SawUser identity.gid user →
    database.IsAccount user.id identity.gid ∧ user.gid = identity.gid
  enrolled : ∀ id, said.Enrolled identity id → database.IsAccount id identity.gid

namespace Conversation.Vouches

variable {said : Conversation} {identity : NewUser} {database later : Database}

/-- Nobody was found before anything was said. -/
theorem nil : Conversation.Vouches [] identity database where
  hit := fun _ member => nomatch member
  saw := fun _ ⟨_, ⟨_, _, member⟩, _⟩ => nomatch member
  enrolled := fun _ ⟨_, _, _, _, member⟩ => nomatch member

/-- The user of a resolved identity is stored with its subject. -/
theorem isAccount (vouches : said.Vouches identity database) {user : User}
    (resolves : said.Resolves identity user) : database.IsAccount user.id identity.gid := by
  rcases resolves with hit | saw | ⟨id, enrolled, rfl⟩
  · exact vouches.hit user hit
  · exact (vouches.saw user saw).1
  · exact vouches.enrolled id enrolled

/-- As long as accounts stay, whoever was found is stored. -/
theorem mono (vouches : said.Vouches identity database)
    (kept : ∀ id subject, database.IsAccount id subject → later.IsAccount id subject) :
    said.Vouches identity later where
  hit := fun user hit => kept _ _ (vouches.hit user hit)
  saw := fun user saw => ⟨kept _ _ (vouches.saw user saw).1, (vouches.saw user saw).2⟩
  enrolled := fun id enrolled => kept _ _ (vouches.enrolled id enrolled)

end Conversation.Vouches

/-- The subject that a user was read with is the one of its row. -/
theorem User.get?_of_ofRow {row : Row} {user : User} (readable : User.ofRow row = .ok user) :
    row.get? "id" = some (.int user.id) ∧ row.get? "gid" = some (.text user.gid) := by
  have has := User.ofRow_eq_ok_iff.mp readable
  simp only [Table.columns, User.values, List.zip_cons_cons, Row.has_cons_iff] at has
  exact ⟨has.1, has.2.2.2.1⟩

/-- A thing that is read first is read from a row that was returned. -/
theorem Outcome.mem_of_readFirst {α : Type} {read : Row → Except Error α} {outcome : Outcome}
    {thing : α} (first : outcome.readFirst read = .ok (some thing)) :
    ∃ row ∈ outcome.rows, read row = .ok thing := by
  unfold readFirst at first
  split at first
  next => cases first
  next row rest rows =>
    refine ⟨row, by rw [rows]; exact List.mem_cons_self, ?_⟩
    cases readable : read row with
    | ok found =>
        rw [readable] at first
        cases first
        rfl
    | error error =>
        rw [readable] at first
        cases first

/-- The user is stored as it is here. -/
def Database.HasUser (database : Database) (user : User) : Prop :=
  ∃ row ∈ database.rows .users, User.ofRow row = .ok user

/-- A user who is stored has an account. -/
theorem Database.HasUser.isAccount {database : Database} {user : User}
    (stored : database.HasUser user) : database.IsAccount user.id user.gid := by
  obtain ⟨row, member, readable⟩ := stored
  exact ⟨row, member, User.get?_of_ofRow readable⟩

section Answers

variable {collation : Collation} {before after : Database} {statement : Statement}

/-- A user that is read by a subject is stored with it. -/
theorem Request.Answered.isAccount_of_read {subject : String} {outcome : Outcome} {user : User}
    (built : (Users.subjectQuery subject).statement = .ok statement)
    (answered : (Request.execute statement).Answered collation before (.ok outcome) after)
    (first : outcome.readFirst User.ofRow = .ok (some user)) :
    before.IsAccount user.id subject ∧ user.gid = subject := by
  obtain ⟨row, member, readable⟩ := Outcome.mem_of_readFirst first
  obtain ⟨hasId, hasSubject⟩ := User.get?_of_ofRow readable
  obtain ⟨stored, selected⟩ := (answered.query built rfl).2 outcome rfl row member
  have chosen := selected _ rfl
  have same : user.gid = subject := by
    have equal : collation.truthAt row ⟨"gid", .eq, .text subject⟩ = .true := chosen
    rw [Sql.Comparing.truthAt, hasSubject] at equal
    exact (collation.text_eq_text _ _).mp equal
  exact ⟨⟨row, stored, hasId, same ▸ hasSubject⟩, same⟩

/-- A user that was created is stored. -/
theorem Request.Answered.hasUser_of_enrolled {identity : NewUser} {id : Int64}
    {outcomes : Outcome × Outcome} (built : Table.users.nextIdQuery.statement = .ok statement)
    (answered : (Request.executeSerialized Table.users.lockKey statement
      (Table.users.insertNext fun id => (identity.withId id).values)).Answered collation before
        (.ok outcomes) after)
    (readId : Table.users.readNextId outcomes.1 = .ok id) :
    after.HasUser (identity.withId id) := by
  rcases answered.allocate built with ⟨_, unanswered⟩ | ⟨next, same, answer, readNext, _, _, rfl⟩
  · exact absurd rfl (unanswered outcomes)
  · cases answer
    rw [readId] at readNext
    cases readNext
    refine ⟨Table.users.row (identity.withId id).values, ?_, rfl⟩
    rw [Database.rows_replace_self]
    exact List.mem_cons_self

end Answers

section Steps

variable {collation : Collation} {identity : NewUser} {said : Conversation}
  {world later : World Database} {action : Action} {answer : action.Answer}

/-- Whatever is answered, all that was said stays true as long as accounts stay. -/
theorem Conversation.Vouches.append (vouches : said.Vouches identity world.store)
    (coherent : world.cache.Coherent world.store)
    (answered : action.Answered collation world answer later)
    (kept : ∀ id subject, world.store.IsAccount id subject → later.store.IsAccount id subject) :
    Conversation.Vouches (said ++ [⟨action, answer⟩]) identity later.store where
  hit := by
    intro user hit
    rcases List.mem_append.mp hit with before | last
    · exact kept _ _ (vouches.hit user before)
    · cases List.mem_singleton.mp last
      generalize reply : some user = found at answered
      cases answered
      exact kept _ _ (coherent.isAccount_of_useGid reply.symm)
  saw := by
    rintro user ⟨outcome, got, first⟩
    rcases got.of_append with before | ⟨statement, built, last⟩
    · obtain ⟨account, same⟩ := vouches.saw user ⟨outcome, before, first⟩
      exact ⟨kept _ _ account, same⟩
    · cases last
      cases answered with
      | store answered =>
          obtain ⟨account, same⟩ := answered.isAccount_of_read built first
          exact ⟨kept _ _ account, same⟩
  enrolled := by
    rintro id ⟨query, outcomes, built, readId, member⟩
    rcases List.mem_append.mp member with before | last
    · exact kept _ _ (vouches.enrolled id ⟨query, outcomes, built, readId, before⟩)
    · cases List.mem_singleton.mp last
      cases answered with
      | store answered => exact (answered.hasUser_of_enrolled built readId).isAccount

/-- Signing in adds an account at most. -/
theorem SignsIn.change (owner : Int64) (may : SignsIn identity said action)
    (answered : action.Answered collation world answer later) :
    Change owner world.store false later.store := by
  cases may with
  | useGid => cases answered; exact .none
  | epoch => cases answered; exact .none
  | keep => cases answered; exact .none
  | insert => cases answered; exact .none
  | look queries =>
      obtain ⟨statement, built, rfl⟩ := queries
      cases answered with
      | store answered =>
          rw [(answered.query built rfl).1]
          exact .none
  | enroll allocates =>
      obtain ⟨query, built, rfl⟩ := allocates
      cases answered with
      | store answered =>
          rcases answered.allocate built with ⟨same, _⟩ | ⟨id, _, _, _, _, _, added⟩
          · rw [same]
            exact .none
          · rw [added]
            obtain ⟨hasId, hasSubject⟩ := User.get?_row (identity.withId id)
            exact .signUp hasId hasSubject

/-- Signing in touches nothing that is there. -/
theorem SignsIn.untouched (may : SignsIn identity said action) (table : Table) (row : Row) :
    ¬ action.Touches collation table row := by
  rintro ⟨request, statement, same, sends, touches⟩
  cases may with
  | useGid => cases same
  | epoch => cases same
  | keep => cases same
  | insert => cases same
  | look queries =>
      obtain ⟨asked, built, rfl⟩ := queries
      cases same
      cases sends
      exact Statement.not_touches_of_query built rfl touches
  | enroll allocates =>
      obtain ⟨query, built, rfl⟩ := allocates
      cases same
      exact Request.not_touches_of_allocate built sends touches

/-- Signing in keeps the cache coherent. -/
theorem SignsIn.coherent (may : SignsIn identity said action)
    (vouches : said.Vouches identity world.store)
    (coherent : world.cache.Coherent world.store)
    (answered : action.Answered collation world answer later) :
    later.cache.Coherent later.store := by
  have kept (id : Int64) (subject : String) (account : world.store.IsAccount id subject) :
      later.store.IsAccount id subject :=
    (may.change 0 answered).account_kept account
  cases may with
  | useGid => cases answered; exact coherent.useGid identity.gid
  | epoch => cases answered; exact coherent
  | @keep user saw epoch =>
      cases answered
      obtain ⟨account, same⟩ := vouches.saw user saw
      show (world.cache.insertIfCurrent user epoch).2.Coherent world.store
      unfold IdentityCache.insertIfCurrent
      split
      · exact coherent.insert (same ▸ account)
      · exact coherent
  | insert enrolled =>
      cases answered
      exact coherent.insert (vouches.enrolled _ enrolled)
  | look queries =>
      obtain ⟨statement, _, rfl⟩ := queries
      cases answered
      exact coherent.mono kept
  | enroll allocates =>
      obtain ⟨query, _, rfl⟩ := allocates
      cases answered
      exact coherent.mono kept

end Steps

end Notebook
