import Notebook.Proofs.Allocation.Attempts
import Notebook.Proofs.Identity.Calls
import Notebook.Proofs.Identity.Index
import Notebook.Proofs.Listing.Sent

/-!
# Logins

What comes of `Users.createOrGet` on any answers of the store. `Users.Creates` lists the ways
the attempts to create a user can go, one after the other, and `Users.Login` those of a whole
login, each with the statements that it sends, the answers to them and what comes of it. Every
login goes in one of these ways (`createOrGet_runs`), and all else is read off them.

Nobody else is at the cache meanwhile: a login that is disturbed keeps what it read only if the
epoch is still the same.
-/

namespace Notebook

/-! ### Undisturbed scripts -/

namespace Script

/-- On an undisturbed script a request leaves the cache alone. -/
theorem answering_of_undisturbed {world : World Script} (undisturbed : world.store.meanwhile = [])
    (request : Request) :
    answering request world = ((respond request world.store).1,
      { world with store := (respond request world.store).2 }) := by
  obtain ⟨⟨answers, sent, locks, batches, meanwhile⟩, cache, clock⟩ := world
  cases undisturbed
  rfl

/-- A script that was undisturbed still is. -/
theorem Plays.undisturbed {before after : Script} {locks : List String}
    {said : List (Statement × Except Error Outcome)} (plays : before.Plays locks said after)
    (undisturbed : before.meanwhile = []) : after.meanwhile = [] := by
  rw [plays.record]
  simp [undisturbed]

end Script

/-- On an undisturbed script an attempt goes in one of the ways in which it can, and leaves the
cache alone. -/
theorem Table.allocate_runs (table : Table) (values : Int64 → List Value) (world : World Script)
    (undisturbed : world.store.meanwhile = []) :
    ∃ (trial : table.Trial values) (script : Script),
      world.store.Plays [table.lockKey] trial.said script ∧
      World.run Script.answering (table.allocate values).run world =
        (trial.result, { world with store := script }) := by
  obtain ⟨query, asks⟩ := table.exists_nextIdQuery
  obtain ⟨trial, after, came, plays⟩ := table.exists_trial values world
  refine ⟨trial, after.store, plays, came.trans (Prod.ext rfl ?_)⟩
  rw [allocate_run asks] at came
  -- An attempt is this one request, and what is done with its answer asks nothing more.
  let request : Request := .executeSerialized table.lockKey query (table.insertNext values)
  have left : (Script.answering request world).2 = after := congrArg Prod.snd came
  rw [← left, Script.answering_of_undisturbed undisturbed]

/-! ### The cache -/

namespace IdentityCache

variable {cache : IdentityCache} {user : User} {gid : String}

/-- The cache with a user in it, if one was found. -/
def keep (cache : IdentityCache) : Option User → IdentityCache
  | some user => cache.insert user
  | none => cache

/-- A user that came of a job is kept, and a failed job leaves the cache as it was. -/
theorem keep_toOption (cache : IdentityCache) (result : Except Error User) :
    (∀ user, result = .ok user → (cache.keep result.toOption).Knows user) ∧
      ∀ error, result = .error error → cache.keep result.toOption = cache := by
  constructor
  · rintro user rfl
    exact cache.knows_insert user
  · rintro error rfl
    rfl

/-- A user that was just found by a subject is found. -/
theorem Indexed.knows_of_hit (indexed : cache.Indexed) (hit : (cache.useGid gid).1 = some user) :
    (cache.useGid gid).2.Knows user := by
  rw [useGid_fst] at hit
  obtain ⟨id, named, stored⟩ := Option.bind_eq_some_iff.mp hit
  rw [Recency.get?_eq_some_iff] at named stored
  obtain ⟨other, stored', subject⟩ := indexed.subjects _ named
  have same : user = other := congrArg Prod.snd (Recency.eq_of_mem stored stored' rfl)
  have key : user.id = id := indexed.ids _ stored
  have alike := cache.alike_useGid gid
  refine knows_of_mem ((alike.byId _).mpr ?_) ((alike.byGid _).mpr ?_)
  · rwa [key]
  · rwa [key, same, subject]

/-- Where a subject stands for nobody, looking for it changes nothing. -/
theorem Indexed.useGid_of_miss (indexed : cache.Indexed) (miss : (cache.useGid gid).1 = none) :
    (cache.useGid gid).2 = cache := by
  rw [useGid_fst] at miss
  have absent : cache.byGid.get? gid = none := by
    cases named : cache.byGid.get? gid with
    | none => rfl
    | some id =>
        obtain ⟨user, stored, _⟩ := indexed.subjects _ (Recency.get?_eq_some_iff.mp named)
        rw [named, Option.bind_some, Recency.get?_eq_some_iff.mpr stored] at miss
        cases miss
  unfold useGid
  rw [Recency.use_of_absent absent]

end IdentityCache

/-! ### Reading -/

namespace Users

/-- The user in an answer of the store, if there is one. -/
def found (answer : Except Error Outcome) : Except Error (Option User) :=
  answer >>= fun outcome => outcome.readFirst User.ofRow

variable {identity : NewUser} {query : Statement}

/-- On an undisturbed script, reading the user with a subject sends one statement, and whoever is
found is kept. -/
theorem loadSubject_runs {gid : String} (built : (subjectQuery gid).statement = .ok query)
    (world : World Script) (undisturbed : world.store.meanwhile = []) :
    ∃ (answer : Except Error Outcome) (script : Script),
      world.store.Plays [] [(query, answer)] script ∧
      World.run Script.answering (loadSubject gid).run world =
        (found answer, { world with
          store := script
          cache := world.cache.keep (found answer).toOption.join }) := by
  refine ⟨_, _, world.store.plays_take query, ?_⟩
  have read : (find (.eq "gid" (.text gid))).run =
      .ask (.store (.execute query)) fun answer => .done (found answer) :=
    Job.read_run built fun outcome => outcome.readFirst User.ofRow
  have reads : World.run Script.answering (find (.eq "gid" (.text gid))).run world =
      (found (world.store.take query).1, { world with store := (world.store.take query).2 }) := by
    rw [read]
    change (found (Script.answering (.execute query) world).1,
      (Script.answering (.execute query) world).2) = _
    rw [Script.answering_of_undisturbed undisturbed]
    rfl
  rw [loadSubject, load, World.run_cache_bind]
  cases came : found (world.store.take query).1 with
  | error error =>
      rw [came] at reads
      exact World.run_bind_of_error reads _
  | ok user =>
      rw [came] at reads
      refine (World.run_bind_of_ok reads _).trans ?_
      cases user with
      | none => rfl
      | some user =>
          have current : world.cache.insertIfCurrent user world.cache.epoch =
              (true, world.cache.insert user) := if_pos rfl
          change (_, { world with
            store := _, cache := (world.cache.insertIfCurrent user world.cache.epoch).2 }) = _
          rw [current]
          rfl

/-! ### Creating -/

/-- An attempt to create the user of an identity. -/
abbrev Trial (identity : NewUser) : Type :=
  Table.users.Trial fun id => (identity.withId id).values

/-- An attempt that was lost: it collided, and when the subject was looked up again, it was still
nobody's. -/
structure Loss (identity : NewUser) where
  trial : Trial identity
  reread : Except Error Outcome
  collided : trial.Collided
  nobody : found reread = .ok none

/-- What a lost attempt says. -/
def Loss.said (query : Statement) (loss : Loss identity) :
    List (Statement × Except Error Outcome) :=
  loss.trial.said ++ [(query, loss.reread)]

/-- How an attempt can go that is not lost, and what comes of it. -/
inductive Settles (identity : NewUser) (query : Statement) :
    List (Statement × Except Error Outcome) → Except Error User → Prop
  | created {trial : Trial identity} {id : Int64} (succeeded : trial.result = .ok id) :
      Settles identity query trial.said (.ok (identity.withId id))
  /-- It fails, and not for a violated unique constraint. -/
  | broken {trial : Trial identity} {error : Error} (failed : trial.result = .error error)
      (apart : ¬ trial.Collided) : Settles identity query trial.said (.error error)
  /-- It collided, and then the subject is somebody's. -/
  | overtaken {trial : Trial identity} {reread : Except Error Outcome} {user : User}
      (collided : trial.Collided) (somebody : found reread = .ok (some user)) :
      Settles identity query (trial.said ++ [(query, reread)]) (.ok user)
  /-- It collided, and then the subject cannot be looked up. -/
  | unread {trial : Trial identity} {reread : Except Error Outcome} {error : Error}
      (collided : trial.Collided) (failed : found reread = .error error) :
      Settles identity query (trial.said ++ [(query, reread)]) (.error error)

/-- So many attempts are made, one after each that was lost, as long as some are left. -/
inductive Creates (identity : NewUser) (query : Statement) (total : Nat) :
    (left tries : Nat) → List (Loss identity) → List (Statement × Except Error Outcome) →
      Except Error User → Prop
  | exhausted : Creates identity query total 0 0 [] [] (.error (.conflict (.userIds total)))
  | settled {left : Nat} {said : List (Statement × Except Error Outcome)}
      {result : Except Error User} (last : Settles identity query said result) :
      Creates identity query total (left + 1) 1 [] said result
  | again {left tries : Nat} {losses : List (Loss identity)}
      {said : List (Statement × Except Error Outcome)} {result : Except Error User}
      (loss : Loss identity)
      (goesOn : Creates identity query total left tries losses said result) :
      Creates identity query total (left + 1) (tries + 1) (loss :: losses)
        (loss.said query ++ said) result

/-- On an undisturbed script the attempts go in one of the ways in which they can, with one lock
for each, and the user that comes of them is kept. -/
theorem createWithin_runs (identity : NewUser)
    (built : (subjectQuery identity.gid).statement = .ok query) (total left : Nat)
    (world : World Script) (undisturbed : world.store.meanwhile = []) :
    ∃ (tries : Nat) (losses : List (Loss identity))
      (said : List (Statement × Except Error Outcome)) (result : Except Error User)
      (script : Script),
      Creates identity query total left tries losses said result ∧
      world.store.Plays (List.replicate tries Table.users.lockKey) said script ∧
      World.run Script.answering (createWithin identity total left).run world =
        (result, { world with store := script, cache := world.cache.keep result.toOption }) := by
  induction left generalizing world with
  | zero => exact ⟨0, [], [], _, _, .exhausted, .nil world.store, rfl⟩
  | succ left inductionHypothesis =>
      obtain ⟨trial, script, plays, runs⟩ := Table.users.allocate_runs
        (fun id => (identity.withId id).values) world undisturbed
      have still := plays.undisturbed undisturbed
      rw [createWithin, World.run_observe_bind runs]
      cases came : trial.result with
      | ok id => exact ⟨1, [], _, _, _, .settled (.created came), plays, rfl⟩
      | error error =>
          dsimp only
          by_cases violates : error.isUniqueViolation = true
          · have collided : trial.Collided := (Table.Trial.collided_iff came).mpr violates
            rw [if_pos violates]
            obtain ⟨reread, script', plays', reads⟩ :=
              loadSubject_runs built { world with store := script } still
            have both := plays.trans plays'
            cases seen : found reread with
            | error error =>
                rw [seen] at reads
                rw [World.run_bind_of_error reads]
                exact ⟨1, [], _, _, _, .settled (.unread collided seen), both, rfl⟩
            | ok user =>
                rw [seen] at reads
                rw [World.run_bind_of_ok reads]
                cases user with
                | some user =>
                    exact ⟨1, [], _, _, _, .settled (.overtaken collided seen), both, rfl⟩
                | none =>
                    -- The attempt is lost; what is left of the script answers the others.
                    obtain ⟨tries, losses, said, result, last, creates, later, goesOn⟩ :=
                      inductionHypothesis { world with store := script' }
                        (both.undisturbed undisturbed)
                    exact ⟨_, _, _, _, _, .again ⟨trial, reread, collided, seen⟩ creates,
                      both.trans later, goesOn⟩
          · have apart : ¬ trial.Collided := fun collided =>
              violates ((Table.Trial.collided_iff came).mp collided)
            rw [if_neg violates]
            exact ⟨1, [], _, _, _, .settled (.broken came apart), plays, rfl⟩

/-- An attempt says two things at most. -/
theorem length_said_le (trial : Trial identity) : trial.said.length ≤ 2 := by
  obtain ⟨said, result, attempt⟩ := trial
  cases attempt <;> simp

/-- Lost attempts say three things each at most. -/
theorem length_losses_le (query : Statement) (losses : List (Loss identity)) :
    (losses.flatMap (Loss.said query)).length ≤ 3 * losses.length := by
  induction losses with
  | nil => exact Nat.le_refl 0
  | cons loss rest inductionHypothesis =>
      have once := length_said_le loss.trial
      simp only [List.flatMap_cons, List.length_append, List.length_cons, Loss.said,
        List.length_nil]
      omega

/-- Either all attempts were lost and there is a conflict, or one was not, which was the last. -/
theorem Creates.split {total left tries : Nat} {losses : List (Loss identity)}
    {said : List (Statement × Except Error Outcome)} {result : Except Error User}
    (creates : Creates identity query total left tries losses said result) :
    losses.length = left ∧ tries = left ∧ said = losses.flatMap (Loss.said query) ∧
        result = .error (.conflict (.userIds total)) ∨
      losses.length < left ∧ tries = losses.length + 1 ∧
        ∃ last, said = losses.flatMap (Loss.said query) ++ last ∧
          Settles identity query last result := by
  induction creates with
  | exhausted => exact .inl ⟨rfl, rfl, rfl, rfl⟩
  | settled last => exact .inr ⟨Nat.zero_lt_succ _, rfl, _, rfl, last⟩
  | again loss goesOn inductionHypothesis =>
      rcases inductionHypothesis with ⟨all, rfl, rfl, conflict⟩ | ⟨fewer, rfl, last, rfl, settles⟩
      · exact .inl ⟨congrArg (· + 1) all, rfl, rfl, conflict⟩
      · refine .inr ⟨Nat.succ_lt_succ fewer, rfl, last, ?_, settles⟩
        rw [List.flatMap_cons, List.append_assoc]

/-! ### Logging in -/

/-- The ways in which a login can go when the cache finds this user or none. -/
inductive Login (identity : NewUser) (query : Statement) (attempts : Nat) :
    (cached : Option User) → (tries : Nat) → List (Loss identity) →
      List (Statement × Except Error Outcome) → Except Error User → Prop
  | hit (user : User) : Login identity query attempts (some user) 0 [] [] (.ok user)
  | read {answer : Except Error Outcome} {user : User}
      (somebody : found answer = .ok (some user)) :
      Login identity query attempts none 0 [] [(query, answer)] (.ok user)
  | unread {answer : Except Error Outcome} {error : Error} (failed : found answer = .error error) :
      Login identity query attempts none 0 [] [(query, answer)] (.error error)
  /-- The subject is nobody's, so its user is to be created. -/
  | newcomer {answer : Except Error Outcome} {tries : Nat} {losses : List (Loss identity)}
      {said : List (Statement × Except Error Outcome)} {result : Except Error User}
      (nobody : found answer = .ok none)
      (creates : Creates identity query attempts attempts tries losses said result) :
      Login identity query attempts none tries losses ((query, answer) :: said) result

/-- On an undisturbed script a login goes in one of the ways in which it can. -/
theorem createOrGet_runs (limits : Limits) (identity : NewUser)
    (built : (subjectQuery identity.gid).statement = .ok query)
    (world : World Script) (indexed : world.cache.Indexed)
    (undisturbed : world.store.meanwhile = []) :
    ∃ (tries : Nat) (losses : List (Loss identity))
      (said : List (Statement × Except Error Outcome)) (result : Except Error User)
      (script : Script) (cache : IdentityCache),
      Login identity query limits.attempts (world.cache.useGid identity.gid).1 tries losses said
        result ∧
      world.store.Plays (List.replicate tries Table.users.lockKey) said script ∧
      World.run Script.answering (createOrGet limits identity).run world =
        (result, { world with store := script, cache }) ∧
      (∀ user, result = .ok user → cache.Knows user) ∧
      ∀ error, result = .error error → cache = world.cache := by
  rw [createOrGet, World.run_cache_bind]
  have answer : IdentityCache.perform (.useGid identity.gid) world.cache =
      world.cache.useGid identity.gid := rfl
  rw [answer]
  cases hit : (world.cache.useGid identity.gid).1 with
  | some user =>
      refine ⟨0, [], [], _, _, _, .hit user, .nil world.store, rfl, ?_, fun _ same => nomatch same⟩
      rintro _ ⟨⟩
      exact indexed.knows_of_hit hit
  | none =>
      rw [indexed.useGid_of_miss hit]
      obtain ⟨answer, script, plays, reads⟩ := loadSubject_runs built world undisturbed
      cases seen : found answer with
      | error error =>
          rw [seen] at reads
          exact ⟨0, [], _, _, _, _, .unread seen, plays, World.run_bind_of_error reads _,
            world.cache.keep_toOption (.error error)⟩
      | ok user =>
          rw [seen] at reads
          rw [World.run_bind_of_ok reads]
          cases user with
          | some user =>
              exact ⟨0, [], _, _, _, _, .read seen, plays, rfl,
                world.cache.keep_toOption (.ok user)⟩
          | none =>
              obtain ⟨tries, losses, said, result, last, creates, later, goesOn⟩ :=
                createWithin_runs identity built limits.attempts limits.attempts
                  { world with store := script } (plays.undisturbed undisturbed)
              exact ⟨tries, losses, _, result, last, _, .newcomer seen creates,
                plays.trans later, goesOn, world.cache.keep_toOption result⟩

/-- Where a user comes from that a login gives. -/
inductive Origin (identity : NewUser) (query : Statement) (cached : Option User) :
    List (Statement × Except Error Outcome) → User → Prop
  | cached {user : User} (hit : cached = some user) : Origin identity query cached [] user
  /-- It is in the first row that was returned at last. -/
  | read (front : List (Statement × Except Error Outcome)) {outcome : Outcome} {user : User}
      (first : outcome.readFirst User.ofRow = .ok (some user)) :
      Origin identity query cached (front ++ [(query, .ok outcome)]) user
  /-- Its values were inserted at last, under the id that was read before. -/
  | inserted (front : List (Statement × Except Error Outcome)) {asked insert : Statement}
      {outcome second : Outcome} {id : Int64}
      (asks : Table.users.nextIdQuery.statement = .ok asked)
      (read : Table.users.readNextId outcome = .ok id)
      (inserts : Table.users.insertStatement (identity.withId id).values = .ok insert)
      (params : insert.params = (identity.withId id).values) :
      Origin identity query cached
        (front ++ [(asked, .ok outcome), (insert, .ok second)]) (identity.withId id)

/-- Why a login fails. -/
inductive Fault (identity : NewUser) (query : Statement) (attempts : Nat) :
    List (Statement × Except Error Outcome) → Error → Prop
  /-- All attempts were lost. -/
  | conflict {answer : Except Error Outcome} (nobody : found answer = .ok none)
      (losses : List (Loss identity)) (all : losses.length = attempts) :
      Fault identity query attempts ((query, answer) :: losses.flatMap (Loss.said query))
        (.conflict (.userIds attempts))
  /-- At last the subject could not be looked up. -/
  | unread (front : List (Statement × Except Error Outcome)) {answer : Except Error Outcome}
      {error : Error} (failed : found answer = .error error) :
      Fault identity query attempts (front ++ [(query, answer)]) error
  /-- The last attempt failed, and not for a violated unique constraint. -/
  | broken (front : List (Statement × Except Error Outcome)) {trial : Trial identity}
      {error : Error} (failed : trial.result = .error error) (apart : ¬ trial.Collided) :
      Fault identity query attempts (front ++ trial.said) error

variable {cached : Option User} {attempts tries : Nat} {losses : List (Loss identity)}
  {said : List (Statement × Except Error Outcome)} {result : Except Error User}

/-- A user that was found is in the first row of the answer. -/
theorem readFirst_of_found {answer : Except Error Outcome} {user : User}
    (somebody : found answer = .ok (some user)) :
    ∃ outcome, answer = .ok outcome ∧ outcome.readFirst User.ofRow = .ok (some user) :=
  Except.bind_eq_ok_iff.mp somebody

/-- The user of an attempt that was not lost was inserted or read by it. -/
theorem Settles.origin {user : User} (settles : Settles identity query said (.ok user))
    (cached : Option User) (front : List (Statement × Except Error Outcome)) :
    Origin identity query cached (front ++ said) user := by
  cases settles with
  | @created trial id succeeded =>
      obtain ⟨asked, insert, outcome, second, said, asks, read, inserts⟩ :=
        Table.Trial.inserted_of_result succeeded
      have drafted : (Sql.Draft.insert .users (identity.withId id).values).statement =
          .ok insert := inserts
      have params : insert.params = (identity.withId id).values := by
        obtain ⟨_, _, rfl⟩ := Sql.Draft.statement_eq_ok_iff.mp drafted
        rfl
      rw [said]
      exact .inserted front asks read inserts params
  | overtaken collided somebody =>
      obtain ⟨outcome, rfl, first⟩ := readFirst_of_found somebody
      rw [← List.append_assoc]
      exact .read _ first

/-- An attempt that was not lost says three things at most. -/
theorem Settles.length_said_le (settles : Settles identity query said result) :
    said.length ≤ 3 := by
  cases settles with
  | @created trial => exact Nat.le_succ_of_le (Users.length_said_le trial)
  | @broken trial => exact Nat.le_succ_of_le (Users.length_said_le trial)
  | @overtaken trial | @unread trial =>
      have once := Users.length_said_le trial
      rw [List.length_append, List.length_singleton]
      omega

/-- An attempt that was not lost fails by a broken insertion or a failed lookup. -/
theorem Settles.fault {error : Error} (settles : Settles identity query said (.error error))
    (attempts : Nat) (front : List (Statement × Except Error Outcome)) :
    Fault identity query attempts (front ++ said) error := by
  cases settles with
  | broken failed apart => exact .broken front failed apart
  | unread collided failed =>
      rw [← List.append_assoc]
      exact .unread _ failed

namespace Login

/-- A login sends nothing exactly if the cache finds the user. -/
theorem said_eq_nil_iff (login : Login identity query attempts cached tries losses said result) :
    said = [] ↔ ∃ user, cached = some user := by
  cases login <;> simp

/-- The user that the cache finds is the one that the login gives. -/
theorem result_of_hit (login : Login identity query attempts cached tries losses said result)
    {user : User} (hit : cached = some user) : result = .ok user := by
  cases login <;> cases hit
  rfl

/-- There are no more attempts than there may be. -/
theorem tries_le (login : Login identity query attempts cached tries losses said result) :
    tries ≤ attempts := by
  cases login with
  | newcomer nobody creates =>
      rcases creates.split with ⟨_, rfl, _⟩ | ⟨fewer, rfl, _⟩
      · exact Nat.le_refl _
      · exact fewer
  | _ => exact Nat.zero_le _

/-- A login sends one statement, and three more for each attempt at most. -/
theorem length_said_le (login : Login identity query attempts cached tries losses said result) :
    said.length ≤ 1 + 3 * attempts := by
  cases login with
  | newcomer nobody creates =>
      rw [List.length_cons]
      rcases creates.split with ⟨all, _, rfl, _⟩ | ⟨fewer, _, last, rfl, settles⟩
      · have lost := length_losses_le query losses
        omega
      · have lost := length_losses_le query losses
        have once := settles.length_said_le
        rw [List.length_append]
        omega
  | _ => simp

/-- If all attempts were lost, there is a conflict. -/
theorem conflict_of_lost (login : Login identity query attempts cached tries losses said result)
    (positive : 0 < attempts) (all : losses.length = attempts) :
    result = .error (.conflict (.userIds attempts)) := by
  cases login with
  | newcomer nobody creates =>
      rcases creates.split with ⟨_, _, _, conflict⟩ | ⟨fewer, _⟩
      · exact conflict
      · exact absurd all (Nat.ne_of_lt fewer)
  | _ => exact absurd all (Nat.ne_of_lt positive)

/-- The user of a login was found in the cache, read or inserted. -/
theorem origin {user : User}
    (login : Login identity query attempts cached tries losses said (.ok user)) :
    Origin identity query cached said user := by
  cases login with
  | hit => exact .cached rfl
  | read somebody =>
      obtain ⟨outcome, rfl, first⟩ := readFirst_of_found somebody
      exact .read [] first
  | newcomer nobody creates =>
      rcases creates.split with ⟨_, _, _, conflict⟩ | ⟨_, _, last, rfl, settles⟩
      · cases conflict
      · rw [← List.cons_append]
        exact settles.origin none _

/-- A login fails because all attempts were lost, a lookup failed or an insertion broke. -/
theorem fault {error : Error}
    (login : Login identity query attempts cached tries losses said (.error error)) :
    Fault identity query attempts said error := by
  cases login with
  | unread failed => exact .unread [] failed
  | newcomer nobody creates =>
      rcases creates.split with ⟨all, _, rfl, conflict⟩ | ⟨_, _, last, rfl, settles⟩
      · cases conflict
        exact .conflict nobody losses all
      · rw [← List.cons_append]
        exact settles.fault attempts _

end Login

/-- Whatever the store answers, and whatever was done with the cache before, a login goes in one
of the ways in which it can. It sends nothing exactly if the cache finds the user, who is the one
that it gives then. Else it reads by the subject, and only if nobody is found it attempts to create
the user, at most as often as it may; each attempt but the last was lost, which is to say that it
violated a unique constraint and that afterwards the subject was still nobody's. The user that it
gives was found in the cache, or is in the first row that was read at last, or its values are the
parameters of the insertion that was sent at last, under the id that was read before; afterwards
it is found by its id and by its subject. If it fails, the cache is as it was, and the error is a
conflict because all attempts were lost, or the error of the read or of the attempt that came
last. -/
theorem login_finds_reads_or_creates (limits : Limits) (identity : NewUser) (capacity : UInt64)
    (calls : List IdentityCache.Call) (answers : List (Except Error Outcome))
    (clock : Timestamp) :
    let cache := (IdentityCache.empty capacity).after calls
    let cached := (cache.useGid identity.gid).1
    let ending := World.run Script.answering (createOrGet limits identity).run
      ⟨{ answers }, cache, clock⟩
    ∃ (query : Statement) (tries : Nat) (losses : List (Loss identity))
      (said : List (Statement × Except Error Outcome)),
      (subjectQuery identity.gid).statement = .ok query ∧
      Login identity query limits.attempts cached tries losses said ending.1 ∧
      Script.Plays { answers } (List.replicate tries Table.users.lockKey) said ending.2.store ∧
      (said = [] ↔ ∃ user, cached = some user) ∧
      (∀ user, cached = some user → ending.1 = .ok user) ∧
      tries ≤ limits.attempts ∧ said.length ≤ 1 + 3 * limits.attempts ∧
      (losses.length = limits.attempts →
        ending.1 = .error (.conflict (.userIds limits.attempts))) ∧
      (∀ user, ending.1 = .ok user →
        Origin identity query cached said user ∧ ending.2.cache.Knows user) ∧
      ∀ error, ending.1 = .error error →
        Fault identity query limits.attempts said error ∧ ending.2.cache = cache := by
  intro cache cached ending
  obtain ⟨query, built⟩ : ∃ query, (subjectQuery identity.gid).statement = .ok query :=
    Select.exists_statement rfl (Select.lacks_of_star rfl)
  have indexed : cache.Indexed := (IdentityCache.Indexed.empty capacity).after calls
  obtain ⟨tries, losses, said, result, script, later, login, plays, runs, kept, unchanged⟩ :=
    createOrGet_runs limits identity built ⟨{ answers }, cache, clock⟩ indexed rfl
  have came : ending = (result, ⟨script, later, clock⟩) := runs
  rw [came]
  have positive : 0 < limits.attempts := Nat.le_max_right _ 1
  refine ⟨query, tries, losses, said, built, login, plays, login.said_eq_nil_iff, ?_,
    login.tries_le, login.length_said_le, login.conflict_of_lost positive, ?_, ?_⟩
  · exact fun user hit => login.result_of_hit hit
  · rintro user rfl
    exact ⟨login.origin, kept user rfl⟩
  · rintro error rfl
    exact ⟨login.fault, unchanged error rfl⟩

end Users

end Notebook
