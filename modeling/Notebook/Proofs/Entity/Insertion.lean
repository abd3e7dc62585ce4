import Notebook.Proofs.Entity.Rows
import Notebook.Proofs.Identity.Login
import Notebook.Repository.Sets

/-!
# Insertions

An insert is positional: its parameters are the values of a thing in the order in which the table
declares its columns, and nothing but their number is checked when it is built. From the row that
pairs them with these columns the thing is read back (`Table.Stands.inserts`), so what is posted,
created or signed up is returned as it was inserted, however many attempts that took.
-/

namespace Notebook

open Notebook.Sql

/-! ### What stands for a thing -/

namespace Table

variable {table : Table}

/-- The statement inserts one row, from which the thing is read in whatever order its columns
stand, and whatever other columns stand between them. -/
structure Inserts (table : Table) (insert : Statement) (thing : table.Thing) : Prop where
  operation : Operation.ofStatement? insert = some (.insert table insert.params)
  reads : ∀ (row : Row) (others : List (String × Value)),
    row.cells.Perm (table.columns.zip insert.params ++ others) →
    (∀ cell ∈ others, cell.1 ∉ table.columns) → table.read row = .ok thing

/-- An insert of values that stand for a thing inserts it. -/
theorem Stands.inserts {thing : table.Thing} {values : List Value} {insert : Statement}
    (stands : table.Stands thing values) (built : table.insertStatement values = .ok insert) :
    table.Inserts insert thing := by
  have drafted : (Draft.insert table values).statement = .ok insert := built
  have params : insert.params = values := by
    obtain ⟨_, _, rfl⟩ := Draft.statement_eq_ok_iff.mp drafted
    rfl
  constructor
  · rw [params]
    exact Operation.ofStatement?_insert drafted
  · rw [params]
    exact fun row others arranged apart => stands.read_of_perm apart arranged

/-- The values of a note stand for it if the id of its set is not negative. -/
theorem stands_note {note : Note} (natural : ∀ id ∈ note.set, 0 ≤ id) :
    Stands .notes note note.values :=
  .note note (Note.setNumber note.set) (Note.setOfNumber_setNumber natural).symm

/-- What is sent last by an insertion that succeeds are the values for the id that it gives. -/
theorem insertWithNextId_last {attempts : Nat} {values : Int64 → List Value}
    {world after : World Script} {id : Int64}
    (runs : World.run Script.answering (table.insertWithNextId attempts values).run world =
      (.ok id, after)) :
    ∃ insert, after.store.sent.getLast? = some insert ∧
      table.insertStatement (values id) = .ok insert := by
  obtain ⟨trials, insists, plays⟩ :=
    allocateWithin_insists table values (max attempts 1) (max attempts 1) world
  rw [insertWithNextId] at runs
  rw [runs] at insists plays
  obtain ⟨earlier, last, rfl, _, _, ⟨_, _, conflict⟩ | ⟨_, same⟩⟩ := insists.split (by omega)
  · cases conflict
  · obtain ⟨query, insert, outcome, second, said, _, _, inserts⟩ :=
      Trial.inserted_of_result same.symm
    refine ⟨insert, ?_, inserts⟩
    rw [congrArg Script.sent plays.record]
    simp [transcript, said]

end Table

/-! ### What is returned -/

variable {limits : Limits} {owner : Int64} {world after : World Script}

/-- A note that was posted is the one that was inserted last. Its set is the given one, and its
timestamp has whole microseconds. -/
theorem Notes.post_inserts {body : String} {set : Option NoteSet} {note : Note}
    (natural : ∀ filed ∈ set, 0 ≤ filed.id)
    (runs : World.run Script.answering (Notes.post limits owner body set).run world =
      (.ok note, after)) :
    ∃ insert, after.store.sent.getLast? = some insert ∧ Table.notes.Inserts insert note ∧
      note.set = set.map NoteSet.id ∧ note.timestamp.nanosecond.val % 1000 = 0 := by
  let noteWithId (id : Int64) : Note :=
    ⟨id, owner, set.map NoteSet.id, world.clock.toMicroseconds, body, false⟩
  have work : World.run Script.answering (Notes.post limits owner body set).run world =
      World.run Script.answering (Table.notes.insertWithNextId limits.attempts
        (fun id => (noteWithId id).values) >>= fun id => pure (noteWithId id)).run world := rfl
  rw [work] at runs
  obtain ⟨id, between, inserted, returned⟩ := World.of_run_bind_eq_ok runs
  cases returned
  obtain ⟨insert, last, built⟩ := Table.insertWithNextId_last inserted
  have stands : Table.Stands .notes (noteWithId id) (noteWithId id).values := by
    refine Table.stands_note fun number filed => ?_
    obtain ⟨given, isGiven, rfl⟩ := Option.map_eq_some_iff.mp filed
    exact natural given isGiven
  have whole : (noteWithId id).timestamp.nanosecond.val % 1000 = 0 := by
    change (world.clock.nanosecond.val - world.clock.nanosecond.val % 1000) % 1000 = 0
    omega
  exact ⟨insert, last, stands.inserts built, rfl, whole⟩

/-- A set that was created is the one that was inserted last. -/
theorem Sets.create_inserts {request : NewSet} {set : NoteSet}
    (runs : World.run Script.answering (Sets.create limits owner request).run world =
      (.ok set, after)) :
    ∃ insert, after.store.sent.getLast? = some insert ∧ Table.sets.Inserts insert set := by
  obtain ⟨id, between, inserted, returned⟩ := World.of_run_bind_eq_ok runs
  cases returned
  obtain ⟨insert, last, built⟩ := Table.insertWithNextId_last inserted
  exact ⟨insert, last, (Table.Stands.set ⟨id, owner, request.name, request.type⟩).inserts built⟩

/-- A user that a login gives is the one that was inserted last, if an insertion is what it sent
last. -/
theorem Users.createOrGet_inserts {identity : NewUser} {user : User}
    (indexed : world.cache.Indexed) (undisturbed : world.store.meanwhile = [])
    (fresh : world.store.sent = [])
    (runs : World.run Script.answering (createOrGet limits identity).run world =
      (.ok user, after)) {insert : Statement} (last : after.store.sent.getLast? = some insert)
    (mutates : insert.kind = .mutation) : Table.users.Inserts insert user := by
  obtain ⟨query, built⟩ : ∃ query, (subjectQuery identity.gid).statement = .ok query :=
    Select.exists_statement rfl (Select.lacks_of_star rfl)
  obtain ⟨tries, losses, said, result, script, cache, login, plays, goes, _⟩ :=
    createOrGet_runs limits identity built world indexed undisturbed
  rw [runs] at goes
  cases goes
  rw [congrArg Script.sent plays.record, fresh, List.nil_append] at last
  cases login.origin with
  | cached hit => cases last
  | read front first =>
      -- What was sent last is a query then, which is no mutation.
      rw [List.map_append, List.map_singleton, List.getLast?_concat] at last
      cases last
      have drafted : (Draft.select (subjectQuery identity.gid)).statement = .ok query := built
      rw [(Draft.kind_and_table drafted).1] at mutates
      cases mutates
  | @inserted front asked sent outcome second id asks read inserts params =>
      have same : insert = sent := by simpa using last.symm
      rw [same]
      exact (Table.Stands.user (identity.withId id)).inserts inserts

/-- What is inserted is what is returned. Whenever a note is posted, in no set or in one whose id
is not negative, or a set is created, or a login creates a user, which is to say that an insertion
is what it sends last, the parameters of the insertion that was sent last stand under the declared
columns for exactly the thing that is returned: it is read from every row that has them there, in
whatever order the columns stand and whatever other columns stand between them. A note in no set
comes back as such, and its timestamp has nothing below a microsecond. -/
theorem inserted_is_returned (limits : Limits) :
    (∀ (world : World Script) (owner : Int64) (body : String) (set : Option NoteSet) (note : Note),
      let ending := World.run Script.answering (Notes.post limits owner body set).run world
      (∀ filed ∈ set, 0 ≤ filed.id) → ending.1 = .ok note →
      ∃ insert, ending.2.store.sent.getLast? = some insert ∧
        Table.notes.Inserts insert note ∧
        note.set = set.map NoteSet.id ∧ note.timestamp.nanosecond.val % 1000 = 0) ∧
    (∀ (world : World Script) (owner : Int64) (request : NewSet) (set : NoteSet),
      let ending := World.run Script.answering (Sets.create limits owner request).run world
      ending.1 = .ok set →
      ∃ insert, ending.2.store.sent.getLast? = some insert ∧ Table.sets.Inserts insert set) ∧
    ∀ (answers : List (Except Error Outcome)) (capacity : UInt64)
      (calls : List IdentityCache.Call) (clock : Timestamp) (identity : NewUser) (user : User)
      (insert : Statement),
      let ending := World.run Script.answering (Users.createOrGet limits identity).run
        ⟨{ answers }, (IdentityCache.empty capacity).after calls, clock⟩
      ending.1 = .ok user → ending.2.store.sent.getLast? = some insert →
      insert.kind = .mutation → Table.users.Inserts insert user := by
  refine ⟨?post, ?create, ?signUp⟩
  case post =>
    intro world owner body set note ending natural posted
    exact Notes.post_inserts natural (Prod.ext posted rfl)
  case create =>
    intro world owner request set ending created
    exact Sets.create_inserts (Prod.ext created rfl)
  case signUp =>
    intro answers capacity calls clock identity user insert ending came last mutates
    have indexed := (IdentityCache.Indexed.empty capacity).after calls
    exact Users.createOrGet_inserts indexed rfl rfl (Prod.ext came rfl) last mutates

/-- The outcome of the query for the next id. -/
def nextIdOutcome (id : Int64) : Except Error Outcome :=
  .ok (.ofRows [⟨[(Table.nextIdColumn, .int id)]⟩])

/-- A little after noon. -/
def afterNoon : Timestamp :=
  .ofMicrosecondOfDay ⟨2023, 12, 31, by decide⟩ 43200000001

/-- The store gives these answers, and part of another microsecond has passed. -/
def atLunch (answers : List (Except Error Outcome)) : World Script :=
  ⟨{ answers }, .empty, { afterNoon with nanosecond := ⟨1234, by decide⟩ }⟩

/-- A note is posted in a set, and the first attempt collides. -/
def retriedPosting : Except Error Note × World Script :=
  World.run Script.answering (Notes.post {} 1 "milk" (some ⟨3, 1, "Shopping", .daily⟩)).run
    (atLunch [nextIdOutcome 4, .error (.database .uniqueViolation), nextIdOutcome 5])

/-- A set is created. -/
def setCreation : Except Error NoteSet × World Script :=
  World.run Script.answering (Sets.create {} 1 ⟨"Shopping", .daily⟩).run
    (atLunch [nextIdOutcome 3])

/-- Somebody logs in who was nobody before. -/
def firstLogin : Except Error User × World Script :=
  World.run Script.answering (Users.createOrGet {} ⟨"g", "Ada", "a@x"⟩).run
    (atLunch [.ok (.ofRows []), nextIdOutcome 0])

/-- A note that is posted at the second attempt, a set and a new user are what was inserted for
them. -/
theorem inserted_is_returned_retried :
    (retriedPosting.1 = .ok ⟨5, 1, some 3, afterNoon, "milk", false⟩ ∧
        ∃ insert, retriedPosting.2.store.sent.getLast? = some insert ∧
          Table.notes.Inserts insert ⟨5, 1, some 3, afterNoon, "milk", false⟩) ∧
      (setCreation.1 = .ok ⟨3, 1, "Shopping", .daily⟩ ∧
        ∃ insert, setCreation.2.store.sent.getLast? = some insert ∧
          Table.sets.Inserts insert ⟨3, 1, "Shopping", .daily⟩) ∧
      firstLogin.1 = .ok ⟨0, "Ada", "a@x", "g"⟩ ∧
        ∃ insert, firstLogin.2.store.sent.getLast? = some insert ∧
          Table.users.Inserts insert ⟨0, "Ada", "a@x", "g"⟩ := by
  have natural : ∀ filed ∈ some (⟨3, 1, "Shopping", .daily⟩ : NoteSet), 0 ≤ filed.id := by
    rintro filed ⟨⟩
    decide
  have posted : retriedPosting.1 = .ok ⟨5, 1, some 3, afterNoon, "milk", false⟩ := by
    decide +kernel
  have created : setCreation.1 = .ok ⟨3, 1, "Shopping", .daily⟩ := by decide +kernel
  have loggedIn : firstLogin.1 = .ok ⟨0, "Ada", "a@x", "g"⟩ := by decide +kernel
  have last : firstLogin.2.store.sent.getLast? =
      some ⟨.mutation, .users, "INSERT INTO \"users\" VALUES ($1, $2, $3, $4)",
        [.int 0, .text "Ada", .text "a@x", .text "g"]⟩ := by decide +kernel
  obtain ⟨post, create, logIn⟩ := inserted_is_returned {}
  refine ⟨⟨posted, ?_⟩, ⟨created, create _ 1 ⟨"Shopping", .daily⟩ _ created⟩, loggedIn, ?_⟩
  · obtain ⟨insert, last, inserts, _⟩ := post _ 1 "milk" _ _ natural posted
    exact ⟨insert, last, inserts⟩
  · exact ⟨_, last, logIn _ _ [] _ _ _ _ loggedIn last rfl⟩

end Notebook
