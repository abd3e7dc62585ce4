import Notebook.Http.Service
import Notebook.Proofs.Json.Bytes
import Notebook.Proofs.Ownership.Lookup
import Notebook.Proofs.Ownership.SignIn
import Notebook.Proofs.Store.Answer

/-!
# Work that gets through

What work can come to when it is left alone with its surroundings: `Work.Runs` takes its
steps one after the other, and `Succeeds` says that it can end with a value. There is one
rule for each way to go on, as there is for the bounds of a conversation, and requests are
put together from them.
-/

namespace Notebook

/-- The world with one more row in a table. -/
def World.withRow (world : World Database) (table : Table) (row : Row) : World Database where
  store := world.store.replace table (row :: world.store.rows table)
  cache := world.cache
  clock := world.clock

/-- The world with one more user, whom the cache knows. -/
def World.signedUp (world : World Database) (user : User) : World Database :=
  { world.withRow .users (Table.users.row user.values) with cache := world.cache.insert user }

/-- The world after the user of a subject was used from the cache. -/
def World.signedIn (world : World Database) (subject : String) : World Database :=
  { world with cache := (world.cache.useGid subject).2 }

/-- The work can get from one world to another, and then this is left of it. -/
inductive Work.Runs (collation : Collation) {α : Type} :
    Work α → World Database → Work α → World Database → Prop
  | refl (work : Work α) (world : World Database) : Runs collation work world work world
  | ask {action : Action} {next : action.Answer → Work α} {answer : action.Answer}
      {rest : Work α} {world between later : World Database}
      (answered : action.Answered collation world answer between)
      (goesOn : Runs collation (next answer) between rest later) :
      Runs collation (.ask action next) world rest later

/-- The work can succeed with this value, and leave the world so. -/
def Succeeds (collation : Collation) {ε α : Type}
    (work : ExceptT ε (Program Action Action.Answer) α) (world : World Database) (value : α)
    (later : World Database) : Prop :=
  Work.Runs collation work.run world (.done (.ok value)) later

variable {collation : Collation} {ε α β : Type} {world between later : World Database}

/-- Work goes on from where it got. -/
theorem Work.Runs.trans {work reached rest : Work α}
    (first : work.Runs collation world reached between)
    (second : reached.Runs collation between rest later) :
    work.Runs collation world rest later := by
  induction first with
  | refl => exact second
  | ask answered _ inductionHypothesis => exact .ask answered (inductionHypothesis second)

/-- Work in a row gets on if its first part is done and the second gets on. -/
theorem Work.Runs.bind {work : Work β} {next : β → Work α} {result : β} {rest : Work α}
    (first : work.Runs collation world (.done result) between)
    (onward : (next result).Runs collation between rest later) :
    (work >>= next).Runs collation world rest later := by
  generalize final : Program.done result = ended at first
  induction first with
  | refl =>
      subst final
      exact onward
  | ask answered _ inductionHypothesis => exact .ask answered (inductionHypothesis onward final)

/-- Where the first part of work gets, the whole gets with its second part left to do. -/
theorem Work.Runs.front {work rest : Work β} {next : β → Work α}
    (first : work.Runs collation world rest later) :
    (work >>= next).Runs collation world (rest >>= next) later := by
  induction first with
  | refl => exact .refl _ _
  | ask answered _ inductionHypothesis => exact .ask answered inductionHypothesis

/-- Work that asks one question ends with what comes of the answer. -/
theorem Work.Runs.answered {action : Action} {finish : action.Answer → α} {result : α}
    (runs : Work.Runs collation (.ask action fun answer => .done (finish answer)) world
      (.done result) later) :
    ∃ answer, action.Answered collation world answer later ∧ finish answer = result := by
  cases runs with
  | ask answered ends =>
      cases ends
      exact ⟨_, answered, rfl⟩

namespace Succeeds

/-- A value that is there is the result. -/
theorem pure (value : α) (world : World Database) :
    Succeeds collation (Pure.pure value : ExceptT ε (Program Action Action.Answer) α) world value
      world :=
  .refl _ world

/-- Work in a row gets on if its first part succeeds and the second gets on. -/
theorem onward {work : ExceptT ε (Program Action Action.Answer) β}
    {next : β → ExceptT ε (Program Action Action.Answer) α} {result : β}
    {rest : Work (Except ε α)} (first : Succeeds collation work world result between)
    (onward : Work.Runs collation (next result).run between rest later) :
    Work.Runs collation (work >>= next).run world rest later :=
  Work.Runs.bind first onward

/-- Work in a row succeeds if its parts do. -/
theorem bind {work : ExceptT ε (Program Action Action.Answer) β}
    {next : β → ExceptT ε (Program Action Action.Answer) α} {result : β} {value : α}
    (first : Succeeds collation work world result between)
    (second : Succeeds collation (next result) between value later) :
    Succeeds collation (work >>= next) world value later :=
  first.onward second

/-- Work whose result is changed succeeds if it does. -/
theorem map {work : ExceptT ε (Program Action Action.Answer) β} {change : β → α} {result : β}
    (succeeds : Succeeds collation work world result later) :
    Succeeds collation (change <$> work) world (change result) later :=
  Work.Runs.bind succeeds (.refl _ later)

/-- A result that is known succeeds if it is one. -/
theorem ofExcept {result : Except Error α} {value : α} (known : result = .ok value) :
    Succeeds collation (Job.ofExcept result) world value world := by
  rw [known]
  exact .refl _ world

/-- A job that succeeds does not refuse the request. -/
theorem ofJob {job : Job α} {value : α} (succeeds : Succeeds collation job world value later) :
    Succeeds collation (Handling.ofJob job) world value later :=
  Work.Runs.bind succeeds (.refl _ later)

/-- A job that succeeds is seen to. -/
theorem observe {job : Job α} {value : α} (succeeds : Succeeds collation job world value later) :
    Succeeds collation (Job.observe job) world (.ok value) later :=
  Work.Runs.bind succeeds (.refl _ later)

/-- The cache always answers. -/
theorem cache (call : IdentityCache.Call) :
    Succeeds collation (Job.cache call) world (IdentityCache.perform call world.cache).1
      { world with cache := (IdentityCache.perform call world.cache).2 } :=
  .ask (.cache call world) (.refl _ _)

/-- The clock may show any time. -/
theorem now (time : Timestamp) :
    Succeeds collation Job.now world time { world with clock := time } :=
  .ask (.now time world) (.refl _ _)

/-- A query succeeds if the rows that it yields can be read. -/
theorem query {query : Select} {rows : List Row} {read : Outcome → Except Error α} {value : α}
    (checked : (Sql.Draft.select query).check = .ok ()) (star : query.outputs = ["*"])
    (yields : (Sql.Query.reading [.star] query).Yields collation.toComparing
      (world.store.rows query.table) rows)
    (readable : read (.ofRows rows) = .ok value) :
    Succeeds collation (do
      let statement ← Job.ofExcept query.statement
      let outcome ← Job.execute statement
      Job.ofExcept (read outcome)) world value world := by
  obtain ⟨statement, built⟩ := Select.exists_statement checked (Select.lacks_of_star star)
  have executed : Succeeds collation (Job.execute statement) world (.ofRows rows) world :=
    .ask (.store (.of_query query built star yields)) (.refl _ _)
  exact (ofExcept built).bind (executed.bind (ofExcept readable))

/-- An insertion under the next id succeeds with that id, as long as the keys hold. -/
theorem allocate {table : Table} {values : Int64 → List Value} {id : Int64}
    (arity : (values id).length = table.columns.length)
    (next : Database.IsNextId (world.store.rows table) id)
    (keyed : (world.withRow table (table.row (values id))).store.Keyed) :
    Succeeds collation (table.allocate values) world id
      (world.withRow table (table.row (values id))) := by
  obtain ⟨head, built⟩ := table.exists_nextIdQuery
  have readId : table.readNextId (.ofRows [⟨[(Table.nextIdColumn, .int id)]⟩]) = .ok id := by
    simp [Table.readNextId, Outcome.ofRows, Row.int_eq_ok_iff, Row.get?]
  have executed : Succeeds collation
      (Job.executeSerialized table.lockKey head (table.insertNext values)) world
      (.ofRows [⟨[(Table.nextIdColumn, .int id)]⟩], .affected 1)
      (world.withRow table (table.row (values id))) :=
    .ask (.store (.of_allocate built arity next keyed)) (.refl _ _)
  exact (ofExcept built).bind (executed.bind (ofExcept readId))

/-- An insertion succeeds in the first attempt if it can succeed at all. -/
theorem insertWithNextId {table : Table} {attempts : Nat} {values : Int64 → List Value}
    {id : Int64} (first : Succeeds collation (table.allocate values) world id later) :
    Succeeds collation (table.insertWithNextId attempts values) world id later := by
  have positive : max attempts 1 = (max attempts 1 - 1) + 1 := by omega
  unfold Table.insertWithNextId
  rw [positive]
  exact first.observe.bind (.pure id later)

end Succeeds

/-! ### Signing in -/

/-- A caller whom the cache knows is signed in. -/
theorem caller_succeeds_of_cached {request : HttpRequest} {user : User}
    (limits : Limits) (identity : NewUser) (named : request.identity? = some identity)
    (cached : (world.cache.useGid identity.gid).1 = some user) :
    Succeeds collation (Handling.caller limits request) world user
      (world.signedIn identity.gid) := by
  have found : Succeeds collation (Users.createOrGet limits identity) world user
      (world.signedIn identity.gid) := by
    have used : Succeeds collation (Job.cache (.useGid identity.gid)) world (some user)
        (world.signedIn identity.gid) :=
      cached ▸ .cache (.useGid identity.gid)
    exact used.bind (.pure user _)
  unfold Handling.caller Handling.caller?
  rw [named]
  exact found.ofJob.map.bind (.pure user _)

/-- A caller whom neither the cache nor the store knows is signed up. -/
theorem caller_succeeds_of_newcomer {request : HttpRequest} {id : Int64}
    (limits : Limits) (identity : NewUser) (named : request.identity? = some identity)
    (uncached : world.cache.useGid identity.gid = (none, world.cache))
    (unknown : (Sql.Query.reading [.star] (Users.subjectQuery identity.gid)).Yields
      collation.toComparing (world.store.rows .users) [])
    (next : Database.IsNextId (world.store.rows .users) id)
    (keyed : (world.withRow .users (Table.users.row (identity.withId id).values)).store.Keyed) :
    Succeeds collation (Handling.caller limits request) world (identity.withId id)
      (world.signedUp (identity.withId id)) := by
  have missed : Succeeds collation (Job.cache (.useGid identity.gid)) world none world := by
    have used : Succeeds collation (Job.cache (.useGid identity.gid)) world
        (world.cache.useGid identity.gid).1 (world.signedIn identity.gid) :=
      .cache (.useGid identity.gid)
    unfold World.signedIn at used
    rwa [uncached] at used
  have absent : Succeeds collation (Users.loadSubject identity.gid) world none world := by
    have epoch : Succeeds collation (Job.cache .epoch) world world.cache.epoch world :=
      .cache .epoch
    have found : Succeeds collation (Users.find (.eq "gid" (.text identity.gid))) world none
        world :=
      .query rfl rfl unknown rfl
    exact epoch.bind (found.bind (.pure none world))
  have attempts : limits.attempts = (limits.attempts - 1) + 1 := by
    have positive : 0 < limits.attempts := by
      unfold Limits.attempts
      omega
    omega
  have created : Succeeds collation (Users.createOrGet limits identity) world
      (identity.withId id) (world.signedUp (identity.withId id)) := by
    refine missed.bind (absent.bind ?_)
    rw [attempts]
    refine (Succeeds.allocate rfl next keyed).observe.bind ?_
    have kept : Succeeds collation (Job.cache (.insert (identity.withId id)))
        (world.withRow .users (Table.users.row (identity.withId id).values)) ()
        (world.signedUp (identity.withId id)) := .cache _
    exact kept.bind (.pure _ _)
  unfold Handling.caller Handling.caller?
  rw [named]
  exact created.ofJob.map.bind (.pure _ _)

/-! ### Requests -/

/-- A text that is announced as JSON carries what is read from the value it starts with. -/
theorem HttpRequest.carries_of_scan {request : HttpRequest} {text : String} {found : Json.Scan}
    {read : Json.Scan → Except Json.Fault α} {value : α}
    (announced : request.headerText? "content-type" = some "application/json")
    (sent : request.body = Utf8.encode text.toList)
    (scanned : (Json.Scan.value (Json.tokens text)).1 = found)
    (readable : read found = .ok value) : request.Carries read value := by
  have given : Json.readStart read request.body = .ok value := by
    rw [sent, Json.readStart_encode, scanned, readable]
  unfold HttpRequest.Carries Handling.body
  rw [announced, given]
  rfl

section Requests

variable {limits : Limits} {request : HttpRequest} {user : User}

/-- A request gets as far as its endpoint does, and is answered as the endpoint succeeds. -/
theorem serve_runs_to {route : Route} {endpoint : Endpoint}
    {rest : Work (Except Refusal HttpResponse)} (routed : Route.ofPath? request.path = some route)
    (served : route.endpoint? request.method = some endpoint) (body : request.method ≠ "HEAD")
    (handled : Work.Runs collation (Handling.endpoint limits request endpoint).run world rest
      later) :
    ∃ finish : Except Refusal HttpResponse → Work HttpResponse,
      (serve limits request).Runs collation world (rest >>= finish) later ∧
      ∀ response, finish (.ok response) = .done response := by
  unfold serve
  rw [routed]
  dsimp only
  rw [served]
  dsimp only
  exact ⟨_, .front handled, fun response => if_neg body⟩

/-- A request that is handled successfully is answered so. -/
theorem serve_runs {route : Route} {endpoint : Endpoint} {response : HttpResponse}
    (routed : Route.ofPath? request.path = some route)
    (served : route.endpoint? request.method = some endpoint) (body : request.method ≠ "HEAD")
    (handled : Succeeds collation (Handling.endpoint limits request endpoint) world response
      later) :
    (serve limits request).Runs collation world (.done response) later := by
  obtain ⟨finish, runs, answers⟩ := serve_runs_to routed served body handled
  rwa [Program.done_bind, answers] at runs

/-- The column of a lookup is declared. -/
theorem Belonging.check_lookup (kind : Belonging) (id : Int64) :
    (Sql.Draft.select (kind.lookup id)).check = .ok () := by
  cases kind <;> rfl

/-- A thing is found to be the caller's if it is and a lookup reads it first. -/
theorem Succeeds.owned (kind : Belonging) {owner id : Int64} {rows : List Row}
    {thing : kind.Thing} {refusal : Refusal}
    (yields : (Sql.Query.reading [.star] (kind.lookup id)).Yields collation.toComparing
      (world.store.rows kind.table) rows)
    (readable : (Outcome.ofRows rows).readFirst kind.read = .ok (some thing))
    (own : kind.owner thing = owner) :
    Succeeds collation (Handling.owned (kind.get id) kind.owner owner refusal) world thing
      world := by
  have found : Succeeds collation (Belonging.get kind id) world (some thing) world :=
    .query (kind.check_lookup id) rfl yields readable
  have kept : (some thing).filter (fun thing => kind.owner thing = owner) = some thing := by
    simp [own]
  refine found.ofJob.bind ?_
  rw [kept]
  exact .pure thing world

section Sets

variable {owner id : Int64} {rows : List Row} {set : NoteSet}

/-- A set is found to be the caller's if it is and a lookup reads it first. -/
theorem Succeeds.ownedSet
    (yields : (Sql.Query.reading [.star] (Belonging.set.lookup id)).Yields collation.toComparing
      (world.store.rows .sets) rows)
    (readable : (Outcome.ofRows rows).readFirst NoteSet.ofRow = .ok (some set))
    (own : set.owner = owner) :
    Succeeds collation (Handling.ownedSet owner id) world set world := by
  rw [Handling.ownedSet_eq]
  exact .owned .set yields readable own

/-- A set is found to file notes in if it is the caller's and a lookup reads it first. -/
theorem Succeeds.targetSet
    (yields : (Sql.Query.reading [.star] (Belonging.set.lookup id)).Yields collation.toComparing
      (world.store.rows .sets) rows)
    (readable : (Outcome.ofRows rows).readFirst NoteSet.ofRow = .ok (some set))
    (own : set.owner = owner) :
    Succeeds collation (Handling.targetSet owner id) world set world := by
  rw [Handling.targetSet_eq]
  exact .owned .set yields readable own

end Sets

/-- The caller can create a set. -/
theorem createSet_runs {new : NewSet} {set : NoteSet}
    (routed : Route.ofPath? request.path = some .sets) (posts : request.method = "POST")
    (carries : request.Carries NewSet.ofScan new)
    (made : set = ⟨set.id, user.id, new.name, new.type⟩)
    (signsIn : Succeeds collation (Handling.caller limits request) world user between)
    (next : Database.IsNextId (between.store.rows .sets) set.id)
    (keyed : (between.withRow .sets (Table.sets.row set.values)).store.Keyed) :
    (serve limits request).Runs collation world (.done (Handling.json set.toJson))
      (between.withRow .sets (Table.sets.row set.values)) := by
  have read : Handling.body NewSet.ofScan request = pure new := carries
  have served : Route.sets.endpoint? request.method = some .createSet := by
    rw [posts]
    rfl
  generalize set.id = id at made next
  subst made
  refine serve_runs routed served (by rw [posts]; decide) (signsIn.bind ?_)
  rw [read]
  refine (Succeeds.pure new between).bind (Succeeds.bind (Succeeds.ofJob ?_) (.pure _ _))
  exact (Succeeds.insertWithNextId (.allocate rfl next keyed)).bind (.pure _ _)

/-- The caller can post a note to an own set. -/
theorem postNote_runs {new : NewNote} {requested : Int64} {set : NoteSet} {note : Note}
    {time : Timestamp} (routed : Route.ofPath? request.path = some .notes)
    (posts : request.method = "POST") (carries : request.Carries NewNote.ofScan new)
    (filed : new.set = some requested)
    (made : note = ⟨note.id, user.id, some set.id, time.toMicroseconds, new.body, false⟩)
    (signsIn : Succeeds collation (Handling.caller limits request) world user between)
    (found : Succeeds collation (Handling.targetSet user.id requested) between set between)
    (next : Database.IsNextId (between.store.rows .notes) note.id)
    (keyed : (between.withRow .notes (Table.notes.row note.values)).store.Keyed) :
    (serve limits request).Runs collation world (.done (Handling.json note.toJson))
      { between.withRow .notes (Table.notes.row note.values) with clock := time } := by
  have read : Handling.body NewNote.ofScan request = pure new := carries
  have served : Route.notes.endpoint? request.method = some .postNote := by
    rw [posts]
    rfl
  generalize note.id = id at made next
  subst made
  refine serve_runs routed served (by rw [posts]; decide) (signsIn.bind ?_)
  rw [read]
  refine (Succeeds.pure new between).bind ?_
  rw [filed]
  refine Succeeds.bind (Succeeds.map found) (Succeeds.bind (Succeeds.ofJob ?_) (.pure _ _))
  refine (Succeeds.now time).bind (Succeeds.bind (Succeeds.insertWithNextId ?_) (.pure _ _))
  exact .allocate rfl next keyed

variable {segment : List Char} {id : Int64} {set : NoteSet}

/-- The id in a path is read if it is there. -/
theorem Succeeds.pathId (addressed : Addresses segment id) :
    Succeeds collation (Handling.pathId segment) world id world := by
  have read : (Utf8.decode? (Percent.decode segment)).bind Decimal.int64? = some id := addressed
  unfold Handling.pathId
  rw [read]
  exact .pure id world

/-- A deletion of an own set gets to where only the rows are left to be removed. -/
theorem deleteSet_runs
    (routed : Route.ofPath? request.path = some (.set segment))
    (deletes : request.method = "DELETE") (addressed : Addresses segment id)
    (signsIn : Succeeds collation (Handling.caller limits request) world user between)
    (found : Succeeds collation (Handling.ownedSet user.id id) between set between) :
    ∃ (filed itself : Statement) (next : Except Error (List Outcome) → Work HttpResponse),
      Table.notes.deleteStatement (.eq "set" (.int id)) = .ok filed ∧
      Table.sets.deleteStatement (.eq "id" (.int id)) = .ok itself ∧
      (serve limits request).Runs collation world
        (.ask (.store (.executeAtomic [filed, itself])) next) between ∧
      ∀ outcomes, next (.ok outcomes) = .done Handling.noContent := by
  have served : (Route.set segment).endpoint? request.method = some (.deleteSet segment) := by
    rw [deletes]
    rfl
  have pending : Work.Runs collation (Handling.endpoint limits request (.deleteSet segment)).run
      world (do
        Handling.ofJob (Sets.delete id)
        return Handling.noContent : Handling HttpResponse).run between :=
    signsIn.onward ((Succeeds.pathId addressed).onward (found.onward (.refl _ _)))
  obtain ⟨filed, builtNotes⟩ : ∃ filed, Table.notes.deleteStatement (.eq "set" (.int id)) =
      .ok filed := Table.exists_deleteStatement rfl
  obtain ⟨itself, builtSet⟩ : ∃ itself, Table.sets.deleteStatement (.eq "id" (.int id)) =
      .ok itself := Table.exists_deleteStatement rfl
  unfold Sets.delete at pending
  rw [builtNotes, builtSet] at pending
  obtain ⟨finish, runs, answers⟩ := serve_runs_to routed served (by rw [deletes]; decide) pending
  exact ⟨filed, itself, _, builtNotes, builtSet, runs, fun outcomes => answers _⟩

/-- A listing of the notes of an own set gets to where only the page is left to be read. -/
theorem listSetNotes_runs {query : PageQuery} {offset : Option UInt64}
    (routed : Route.ofPath? request.path = some (.setNotes segment))
    (gets : request.method = "GET") (addressed : Addresses segment id)
    (asked : PageQuery.ofForm? request.query = some query)
    (paged : Listing.offset query.offset = .ok offset)
    (signsIn : Succeeds collation (Handling.caller limits request) world user between)
    (found : Succeeds collation (Handling.ownedSet user.id id) between set between) :
    ∃ (page : Statement) (next : Except Error Outcome → Work HttpResponse),
      (Notes.pageQuery limits (.eq "set" (.int id)) .asc offset).statement = .ok page ∧
      (serve limits request).Runs collation world (.ask (.store (.execute page)) next) between ∧
      ∀ outcome notes, outcome.readAll Note.ofRow = .ok notes →
        next (.ok outcome) = .done (Handling.json (.array (notes.map Note.toJson))) := by
  have served : (Route.setNotes segment).endpoint? request.method =
      some (.listSetNotes segment) := by
    rw [gets]
    rfl
  have readQuery : Succeeds collation (Handling.pageQuery request) between query between := by
    unfold Handling.pageQuery
    rw [asked]
    exact .pure query between
  have pending : Work.Runs collation
      (Handling.endpoint limits request (.listSetNotes segment)).run world (do
        let notes ← Handling.ofJob (Sets.notes limits id offset)
        return Handling.json (.array (notes.map Note.toJson)) : Handling HttpResponse).run
      between :=
    signsIn.onward ((Succeeds.pathId addressed).onward (readQuery.onward (found.onward
      ((Succeeds.ofExcept paged).ofJob.onward (.refl _ _)))))
  obtain ⟨page, built⟩ : ∃ page,
      (Notes.pageQuery limits (.eq "set" (.int id)) .asc offset).statement = .ok page :=
    Select.exists_statement rfl (Select.lacks_of_star rfl)
  unfold Sets.notes Notes.page at pending
  rw [built] at pending
  obtain ⟨finish, runs, answers⟩ := serve_runs_to routed served (by rw [gets]; decide) pending
  refine ⟨page, _, built, runs, fun outcome notes readable => ?_⟩
  have last (read : Except Error (List Note)) (same : read = .ok notes) :
      ((do
        let notes ← Handling.ofJob (Job.ofExcept read)
        return Handling.json (.array (notes.map Note.toJson)) : Handling HttpResponse).run >>=
          finish) = .done (Handling.json (.array (notes.map Note.toJson))) := by
    rw [same]
    exact answers _
  exact last (outcome.readAll Note.ofRow) readable

end Requests

end Notebook
