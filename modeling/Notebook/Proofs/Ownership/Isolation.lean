import Notebook.Proofs.Ownership.Secure
import Notebook.Proofs.Work.Success

/-!
# Isolation of users

The service works on any number of requests, and takes the steps of their work in any order,
each on the one database. An endpoint checks who owns a thing before it acts on the id of the
thing, and ids are given out again. So users are isolated from each other as long as nobody
deletes things of a user while another request of the same user is served
(`isolated_apart_from_deletions`), and in particular if requests are served one after the
other (`notes_stay_filed`).

`Service.Sound` is the invariant: the database is filed, the cache knows only stored users,
and all work that is left is secure.
-/

namespace Notebook

/-- Two requests may be served at the same time: they are of different subjects, or none of
them deletes. -/
def HttpRequest.MayOverlap (first second : HttpRequest) : Prop :=
  ∀ identity other, first.identity? = some identity → second.identity? = some other →
    identity.gid = other.gid → first.method ≠ "DELETE" ∧ second.method ≠ "DELETE"

/-- A request and what is left of the work on it. -/
structure Thread where
  request : HttpRequest
  rest : Work HttpResponse

namespace Thread

/-- The work on the request is done. -/
def Finished (thread : Thread) : Prop :=
  ∃ response, thread.rest = .done response

/-- One request is finished, or both may be served at the same time. -/
def Apart (first second : Thread) : Prop :=
  first.Finished ∨ second.Finished ∨ first.request.MayOverlap second.request

/-- It does not matter which request is called the first. -/
theorem Apart.symm {first second : Thread} (apart : first.Apart second) : second.Apart first := by
  rcases apart with finished | finished | mayOverlap
  · exact .inr (.inl finished)
  · exact .inl finished
  · refine .inr (.inr fun identity other named named' same => ?_)
    exact (mayOverlap other identity named' named same.symm).symm

end Thread

/-- The service with its surroundings and all requests that have arrived. -/
structure Service where
  world : World Database
  threads : List Thread

namespace Service

/-! ### Steps -/

/-- The service before the first request, on a database without rows. -/
def start (limits : Limits) (clock : Timestamp) : Service where
  world := { store := .empty, cache := .empty limits.cacheCapacity, clock }
  threads := []

/-- A request arrives that is admitted, or one action of one request is answered. -/
inductive Step (collation : Collation) (limits : Limits) (admits : Service → HttpRequest → Prop) :
    Service → Service → Prop
  | arrive {service : Service} {request : HttpRequest} (admitted : admits service request) :
      Step collation limits admits service
        { service with threads := ⟨request, serve limits request⟩ :: service.threads }
  | act {world later : World Database} {front back : List Thread} {request : HttpRequest}
      {action : Action} {next : action.Answer → Work HttpResponse} {answer : action.Answer}
      (answered : action.Answered collation world answer later) :
      Step collation limits admits ⟨world, front ++ ⟨request, .ask action next⟩ :: back⟩
        ⟨later, front ++ ⟨request, next answer⟩ :: back⟩

/-- The service can get here. -/
inductive Reachable (collation : Collation) (limits : Limits)
    (admits : Service → HttpRequest → Prop) : Service → Prop
  | start (clock : Timestamp) : Reachable collation limits admits (start limits clock)
  | step {service later : Service} (reachable : Reachable collation limits admits service)
      (step : Step collation limits admits service later) :
      Reachable collation limits admits later

/-- Any request is admitted at any time. -/
def Anytime (_ : Service) (_ : HttpRequest) : Prop :=
  True

/-- A request is admitted when all others are finished. -/
def OneByOne (service : Service) (_ : HttpRequest) : Prop :=
  ∀ thread ∈ service.threads, thread.Finished

/-- A request is admitted if each other is finished or may be served at the same time. -/
def DeletionsApart (service : Service) (request : HttpRequest) : Prop :=
  ∀ thread ∈ service.threads, thread.Finished ∨ request.MayOverlap thread.request

variable {collation : Collation} {limits : Limits} {service : Service}

/-- What can be reached with fewer requests can be reached with more. -/
theorem Reachable.mono {admits admits' : Service → HttpRequest → Prop}
    (reachable : Reachable collation limits admits service)
    (looser : ∀ service request, admits service request → admits' service request) :
    Reachable collation limits admits' service := by
  induction reachable with
  | start clock => exact .start clock
  | step _ step inductionHypothesis =>
      apply Reachable.step inductionHypothesis
      cases step with
      | arrive admitted => exact .arrive (looser _ _ admitted)
      | act answered => exact .act answered

/-- Requests that are served one by one do not overlap. -/
theorem Reachable.deletionsApart (reachable : Reachable collation limits OneByOne service) :
    Reachable collation limits DeletionsApart service :=
  reachable.mono fun _ _ finished thread member => .inl (finished thread member)

/-! ### The invariant -/

/-- The database is filed, the cache knows only stored users, all work that is left is
secure, and requests of the same user are apart from deletions. -/
structure Sound (limits : Limits) (service : Service) : Prop where
  filed : service.world.store.Filed
  coherent : service.world.cache.Coherent service.world.store
  secure : ∀ thread ∈ service.threads,
    Secure limits thread.request service.world.store thread.rest
  apart : service.threads.Pairwise Thread.Apart

/-- The service is sound before the first request. -/
theorem sound_start (limits : Limits) (clock : Timestamp) : (start limits clock).Sound limits where
  filed := Database.filed_empty
  coherent := IdentityCache.coherent_empty _ _
  secure := fun _ member => nomatch member
  apart := .nil

/-- The service stays sound when a request arrives. -/
theorem Sound.arrive {request : HttpRequest} (sound : service.Sound limits)
    (admitted : DeletionsApart service request) :
    Sound limits
      { service with threads := ⟨request, serve limits request⟩ :: service.threads } where
  filed := sound.filed
  coherent := sound.coherent
  secure := List.forall_mem_cons.mpr ⟨serve_secure limits request _, sound.secure⟩
  apart := by
    refine .cons (fun thread member => ?_) sound.apart
    rcases admitted thread member with finished | mayOverlap
    · exact .inr (.inl finished)
    · exact .inr (.inr mayOverlap)

/-- The service stays sound when an action is answered. -/
theorem Sound.act {world later : World Database} {front back : List Thread}
    {request : HttpRequest} {action : Action} {next : action.Answer → Work HttpResponse}
    {answer : action.Answer}
    (sound : Sound limits ⟨world, front ++ ⟨request, .ask action next⟩ :: back⟩)
    (answered : action.Answered collation world answer later) :
    Sound limits ⟨later, front ++ ⟨request, next answer⟩ :: back⟩ := by
  obtain ⟨filed, coherent, secure, apart⟩ := sound
  -- The order of the requests does not matter, so the one that acts may stand first.
  have middle (thread : Thread) : (front ++ thread :: back).Perm (thread :: (front ++ back)) :=
    List.perm_middle
  rw [List.pairwise_middle Thread.Apart.symm,
    List.pairwise_cons] at apart
  have acting := secure ⟨request, .ask action next⟩ ((middle _).mem_iff.mpr List.mem_cons_self)
  have others (thread : Thread) (member : thread ∈ front ++ back) :
      Secure limits thread.request world.store thread.rest :=
    secure thread ((middle _).mem_iff.mpr (List.mem_cons_of_mem _ member))
  obtain ⟨owner, removes, change, coherentLater, removal, acted⟩ :=
    acting.step filed coherent answered
  refine ⟨change.filed filed (answered.keyed filed.keyed), coherentLater, ?_, ?_⟩
  · intro thread member
    rcases List.mem_cons.mp ((middle _).mem_iff.mp member) with rfl | other
    · exact acted
    refine (others thread other).mono filed change fun removing => ?_
    obtain ⟨deletes, identity, named, account⟩ := removal removing
    rcases apart.1 thread other with ⟨_, done⟩ | finished | mayOverlap
    · cases done
    · exact .inl finished
    · refine .inr ?_
      rintro ⟨identity', named', account'⟩
      have same := filed.keyed.subject_unique account account'
      exact (mayOverlap identity identity' named named' same).1 deletes
  · rw [List.pairwise_middle Thread.Apart.symm, List.pairwise_cons]
    refine ⟨fun thread member => ?_, apart.2⟩
    rcases apart.1 thread member with ⟨_, done⟩ | finished | mayOverlap
    · cases done
    · exact .inr (.inl finished)
    · exact .inr (.inr mayOverlap)

/-- The service is always sound if deletions are apart from other requests of the same
user. -/
theorem Reachable.sound (reachable : Reachable collation limits DeletionsApart service) :
    service.Sound limits := by
  induction reachable with
  | start clock => exact sound_start limits clock
  | step _ step inductionHypothesis =>
      cases step with
      | arrive admitted => exact inductionHypothesis.arrive admitted
      | act answered => exact inductionHypothesis.act answered

/-- The notes that an answer of a sound service shows are those of the user who asked. -/
theorem Sound.isFrom_of_shown (sound : service.Sound limits) {thread : Thread}
    (member : thread ∈ service.threads) {response : HttpResponse} {note : Note}
    (done : thread.rest = .done response) (shows : response.content.Shows note) :
    thread.request.IsFrom service.world.store note.owner := by
  have secure := sound.secure thread member
  rw [done] at secure
  cases secure with
  | finished shown => exact shown note shows

/-! ### Serving requests -/

/-- A request may go on while all others wait. -/
theorem Reachable.resume {admits : Service → HttpRequest → Prop} {front back : List Thread}
    {request : HttpRequest} {work rest : Work HttpResponse} {world later : World Database}
    (reachable : Reachable collation limits admits ⟨world, front ++ ⟨request, work⟩ :: back⟩)
    (runs : work.Runs collation world rest later) :
    Reachable collation limits admits ⟨later, front ++ ⟨request, rest⟩ :: back⟩ := by
  induction runs with
  | refl => exact reachable
  | ask answered _ inductionHypothesis =>
      exact inductionHypothesis (.step reachable (.act answered))

/-- A request that is admitted may be served for a while. -/
theorem Reachable.serve {admits : Service → HttpRequest → Prop} {world later : World Database}
    {threads : List Thread} {request : HttpRequest} {rest : Work HttpResponse}
    (reachable : Reachable collation limits admits ⟨world, threads⟩)
    (admitted : admits ⟨world, threads⟩ request)
    (runs : (serve limits request).Runs collation world rest later) :
    Reachable collation limits admits ⟨later, ⟨request, rest⟩ :: threads⟩ := by
  have arrived : Reachable collation limits admits
      ⟨world, [] ++ ⟨request, Notebook.serve limits request⟩ :: threads⟩ :=
    .step reachable (.arrive admitted)
  exact arrived.resume runs

/-! ### Histories

Users sign up and create set 0, post note 0 to it, list its notes and delete it. -/

/-- Values are equal exactly if they are the same, and nothing else is known of them. -/
def plain : Collation where
  compare
    | .eq, stored, given => if stored = given then .true else .false
    | _, _, _ => .unknown
  int_eq_int := by
    intro stored given
    by_cases same : stored = given <;> simp [same]
  text_eq_text := by
    intro stored given
    by_cases same : stored = given <;> simp [same]

/-- A request to create a set. -/
def creation (subject : String) : HttpRequest where
  method := "POST"
  target := "/sets"
  headers := [("x-auth-subject", Utf8.encode subject.toList),
    ("content-type", Utf8.encode "application/json".toList)]
  body := Utf8.encode "[\"errands\",\"daily\"]".toList

/-- A request to post a note to set 0. -/
def posting (subject : String) : HttpRequest where
  method := "POST"
  target := "/notes"
  headers := [("x-auth-subject", Utf8.encode subject.toList),
    ("content-type", Utf8.encode "application/json".toList)]
  body := Utf8.encode "[\"milk\",0]".toList

/-- A request to list the notes of set 0. -/
def listing (subject : String) : HttpRequest where
  method := "GET"
  target := "/sets/0/notes"
  headers := [("x-auth-subject", Utf8.encode subject.toList)]
  body := []

/-- A request to delete set 0. -/
def deletion (subject : String) : HttpRequest where
  method := "DELETE"
  target := "/sets/0"
  headers := [("x-auth-subject", Utf8.encode subject.toList)]
  body := []

/-- The body asks for a set to be created. -/
theorem creation_carries (subject : String) :
    (creation subject).Carries NewSet.ofScan ⟨"errands", .daily⟩ := by
  have tokens : Json.tokens "[\"errands\",\"daily\"]" =
      [.beginArray, .text (some "errands"), .comma, .text (some "daily"), .endArray] := by rfl
  have scanned : (Json.Scan.value (Json.tokens "[\"errands\",\"daily\"]")).1 =
      .array [.text (some "errands"), .text (some "daily")] true := by
    rw [tokens]
    simp [Json.Scan.value, Json.Scan.items]
  exact HttpRequest.carries_of_scan rfl rfl scanned rfl

/-- The body asks for a note to be posted to set 0. -/
theorem posting_carries (subject : String) :
    (posting subject).Carries NewNote.ofScan ⟨"milk", some 0⟩ := by
  have tokens : Json.tokens "[\"milk\",0]" =
      [.beginArray, .text (some "milk"), .comma, .number (.integer 0), .endArray] := by rfl
  have scanned : (Json.Scan.value (Json.tokens "[\"milk\",0]")).1 =
      .array [.text (some "milk"), .number (.integer 0)] true := by
    rw [tokens]
    simp [Json.Scan.value, Json.Scan.items]
  exact HttpRequest.carries_of_scan rfl rfl scanned rfl

/-- The identity of a subject without further headers. -/
def identityOf (subject : String) : NewUser :=
  ⟨subject, subject, ""⟩

/-- The set that is created. -/
def setOf (owner : Int64) : NoteSet :=
  ⟨0, owner, "errands", .daily⟩

/-- The note that is posted. -/
def noteOf (owner : Int64) : Note :=
  ⟨0, owner, some 0, noon.toMicroseconds, "milk", false⟩

/-- The world after set 0 was created by a user who signed up. -/
def created (world : World Database) (subject : String) (owner : Int64) : World Database :=
  (world.signedUp ((identityOf subject).withId owner)).withRow .sets
    (Table.sets.row (setOf owner).values)

/-- The world after note 0 was posted. -/
def posted (world : World Database) (subject : String) (owner : Int64) : World Database :=
  { (world.signedIn subject).withRow .notes (Table.notes.row (noteOf owner).values) with
    clock := noon }

/-- The world before the first request. -/
def begun : World Database :=
  (start {} noon).world

/-- A user who signs up can create set 0 if there is no set. -/
theorem creation_runs {subject : String} {owner : Int64} {world : World Database}
    (named : (creation subject).identity? = some (identityOf subject))
    (uncached : world.cache.useGid subject = (none, world.cache))
    (unknown : (Sql.Query.reading [.star] (Users.subjectQuery subject)).Yields plain.toComparing
      (world.store.rows .users) [])
    (next : Database.IsNextId (world.store.rows .users) owner)
    (enrolled : (world.signedUp ((identityOf subject).withId owner)).store.Keyed)
    (noSets : world.store.rows .sets = []) (keyed : (created world subject owner).store.Keyed) :
    (Notebook.serve {} (creation subject)).Runs plain world
      (.done (Handling.json (setOf owner).toJson)) (created world subject owner) := by
  have routed : Route.ofPath? (creation subject).path = some .sets := by
    unfold creation HttpRequest.path HttpRequest.resource
    dsimp only
    decide
  have signsUp : Succeeds plain (Handling.caller {} (creation subject)) world
      ((identityOf subject).withId owner)
      (world.signedUp ((identityOf subject).withId owner)) :=
    caller_succeeds_of_newcomer {} (identityOf subject) named uncached unknown next enrolled
  have first : Database.IsNextId
      ((world.signedUp ((identityOf subject).withId owner)).store.rows .sets) (setOf owner).id := by
    have same : (world.signedUp ((identityOf subject).withId owner)).store.rows .sets = [] := noSets
    rw [same]
    rfl
  exact createSet_runs routed rfl (creation_carries subject) rfl signsUp first keyed

/-- A lookup finds set 0, if there is no other set. -/
theorem lookup_yields {world : World Database} {owner : Int64}
    (stored : world.store.rows .sets = [Table.sets.row (setOf owner).values]) :
    (Sql.Query.reading [.star] (Belonging.set.lookup 0)).Yields plain.toComparing
      (world.store.rows .sets) [Table.sets.row (setOf owner).values] := by
  rw [stored]
  exact Sql.Query.yields_of_length_le_one (Nat.le_refl 1)

/-- A user whom the cache knows can post note 0 to set 0, if it is the own and the only one. -/
theorem posting_runs {subject : String} {owner : Int64} {world : World Database}
    (named : (posting subject).identity? = some (identityOf subject))
    (cached : (world.cache.useGid subject).1 = some ((identityOf subject).withId owner))
    (stored : world.store.rows .sets = [Table.sets.row (setOf owner).values])
    (noNotes : world.store.rows .notes = []) (keyed : (posted world subject owner).store.Keyed) :
    (Notebook.serve {} (posting subject)).Runs plain world
      (.done (Handling.json (noteOf owner).toJson)) (posted world subject owner) := by
  have routed : Route.ofPath? (posting subject).path = some .notes := by
    unfold posting HttpRequest.path HttpRequest.resource
    dsimp only
    decide
  have signsIn : Succeeds plain (Handling.caller {} (posting subject)) world
      ((identityOf subject).withId owner) (world.signedIn subject) :=
    caller_succeeds_of_cached {} (identityOf subject) named cached
  have found : Succeeds plain (Handling.targetSet ((identityOf subject).withId owner).id 0)
      (world.signedIn subject) (setOf owner) (world.signedIn subject) :=
    .targetSet (lookup_yields stored) rfl rfl
  have first : Database.IsNextId ((world.signedIn subject).store.rows .notes)
      (noteOf owner).id := by
    have same : (world.signedIn subject).store.rows .notes = [] := noNotes
    rw [same]
    rfl
  exact postNote_runs routed rfl (posting_carries subject) rfl rfl signsIn found first keyed

/-- The first user may delete set 0. -/
theorem deletion_runs (world : World Database)
    (cached : (world.cache.useGid "g").1 = some ((identityOf "g").withId 0))
    (stored : world.store.rows .sets = [Table.sets.row (setOf 0).values]) :
    ∃ (filed itself : Statement) (next : Except Error (List Outcome) → Work HttpResponse),
      Table.notes.deleteStatement (.eq "set" (.int 0)) = .ok filed ∧
      Table.sets.deleteStatement (.eq "id" (.int 0)) = .ok itself ∧
      (Notebook.serve {} (deletion "g")).Runs plain world
        (.ask (.store (.executeAtomic [filed, itself])) next) (world.signedIn "g") ∧
      ∀ outcomes, next (.ok outcomes) = .done Handling.noContent := by
  have routed : Route.ofPath? (deletion "g").path = some (.set ['0']) := by decide
  have signsIn : Succeeds plain (Handling.caller {} (deletion "g")) world
      ((identityOf "g").withId 0) (world.signedIn "g") :=
    caller_succeeds_of_cached {} (identityOf "g") rfl cached
  exact deleteSet_runs routed rfl rfl signsIn (.ownedSet (lookup_yields stored) rfl rfl)

/-- The service after subject `g` signed up and created set 0. -/
def settled : Service where
  world := created begun "g" 0
  threads := [⟨creation "g", .done (Handling.json (setOf 0).toJson)⟩]

/-- Subject `g` may sign up and create set 0. -/
theorem settled_reachable {admits : Service → HttpRequest → Prop}
    (admitted : admits (start {} noon) (creation "g")) : Reachable plain {} admits settled :=
  Reachable.serve (.start noon) admitted (creation_runs rfl rfl
    (Sql.Query.yields_of_length_le_one (by decide)) rfl (by decide) rfl (by decide))

/-- The only request so far is finished. -/
theorem settled_finished : ∀ thread ∈ settled.threads, thread.Finished := by
  intro thread member
  obtain rfl := List.mem_singleton.mp member
  exact ⟨_, rfl⟩

/-! ### Isolation -/

/-- If requests are served one by one, every stored note belongs to a stored user, and it is
filed in no set or in a stored set of its owner; and every note that is shown belongs to the
user who asked. -/
theorem notes_stay_filed (reachable : Reachable collation limits OneByOne service) :
    (∀ row ∈ service.world.store.rows .notes, ∃ owner set subject,
      row.get? "owner" = some (.int owner) ∧ row.get? "set" = some (.int set) ∧
        service.world.store.IsAccount owner subject ∧
        (set = -1 ∨ service.world.store.Owns .set owner set)) ∧
    ∀ thread ∈ service.threads, ∀ response note, thread.rest = .done response →
      response.content.Shows note → thread.request.IsFrom service.world.store note.owner := by
  have sound := reachable.deletionsApart.sound
  constructor
  · intro row stored
    obtain ⟨_, owner, set, subject, _, hasOwner, hasSet, account, mayHold⟩ :=
      sound.filed.notes row stored
    exact ⟨owner, set, subject, hasOwner, hasSet, account, mayHold⟩
  · exact fun thread member response note done shows => sound.isFrom_of_shown member done shows

/-- A user who signed up, created a set and posted a note to it owns the set that the note is
filed in, and was shown the note. -/
theorem notes_stay_filed_posting :
    ∃ service, Reachable plain {} OneByOne service ∧
      service.world.store.rows .notes = [Table.notes.row (noteOf 0).values] ∧
      service.world.store.Owns .set 0 0 ∧
      ∃ thread ∈ service.threads, ∃ response, thread.rest = .done response ∧
        response.content.Shows (noteOf 0) ∧ thread.request.IsFrom service.world.store 0 := by
  have first : Reachable plain {} OneByOne settled :=
    settled_reachable fun _ member => nomatch member
  have posts : (Notebook.serve {} (posting "g")).Runs plain (created begun "g" 0)
      (.done (Handling.json (noteOf 0).toJson)) (posted (created begun "g" 0) "g" 0) :=
    posting_runs rfl rfl rfl rfl (by decide)
  have second := first.serve settled_finished posts
  obtain ⟨stored, shown⟩ := notes_stay_filed second
  refine ⟨_, second, rfl, ?_, _, List.mem_cons_self, _, rfl, .inl rfl, ?_⟩
  · obtain ⟨owner, set, subject, hasOwner, hasSet, _, unfiled | owns⟩ :=
      stored (Table.notes.row (noteOf 0).values) List.mem_cons_self
    · rw [unfiled] at hasSet
      cases hasSet
    · cases hasOwner
      cases hasSet
      exact owns
  · exact shown _ List.mem_cons_self _ (noteOf 0) rfl (.inl rfl)

/-- As long as no request of a user is served while another of the same user deletes, users
are isolated from each other, whatever requests are served at the same time and in whatever
order their steps are taken: every row that the next action of a request would rewrite or
remove belongs to the user who made the request, and so does every note that is shown. -/
theorem isolated_apart_from_deletions
    (reachable : Reachable collation limits DeletionsApart service) :
    (∀ thread ∈ service.threads, ∀ action next, thread.rest = .ask action next →
      ∀ table, ∀ row ∈ service.world.store.rows table, action.Touches collation table row →
        ∃ owner, thread.request.IsFrom service.world.store owner ∧
          row.get? "owner" = some (.int owner)) ∧
    ∀ thread ∈ service.threads, ∀ response note, thread.rest = .done response →
      response.content.Shows note → thread.request.IsFrom service.world.store note.owner := by
  have sound := reachable.sound
  constructor
  · intro thread member action next pending table row stored touches
    have secure := sound.secure thread member
    rw [pending] at secure
    exact secure.owner_of_touched sound.filed stored touches
  · exact fun thread member response note done shows => sound.isFrom_of_shown member done shows

/-- While a deletion of a set is pending, a request of another user may arrive, and the row
that is about to be removed belongs to the user who deletes. -/
theorem isolated_apart_from_deletions_pending :
    ∃ service thread action next, Reachable plain {} DeletionsApart service ∧
      ⟨creation "h", Notebook.serve {} (creation "h")⟩ ∈ service.threads ∧
      thread ∈ service.threads ∧ thread.rest = .ask action next ∧
      action.Touches plain .sets (Table.sets.row (setOf 0).values) ∧
      thread.request.IsFrom service.world.store 0 := by
  have first : Reachable plain {} DeletionsApart settled :=
    settled_reachable fun _ member => nomatch member
  obtain ⟨filed, itself, next, _, builtSet, runs, _⟩ := deletion_runs settled.world rfl rfl
  have second := first.serve (fun thread member => .inl (settled_finished thread member)) runs
  have different : (creation "h").MayOverlap (deletion "g") := by
    intro identity other named named' same
    cases named
    cases named'
    cases same
  have apart : DeletionsApart ⟨(created begun "g" 0).signedIn "g",
      [⟨deletion "g", .ask (.store (.executeAtomic [filed, itself])) next⟩,
        ⟨creation "g", .done (Handling.json (setOf 0).toJson)⟩]⟩ (creation "h") := by
    intro thread member
    rcases List.mem_cons.mp member with rfl | old
    · exact .inr different
    · exact .inl (settled_finished thread old)
  have third := Reachable.step second (.arrive apart)
  have touches : (Action.store (.executeAtomic [filed, itself])).Touches plain .sets
      (Table.sets.row (setOf 0).values) := by
    have drafted : (Sql.Draft.delete .sets (.eq "id" (.int 0))).statement = .ok itself := builtSet
    exact ⟨_, itself, rfl, List.mem_cons_of_mem _ (List.mem_singleton_self _), _,
      Sql.Operation.ofStatement?_delete drafted, rfl, by decide⟩
  have pending : (⟨deletion "g", .ask (.store (.executeAtomic [filed, itself])) next⟩ : Thread) ∈
      [⟨creation "h", Notebook.serve {} (creation "h")⟩,
        ⟨deletion "g", .ask (.store (.executeAtomic [filed, itself])) next⟩,
        ⟨creation "g", .done (Handling.json (setOf 0).toJson)⟩] :=
    List.mem_cons_of_mem _ List.mem_cons_self
  refine ⟨_, _, _, _, third, List.mem_cons_self, pending, rfl, touches, ?_⟩
  obtain ⟨owner, isFrom, hasOwner⟩ := (isolated_apart_from_deletions third).1 _ pending _ _ rfl
    .sets _ List.mem_cons_self touches
  cases hasOwner
  exact isFrom

/-- The world after the first user deleted set 0 and the notes in it. -/
def removed (world : World Database) : World Database :=
  { world.signedIn "g" with
    store := (world.store.without plain .notes "set" 0).without plain .sets "id" 0 }

/-- The first user may complete a deletion of set 0. -/
theorem deletion_completes {world : World Database}
    (cached : (world.cache.useGid "g").1 = some ((identityOf "g").withId 0))
    (stored : world.store.rows .sets = [Table.sets.row (setOf 0).values]) :
    (Notebook.serve {} (deletion "g")).Runs plain world (.done Handling.noContent)
      (removed world) := by
  obtain ⟨filed, itself, next, builtNotes, builtSet, runs, confirms⟩ :=
    deletion_runs world cached stored
  obtain ⟨outcomes, answered⟩ := Request.Answered.of_deleteBoth builtNotes builtSet
  refine runs.trans (.ask (.store answered) ?_)
  rw [confirms outcomes]
  exact .refl _ _

/-- The first user may ask for the notes of set 0, and is found to own it before they are
read. -/
theorem listing_begins (world : World Database)
    (cached : (world.cache.useGid "g").1 = some ((identityOf "g").withId 0))
    (stored : world.store.rows .sets = [Table.sets.row (setOf 0).values]) :
    ∃ (page : Statement) (next : Except Error Outcome → Work HttpResponse),
      (Notes.pageQuery {} (.eq "set" (.int 0)) .asc none).statement = .ok page ∧
      (Notebook.serve {} (listing "g")).Runs plain world
        (.ask (.store (.execute page)) next) (world.signedIn "g") ∧
      ∀ outcome notes, outcome.readAll Note.ofRow = .ok notes →
        next (.ok outcome) = .done (Handling.json (.array (notes.map Note.toJson))) := by
  have routed : Route.ofPath? (listing "g").path = some (.setNotes ['0']) := by decide
  have signsIn : Succeeds plain (Handling.caller {} (listing "g")) world
      ((identityOf "g").withId 0) (world.signedIn "g") :=
    caller_succeeds_of_cached {} (identityOf "g") rfl cached
  exact listSetNotes_runs routed rfl rfl rfl rfl signsIn (.ownedSet (lookup_yields stored) rfl rfl)

/-- The world after subject `g` began to list the notes of set 0 and deleted it, and subject
`h` created another set 0. -/
def reused : World Database :=
  created (removed ((created begun "g" 0).signedIn "g")) "h" 1

/-- Users are not isolated from each other if requests may arrive at any time: a listing of
the notes of a set finds that the set is the caller's, the caller deletes the set in another
request, the id of the set is given out again to another user who posts a note to it, and the
listing shows that note. -/
theorem not_isolated_from_reused_id :
    ∃ service response, Reachable plain {} Anytime service ∧
      ⟨listing "g", .done response⟩ ∈ service.threads ∧ response.content.Shows (noteOf 1) ∧
      service.world.store.IsAccount 1 "h" ∧ ¬ (listing "g").IsFrom service.world.store 1 := by
  have creates : Reachable plain {} Anytime settled := settled_reachable trivial
  obtain ⟨page, next, built, begins, ends⟩ := listing_begins settled.world rfl rfl
  -- The listing waits, and set 0 changes hands.
  have deletes := (creates.serve trivial begins).serve trivial (deletion_completes rfl rfl)
  have creationAgain : (Notebook.serve {} (creation "h")).Runs plain
      (removed ((created begun "g" 0).signedIn "g")) (.done (Handling.json (setOf 1).toJson))
      reused :=
    creation_runs rfl rfl (Sql.Query.yields_of_length_le_one (by decide)) rfl (by decide) rfl
      (by decide)
  have keyed : (posted reused "h" 1).store.Keyed := by decide
  have posts : Reachable plain {} Anytime ⟨posted reused "h" 1,
      [⟨posting "h", .done (Handling.json (noteOf 1).toJson)⟩,
        ⟨creation "h", .done (Handling.json (setOf 1).toJson)⟩,
        ⟨deletion "g", .done Handling.noContent⟩] ++
      ⟨listing "g", .ask (.store (.execute page)) next⟩ ::
        [⟨creation "g", .done (Handling.json (setOf 0).toJson)⟩]⟩ :=
    (deletes.serve trivial creationAgain).serve trivial (posting_runs rfl rfl rfl rfl keyed)
  -- Now the page is read.
  have yields : (Sql.Query.reading [.star]
      (Notes.pageQuery {} (.eq "set" (.int 0)) .asc none)).Yields plain.toComparing
      ((posted reused "h" 1).store.rows .notes) [Table.notes.row (noteOf 1).values] :=
    Sql.Query.yields_of_length_le_one (by decide)
  have reads : (Outcome.ofRows [Table.notes.row (noteOf 1).values]).readAll Note.ofRow =
      .ok [noteOf 1] := rfl
  have shows := posts.resume (.ask (.store (.of_query _ built rfl yields)) (.refl _ _))
  rw [ends _ _ reads] at shows
  have account : (posted reused "h" 1).store.IsAccount 1 "h" :=
    ⟨_, List.mem_cons_self, rfl, rfl⟩
  refine ⟨_, Handling.json (.array ([noteOf 1].map Note.toJson)), shows, ?_, ?_, account, ?_⟩
  · exact List.mem_append_right _ List.mem_cons_self
  · exact .inr ⟨_, rfl, List.mem_singleton_self _⟩
  · rintro ⟨identity, named, other⟩
    have subject : some identity = some (identityOf "g") := named.symm
    cases subject
    exact absurd (keyed.subject_unique other account) (by decide)

end Service

end Notebook
