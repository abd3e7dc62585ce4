import Notebook.Proofs.Ownership.Gate
import Notebook.Proofs.Ownership.SignIn
import Notebook.Proofs.Store.Playback

/-!
# Foreign things look like missing ones

Work conceals other people's things from an owner if it goes on from a lookup that found
somebody else's exactly as from one that found nothing. All work of the endpoints does
(`Conceals`), so two stores that differ only in such an answer serve a request alike, and
nothing that is sent or answered tells one from the other (`foreign_looks_missing`).
-/

namespace Notebook

open Notebook.Sql

/-! ### Lookups among statements -/

/-- The statement looks a note or a set up by its id. -/
def Statement.IsLookup (statement : Statement) : Prop :=
  ∃ kind : Belonging, ∃ id, (kind.lookup id).statement = .ok statement

/-- A query with an order is no lookup. -/
theorem Statement.not_isLookup_of_order {query : Select} {statement : Statement}
    (built : query.statement = .ok statement) (star : query.outputs = ["*"])
    (ordered : query.order ≠ none) : ¬ statement.IsLookup := by
  rintro ⟨kind, id, built'⟩
  exact ordered (Select.order_unique built star built' (kind.outputs_lookup id))

/-- A mutation is no lookup. -/
theorem Statement.not_isLookup_of_mutation {draft : Draft} {statement : Statement}
    (built : draft.statement = .ok statement) (mutates : draft.kind = .mutation) :
    ¬ statement.IsLookup := by
  rintro ⟨kind, id, built'⟩
  exact Sql.Draft.ne_select built mutates built'

/-- A query of users is no lookup. -/
theorem Statement.not_isLookup_of_users {query : Select} {statement : Statement}
    (built : query.statement = .ok statement) (users : query.table = .users) :
    ¬ statement.IsLookup := by
  rintro ⟨kind, id, built'⟩
  have same : kind.table = .users := (Select.table_unique built' built).trans users
  cases kind <;> cases same

/-- The query for the next id is no lookup. -/
theorem Statement.not_isLookup_of_nextId {table : Table} {statement : Statement}
    (built : table.nextIdQuery.statement = .ok statement) : ¬ statement.IsLookup := by
  rintro ⟨kind, id, built'⟩
  have reads := Select.reading_of_statement built' (kind.outputs_lookup id)
  rw [Operation.ofStatement?_nextId built] at reads
  cases reads

/-- The action sends no lookup. -/
def Action.Overlooks (action : Action) : Prop :=
  ∀ request statement, action = .store request → request.Sends statement →
    ¬ statement.IsLookup

/-- Running a statement that is no lookup sends none. -/
theorem Action.overlooks_execute {statement : Statement} (plain : ¬ statement.IsLookup) :
    (Action.store (.execute statement)).Overlooks := by
  rintro request sent same sends
  cases same
  cases sends
  exact plain

/-- Inserting under the next id sends no lookup. -/
theorem Action.Allocates.overlooks {table : Table} {values : Int64 → List Value}
    {action : Action} (allocates : action.Allocates table values) : action.Overlooks := by
  obtain ⟨query, built, rfl⟩ := allocates
  rintro request sent same sends
  cases same
  rcases sends with rfl | ⟨outcome, builtTail⟩
  · exact Statement.not_isLookup_of_nextId built
  · obtain ⟨id, _, inserts⟩ := Except.bind_eq_ok_iff.mp builtTail
    have drafted : (Draft.insert table (values id)).statement = .ok sent := inserts
    exact Statement.not_isLookup_of_mutation drafted rfl

/-- Signing in sends no lookup. -/
theorem SignsIn.overlooks {identity : NewUser} {said : Conversation} {action : Action}
    (may : SignsIn identity said action) : action.Overlooks := by
  cases may with
  | useGid => rintro _ _ ⟨⟩
  | epoch => rintro _ _ ⟨⟩
  | keep => rintro _ _ ⟨⟩
  | insert => rintro _ _ ⟨⟩
  | look queries =>
      obtain ⟨statement, built, rfl⟩ := queries
      exact Action.overlooks_execute (Statement.not_isLookup_of_users built rfl)
  | enroll allocates => exact allocates.overlooks

/-! ### Concealment -/

/-- The two answers to a lookup that are to look alike: no row, and a row of a thing that is
somebody else's. -/
inductive Veiled (owner : Int64) : (action : Action) → action.Answer → action.Answer → Prop
  | lookup {kind : Belonging} {id : Int64} {statement : Statement} {missing foreign : Outcome}
      {thing : kind.Thing} (built : (kind.lookup id).statement = .ok statement)
      (empty : missing.rows = []) (readable : foreign.readFirst kind.read = .ok (some thing))
      (other : kind.owner thing ≠ owner) :
      Veiled owner (.store (.execute statement)) (.ok missing) (.ok foreign)

/-- Only lookups have such answers. -/
theorem Veiled.isLookup {owner : Int64} {statement : Statement}
    {missing foreign : Except Error Outcome}
    (veiled : Veiled owner (.store (.execute statement)) missing foreign) :
    statement.IsLookup := by
  cases veiled with
  | lookup built => exact ⟨_, _, built⟩

/-- Work goes on alike whether nothing was found or a thing that is not the owner's, and looks
things up by themselves. -/
inductive Conceals {α : Type} (owner : Int64) : Work α → Prop
  | done (result : α) : Conceals owner (.done result)
  | ask {action : Action} {next : action.Answer → Work α}
      (alone : action.Overlooks ∨ ∃ statement, action = .store (.execute statement))
      (alike : ∀ missing foreign, Veiled owner action missing foreign →
        next foreign = next missing)
      (later : ∀ answer, Conceals owner (next answer)) : Conceals owner (.ask action next)

namespace Conceals

variable {owner : Int64} {ε α β : Type}

/-- Work in a row conceals if each part does. -/
theorem bind {work : Work α} {next : α → Work β} (first : Conceals owner work)
    (later : ∀ result, Conceals owner (next result)) : Conceals owner (work >>= next) := by
  induction first with
  | done result => exact later result
  | ask alone alike _ inductionHypothesis =>
      exact .ask alone (fun missing foreign veiled => congrArg (· >>= next)
        (alike missing foreign veiled)) inductionHypothesis

/-- Work in a row that may fail conceals if each part does. -/
theorem andThen {work : ExceptT ε (Program Action Action.Answer) α}
    {next : α → ExceptT ε (Program Action Action.Answer) β} (first : Conceals owner work.run)
    (later : ∀ value, Conceals owner (next value).run) : Conceals owner (work >>= next).run := by
  refine first.bind fun result => ?_
  cases result with
  | ok value => exact later value
  | error error => exact .done _

/-- Work that asks for no lookup conceals. -/
theorem of_meets {may : Conversation → Action → Prop} {ends : Conversation → α → Prop}
    {said : Conversation} {work : Work α} (meets : Program.Meets may ends said work)
    (plain : ∀ said action, may said action → action.Overlooks) : Conceals owner work := by
  induction meets with
  | done => exact .done _
  | ask allowed _ inductionHypothesis =>
      refine .ask (.inl (plain _ _ allowed)) (fun missing foreign veiled => ?_) inductionHypothesis
      cases veiled with
      | lookup built => exact absurd ⟨_, _, built⟩ (plain _ _ allowed _ _ rfl rfl)

/-- A job conceals if it does when its error refuses the request. -/
theorem ofJob {job : Job α} (conceals : Conceals owner job.run) :
    Conceals owner (Handling.ofJob job).run :=
  conceals.bind fun _ => .done _

/-- What follows a result that is known conceals if it does for the value. -/
theorem ofExcept {result : Except Error α} {next : α → Job β}
    (later : ∀ value, result = .ok value → Conceals owner (next value).run) :
    Conceals owner (Job.ofExcept result >>= next).run := by
  cases result with
  | ok value => exact later value rfl
  | error error => exact .done _

/-- A statement that is no lookup conceals. -/
theorem execute {statement : Statement} (plain : ¬ statement.IsLookup) :
    Conceals owner (Job.execute statement).run := by
  refine .ask (.inr ⟨_, rfl⟩) (fun missing foreign veiled => ?_) fun _ => .done _
  exact absurd veiled.isLookup plain

/-- A page conceals, since a query with an order is no lookup. -/
theorem page {query : Select} {read : Outcome → Except Error α} (star : query.outputs = ["*"])
    (ordered : query.order ≠ none) : Conceals owner (Handling.ofJob (do
      let statement ← Job.ofExcept query.statement
      let outcome ← Job.execute statement
      Job.ofExcept (read outcome))).run := by
  refine ofJob (ofExcept fun statement built => ?_)
  exact andThen (execute (Statement.not_isLookup_of_order built star ordered)) fun _ => .done _

/-- A mutation conceals, since it is no lookup. -/
theorem mutation (draft : Draft) (mutates : draft.kind = .mutation) {rest : Outcome → Job α}
    (later : ∀ outcome, Conceals owner (rest outcome).run) : Conceals owner (Handling.ofJob (do
      let statement ← Job.ofExcept draft.statement
      let outcome ← Job.execute statement
      rest outcome)).run := by
  refine ofJob (ofExcept fun statement built => ?_)
  exact andThen (execute (Statement.not_isLookup_of_mutation built mutates)) later

/-- Inserting under the next id conceals. -/
theorem insertWithNextId (table : Table) (attempts : Nat) (values : Int64 → List Value) :
    Conceals owner (table.insertWithNextId attempts values).run := by
  have attempted : Attempts (fun _ action => action.Allocates table values)
      (fun _ (_ : Int64) => True) (fun _ (_ : Error) => True) []
      (table.insertWithNextId attempts values) :=
    .insertWithNextId (fun _ => True) trivial (fun _ _ _ allocates => allocates)
      (fun _ _ _ _ _ _ => trivial) (fun _ _ _ => trivial) (fun _ _ _ => trivial)
  exact of_meets attempted fun _ _ allocates => allocates.overlooks

/-- How work goes on with what a job gave. -/
def goOn (next : α → Handling β) : Except Error α → Work (Except Refusal β)
  | .ok value => (next value).run
  | .error error => .done (.error (Refusal.ofError error))

/-- Getting a thing is asking one lookup. -/
theorem get_run {kind : Belonging} {id : Int64} {statement : Statement}
    (built : (kind.lookup id).statement = .ok statement)
    (next : Option kind.Thing → Handling β) :
    (Handling.ofJob (kind.get id) >>= next).run = .ask (.store (.execute statement))
      fun answer => goOn next (answer.bind fun outcome => outcome.readFirst kind.read) := by
  unfold Belonging.get
  rw [built]
  refine congrArg (Program.ask _) (funext fun answer => ?_)
  cases answer with
  | error error => rfl
  | ok outcome =>
      show ExceptT.bindCont next (Except.mapError Refusal.ofError (outcome.readFirst kind.read)) =
        goOn next (outcome.readFirst kind.read)
      generalize outcome.readFirst kind.read = found
      cases found <;> rfl

/-- A lookup conceals if work goes on with a thing of somebody else as with none. -/
theorem get {kind : Belonging} {id : Int64} {next : Option kind.Thing → Handling β}
    (alike : ∀ thing, kind.owner thing ≠ owner → next (some thing) = next none)
    (later : ∀ found, Conceals owner (next found).run) :
    Conceals owner (Handling.ofJob (kind.get id) >>= next).run := by
  cases built : (kind.lookup id).statement with
  | error error =>
      unfold Belonging.get
      rw [built]
      exact .done _
  | ok statement =>
      rw [get_run built]
      refine .ask (.inr ⟨_, rfl⟩) (fun missing foreign veiled => ?_) fun answer => ?_
      · cases veiled with
        | @lookup kind' _ _ missing foreign thing built' empty readable other =>
            obtain rfl := Belonging.eq_of_lookup built' built
            have nothing : missing.readFirst kind'.read = .ok none := by
              unfold Outcome.readFirst
              rw [empty]
            show goOn next (foreign.readFirst kind'.read) = goOn next (missing.readFirst kind'.read)
            rw [nothing, readable]
            exact congrArg ExceptT.run (alike thing other)
      · cases answer.bind fun outcome => outcome.readFirst kind.read with
        | ok found => exact later found
        | error error => exact .done _

/-- The lookup of a thing conceals: what is not the owner's is refused as what is not there. -/
theorem owned (kind : Belonging) (id : Int64) (refusal : Refusal) :
    Conceals owner (Handling.owned (kind.get id) kind.owner owner refusal).run := by
  refine get (fun thing other => ?_) fun found => ?_
  · rw [Option.filter_some_neg (by simpa using other)]
    rfl
  · split
    · exact .done _
    · exact .done _

/-- The lookup of the caller's note conceals. -/
theorem ownedNote (id : Int64) : Conceals owner (Handling.ownedNote owner id).run := by
  rw [Handling.ownedNote_eq]
  exact owned .note id _

/-- The lookup of the caller's set conceals. -/
theorem ownedSet (id : Int64) : Conceals owner (Handling.ownedSet owner id).run := by
  rw [Handling.ownedSet_eq]
  exact owned .set id _

/-- The lookup of the set that a note is to be filed in conceals. -/
theorem targetSet (id : Int64) : Conceals owner (Handling.targetSet owner id).run := by
  rw [Handling.targetSet_eq]
  exact owned .set id _

/-- A look at a path segment asks nothing. -/
theorem pathId (segment : List Char) : Conceals owner (Handling.pathId segment).run := by
  unfold Handling.pathId
  split <;> exact .done _

/-- A look at the query of a listing asks nothing. -/
theorem notesQuery (request : HttpRequest) : Conceals owner (Handling.notesQuery request).run := by
  unfold Handling.notesQuery
  split <;> exact .done _

/-- A look at the query of a page asks nothing. -/
theorem pageQuery (request : HttpRequest) : Conceals owner (Handling.pageQuery request).run := by
  unfold Handling.pageQuery
  split <;> exact .done _

/-- A look at a body asks nothing. -/
theorem body (read : Json.Scan → Except Json.Fault α) (request : HttpRequest) :
    Conceals owner (Handling.body read request).run := by
  obtain ⟨result, settled, _⟩ := Handling.body_run read request
  rw [settled]
  exact .done _

/-- An empty update asks nothing. -/
theorem refuseEmpty (isEmpty : Bool) : Conceals owner (Handling.refuseEmpty isEmpty).run := by
  unfold Handling.refuseEmpty
  split <;> exact .done _

/-- A change of a row that has to exist conceals. -/
theorem edit (draft : Draft) (mutates : draft.kind = .mutation) (missing : Missing) :
    Conceals owner (Handling.ofJob (do
      let statement ← Job.ofExcept draft.statement
      let outcome ← Job.execute statement
      if outcome.count = 0 then
        throw (.notFound missing))).run := by
  refine mutation draft mutates fun outcome => ?_
  split <;> exact .done _

/-- The deletion of a set conceals. -/
theorem deleteSet (id : Int64) : Conceals owner (Handling.ofJob (Sets.delete id)).run := by
  refine ofJob (ofExcept fun filed builtNotes => ofExcept fun itself builtSet => ?_)
  have plain : (Action.store (.executeAtomic [filed, itself])).Overlooks := by
    rintro request sent same sends
    cases same
    have draftedNotes : (Draft.delete .notes (.eq "set" (.int id))).statement = .ok filed :=
      builtNotes
    have draftedSet : (Draft.delete .sets (.eq "id" (.int id))).statement = .ok itself := builtSet
    rcases List.mem_cons.mp sends with rfl | last
    · exact Statement.not_isLookup_of_mutation draftedNotes rfl
    · cases List.mem_singleton.mp last
      exact Statement.not_isLookup_of_mutation draftedSet rfl
  refine .ask (.inl plain) (fun missing foreign veiled => nomatch veiled) fun answer => ?_
  cases answer <;> exact .done _

/-- Posting a note conceals. -/
theorem post (limits : Limits) (body : String) (set : Option NoteSet) :
    Conceals owner (Handling.ofJob (Notes.post limits owner body set)).run := by
  refine ofJob (andThen ?_ fun time => andThen (insertWithNextId _ _ _) fun _ => .done _)
  have plain : Action.Overlooks .now := by rintro _ _ ⟨⟩
  exact .ask (.inl plain) (fun missing foreign veiled => nomatch veiled) fun _ => .done _

/-- Creating a set conceals. -/
theorem create (limits : Limits) (new : NewSet) :
    Conceals owner (Handling.ofJob (Sets.create limits owner new)).run :=
  ofJob (andThen (insertWithNextId _ _ _) fun _ => .done _)

end Conceals

/-! ### Endpoints -/

section Endpoints

variable (limits : Limits) (request : HttpRequest)

/-- Looking for a caller sends no lookup. -/
theorem conceals_caller? (owner : Int64) :
    Conceals owner (Handling.caller? limits request).run := by
  cases named : request.identity? with
  | none =>
      unfold Handling.caller?
      rw [named]
      exact .done _
  | some identity => exact .of_meets (attempts_caller? limits named) fun _ _ may => may.overlooks

/-- Signing a caller in sends no lookup. -/
theorem conceals_caller (owner : Int64) : Conceals owner (Handling.caller limits request).run := by
  refine (conceals_caller? limits request owner).andThen fun found => ?_
  cases found <;> exact .done _

/-- Each endpoint that signs its caller in conceals from then on. -/
theorem conceals_endpoint {endpoint : Endpoint}
    (signsIn : endpoint ≠ .ping ∧ endpoint ≠ .authStatus) :
    ∃ next : User → Handling HttpResponse,
      Handling.endpoint limits request endpoint = Handling.caller limits request >>= next ∧
      ∀ user, Conceals user.id (next user).run := by
  cases endpoint with
  | ping => exact absurd rfl signsIn.1
  | authStatus => exact absurd rfl signsIn.2
  | listNotes =>
      refine ⟨_, rfl, fun user => ?_⟩
      refine (Conceals.notesQuery request).andThen fun query => ?_
      refine (Conceals.ofJob (.done _)).andThen fun listing => ?_
      exact (Conceals.page rfl (by simp [Notes.pageQuery])).andThen fun notes => .done _
  | postNote =>
      refine ⟨_, rfl, fun user => ?_⟩
      refine (Conceals.body _ request).andThen fun new => ?_
      refine Conceals.andThen ?_ fun set => (Conceals.post limits _ _).andThen fun _ => .done _
      cases new.set with
      | none => exact .done _
      | some set => exact (Conceals.targetSet set).andThen fun _ => .done _
  | getNote segment =>
      refine ⟨_, rfl, fun user => ?_⟩
      refine (Conceals.pathId segment).andThen fun id => ?_
      exact (Conceals.ownedNote id).andThen fun note => .done _
  | updateNote segment =>
      refine ⟨_, rfl, fun user => ?_⟩
      refine (Conceals.pathId segment).andThen fun id => ?_
      refine (Conceals.body _ request).andThen fun changes => ?_
      refine (Conceals.ownedNote id).andThen fun _ => ?_
      have edits : Conceals user.id (ExceptT.run (do
          Handling.refuseEmpty changes.isEmpty
          Handling.ofJob (Notes.edit id changes)
          let note ← Handling.ownedNote user.id id
          return Handling.json note.toJson)) := by
        refine (Conceals.refuseEmpty _).andThen fun _ => ?_
        refine (Conceals.edit (.update .notes (.eq "id" (.int id)) changes.assignments) rfl
          (.note id)).andThen fun _ => ?_
        exact (Conceals.ownedNote id).andThen fun note => .done _
      dsimp only
      split
      · exact (Conceals.targetSet _).andThen fun _ => edits
      · exact edits
  | deleteNote segment =>
      refine ⟨_, rfl, fun user => ?_⟩
      refine (Conceals.pathId segment).andThen fun id => ?_
      refine (Conceals.ownedNote id).andThen fun note => ?_
      refine Conceals.andThen (Conceals.mutation (.delete .notes (.eq "id" (.int id))) rfl
        fun _ => .done _) fun _ => .done _
  | listSets =>
      refine ⟨_, rfl, fun user => ?_⟩
      refine (Conceals.pageQuery request).andThen fun query => ?_
      refine (Conceals.ofJob (.done _)).andThen fun offset => ?_
      exact (Conceals.page rfl (by simp [Sets.listQuery])).andThen fun sets => .done _
  | createSet =>
      refine ⟨_, rfl, fun user => ?_⟩
      refine (Conceals.body _ request).andThen fun new => ?_
      exact (Conceals.create limits new).andThen fun set => .done _
  | getSet segment =>
      refine ⟨_, rfl, fun user => ?_⟩
      refine (Conceals.pathId segment).andThen fun id => ?_
      exact (Conceals.ownedSet id).andThen fun set => .done _
  | updateSet segment =>
      refine ⟨_, rfl, fun user => ?_⟩
      refine (Conceals.pathId segment).andThen fun id => ?_
      refine (Conceals.body _ request).andThen fun changes => ?_
      refine (Conceals.ownedSet id).andThen fun _ => ?_
      refine (Conceals.refuseEmpty _).andThen fun _ => ?_
      refine (Conceals.edit (.update .sets (.eq "id" (.int id)) changes.assignments) rfl
        (.set id)).andThen fun _ => ?_
      exact (Conceals.ownedSet id).andThen fun set => .done _
  | deleteSet segment =>
      refine ⟨_, rfl, fun user => ?_⟩
      refine (Conceals.pathId segment).andThen fun id => ?_
      refine (Conceals.ownedSet id).andThen fun _ => ?_
      exact (Conceals.deleteSet id).andThen fun _ => .done _
  | listSetNotes segment =>
      refine ⟨_, rfl, fun user => ?_⟩
      refine (Conceals.pathId segment).andThen fun id => ?_
      refine (Conceals.pageQuery request).andThen fun query => ?_
      refine (Conceals.ownedSet id).andThen fun _ => ?_
      refine (Conceals.ofJob (.done _)).andThen fun offset => ?_
      exact (Conceals.page rfl (by simp [Notes.pageQuery])).andThen fun notes => .done _

end Endpoints

/-! ### Two runs -/

section Runs

variable {α : Type} {owner : Int64} {statement : Statement} {missing foreign : Outcome}
  {place : Nat}

/-- Work that conceals runs alike on both stores: until the answer that differs is taken the
stores stay apart, and if it is taken nothing differs any more. -/
theorem Conceals.run {work : Work α} (conceals : Conceals owner work)
    (veiled : Veiled owner (.store (.execute statement)) (.ok missing) (.ok foreign))
    {world : World Script} {script : Script}
    (apart : Script.Apart place (.ok missing) (.ok foreign) world.store script)
    (looked : ∀ recorded, (World.run Script.answering work world).2.store.sent[place]? =
      some recorded → recorded = statement) :
    World.run Script.answering work { world with store := script } =
      World.run Script.answering work world ∨
    ∃ result later script',
      World.run Script.answering work world = (result, later) ∧
      World.run Script.answering work { world with store := script } =
        (result, { later with store := script' }) ∧
      Script.Apart place (.ok missing) (.ok foreign) later.store script' := by
  induction conceals generalizing world script with
  | done result => exact .inr ⟨result, world, script, rfl, rfl, apart⟩
  | @ask action next alone alike _ inductionHypothesis =>
      cases action with
      | cache call =>
          have kept : Script.Apart place (.ok missing) (.ok foreign)
              (World.mk world.store (IdentityCache.perform call world.cache).2 world.clock).store
              script := apart
          exact inductionHypothesis _ kept looked
      | now => exact inductionHypothesis world.clock apart looked
      | store request =>
          obtain ⟨front, back, answers, rfl, atPlace⟩ := apart
          obtain ⟨⟨_, sent, locks, batches, meanwhile⟩, cache, clock⟩ := world
          cases answers
          have rest : Script.Apart place (.ok missing) (.ok foreign)
              ⟨front ++ .ok missing :: back, sent, locks, batches, meanwhile.tail⟩
              ⟨front ++ .ok foreign :: back, sent, locks, batches, meanwhile.tail⟩ :=
            ⟨front, back, rfl, rfl, atPlace⟩
          have compared := rest.respond request
          -- What others do to the cache meanwhile is the same on both sides.
          rw [Script.run_ask_store] at looked ⊢
          rw [Script.run_ask_store]
          generalize Script.respond request ⟨front ++ .ok missing :: back, sent, locks, batches,
            meanwhile.tail⟩ = first at compared looked ⊢
          generalize Script.respond request ⟨front ++ .ok foreign :: back, sent, locks, batches,
            meanwhile.tail⟩ = second at compared ⊢
          cases compared with
          | alike compared =>
              cases compared with
              | intro result apart => exact inductionHypothesis result apart looked
          | @met _ later recorded =>
              have same := looked _ (Script.getElem?_of_prefix
                (Script.sent_prefix_run (next (.ok missing)) ⟨later, _, clock⟩) recorded)
              rw [← same] at veiled
              exact .inl (by rw [alike _ _ veiled])
          | among several sends recorded =>
              have same := looked _ (Script.getElem?_of_prefix
                (Script.sent_prefix_run (next first.1) ⟨first.2, _, clock⟩) recorded)
              rcases alone with overlooks | ⟨only, single⟩
              · rw [same] at sends
                exact absurd veiled.isLookup (overlooks request _ rfl sends)
              · cases single
                exact absurd rfl (several only)

/-- If the answer that differs is taken by the lookup, the runs are the same. -/
theorem Conceals.run_eq {work : Work α} (conceals : Conceals owner work)
    (veiled : Veiled owner (.store (.execute statement)) (.ok missing) (.ok foreign))
    {world : World Script} {script : Script}
    (apart : Script.Apart place (.ok missing) (.ok foreign) world.store script)
    (asked : (World.run Script.answering work world).2.store.sent[place]? = some statement) :
    World.run Script.answering work { world with store := script } =
      World.run Script.answering work world := by
  have looked (recorded : Statement)
      (found : (World.run Script.answering work world).2.store.sent[place]? = some recorded) :
      recorded = statement := by
    rw [asked] at found
    exact (Option.some.inj found).symm
  rcases conceals.run veiled apart looked with
    same | ⟨result, later, script', run, _, front, back, _, _, atPlace⟩
  · exact same
  -- An answer that was not taken is behind the end of the record.
  · rw [run] at asked
    have within := (List.getElem?_eq_some_iff.mp asked).1
    dsimp only at within
    omega

end Runs

/-- Serving a request sends no lookup, or signs the caller in and conceals from then on. -/
theorem conceals_serve (limits : Limits) (request : HttpRequest) :
    (∀ owner, Conceals owner (serve limits request)) ∨
    ∃ next : Except Refusal User → Work HttpResponse,
      serve limits request = (Handling.caller limits request).run >>= next ∧
      ∀ user, Conceals user.id (next (.ok user)) := by
  have answers (owner : Int64) (result : Except Refusal HttpResponse) :
      Conceals owner (if request.method = "HEAD" then
        (pure { HttpResponse.ofResult result with content := .empty } : Work HttpResponse)
        else pure (HttpResponse.ofResult result)) := by
    split <;> exact .done _
  unfold serve
  split
  next => exact .inl fun owner => .done _
  next route _ =>
    split
    next => exact .inl fun owner => .done _
    next endpoint _ =>
      by_cases signsIn : endpoint ≠ .ping ∧ endpoint ≠ .authStatus
      · obtain ⟨next, same, conceals⟩ := conceals_endpoint limits request signsIn
        rw [same]
        exact .inr ⟨_, Program.bind_assoc _ _ _, fun user => (conceals user).bind (answers user.id)⟩
      · refine .inl fun owner => Conceals.bind ?_ (answers owner)
        rcases not_and_or.mp signsIn with ping | authStatus
        · rw [not_ne_iff.mp ping]
          exact .done _
        · rw [not_ne_iff.mp authStatus]
          exact (conceals_caller? limits request owner).andThen fun _ => .done _

/-- The world whose store plays back these answers. -/
def World.playing (world : World Script) (answers : List (Except Error Outcome)) : World Script :=
  { world with store := { world.store with answers } }

/-- Two scripts that are the same but for the answer to a lookup, which is empty in one and a
thing of somebody else in the other, serve a request of a signed-in caller alike: the response
is the same, and so is all that was sent and everything that is left behind. -/
theorem foreign_looks_missing (limits : Limits) (request : HttpRequest) (world : World Script)
    (front back : List (Except Error Outcome)) {user : User} {kind : Belonging} {id : Int64}
    {lookup : Statement} {missing foreign : Outcome} {thing : kind.Thing}
    (signedIn : (World.run Script.answering (Handling.caller limits request).run
      (world.playing (front ++ .ok missing :: back))).1 = .ok user)
    (built : (kind.lookup id).statement = .ok lookup)
    (asked : (World.run Script.answering (serve limits request)
      (world.playing (front ++ .ok missing :: back))).2.store.sent[
        world.store.sent.length + front.length]? = some lookup)
    (empty : missing.rows = []) (readable : foreign.readFirst kind.read = .ok (some thing))
    (other : kind.owner thing ≠ user.id) :
    World.run Script.answering (serve limits request)
        (world.playing (front ++ .ok foreign :: back)) =
      World.run Script.answering (serve limits request)
        (world.playing (front ++ .ok missing :: back)) := by
  have veiled : Veiled user.id (.store (.execute lookup)) (.ok missing) (.ok foreign) :=
    .lookup built empty readable other
  have apart : Script.Apart (world.store.sent.length + front.length) (.ok missing) (.ok foreign)
      (world.playing (front ++ .ok missing :: back)).store
      (world.playing (front ++ .ok foreign :: back)).store := ⟨front, back, rfl, rfl, rfl⟩
  have bound (next : Except Refusal User → Work HttpResponse) (start : World Script) :
      World.run Script.answering ((Handling.caller limits request).run >>= next) start =
        World.run Script.answering
          (next (World.run Script.answering (Handling.caller limits request).run start).1)
          (World.run Script.answering (Handling.caller limits request).run start).2 :=
    Program.run_bind _ _ _ _
  rcases conceals_serve limits request with conceals | ⟨next, same, conceals⟩
  · exact (conceals user.id).run_eq veiled apart asked
  rw [same, bound] at asked
  rw [same, bound, bound]
  have looked (recorded : Statement)
      (found : (World.run Script.answering (Handling.caller limits request).run
        (world.playing (front ++ .ok missing :: back))).2.store.sent[
          world.store.sent.length + front.length]? = some recorded) : recorded = lookup := by
    refine Option.some.inj ?_
    rw [← asked]
    exact (Script.getElem?_of_prefix (Script.sent_prefix_run _ _) found).symm
  rcases (conceals_caller limits request user.id).run veiled apart looked with
    alike | ⟨result, later, script', run, run', still⟩
  · exact congrArg (fun done => World.run Script.answering (next done.1) done.2) alike
  · have run' : World.run Script.answering (Handling.caller limits request).run
        (world.playing (front ++ .ok foreign :: back)) =
          (result, { later with store := script' }) := run'
    rw [run] at signedIn asked
    rw [run, run']
    cases signedIn
    exact (conceals user).run_eq veiled still asked

/-- Whether note 5 is not there or somebody else's, its deletion is answered alike. -/
theorem foreign_looks_missing_deletion :
    let world : World Script := { store := {}, cache := .empty, clock := noon }
    let found : Except Error Outcome := .ok (.ofRows [Table.users.row deletionCaller.values])
    World.run Script.answering (serve {} deletionRequest)
        (world.playing [found, (foundNote 2).answer, .ok (.affected 1)]) =
      World.run Script.answering (serve {} deletionRequest)
        (world.playing [found, .ok (.ofRows []), .ok (.affected 1)]) := by
  intro world found
  have signedIn : (World.run Script.answering (Handling.caller {} deletionRequest).run
      (world.playing ([found] ++ .ok (.ofRows []) :: [.ok (.affected 1)]))).1 =
        .ok deletionCaller := rfl
  have asked : (World.run Script.answering (serve {} deletionRequest)
      (world.playing ([found] ++ .ok (.ofRows []) :: [.ok (.affected 1)]))).2.store.sent[
        world.store.sent.length + [found].length]? = some
          ⟨.query, .notes, "SELECT * FROM \"notes\" WHERE \"id\" = $1 LIMIT 1", [.int 5]⟩ := rfl
  have built : (Belonging.note.lookup 5).statement = .ok
      ⟨.query, .notes, "SELECT * FROM \"notes\" WHERE \"id\" = $1 LIMIT 1", [.int 5]⟩ := rfl
  exact foreign_looks_missing {} deletionRequest world [found] [.ok (.affected 1)] signedIn built
    asked rfl (by rfl) (by decide)

end Notebook
