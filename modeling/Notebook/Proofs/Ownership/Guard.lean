import Notebook.Proofs.Ownership.Lookup

/-!
# Guarded work

Every endpoint that signs its caller in keeps to `Permits` from then on, whatever the store
answers. The proof goes through the endpoints once, with the rules for work that may fail;
the gate itself is `Guarded.owned`: work goes on with a thing only if a lookup found it to be
the caller's.
-/

namespace Notebook

open Notebook.Sql

section Guarded

variable (limits : Limits) (request : HttpRequest) (user : User) (endpoint : Endpoint)

/-- Work for the caller asks only what the endpoint may ask, and nothing once a lookup has
refused the request. -/
def MayAsk (said : Conversation) (action : Action) : Prop :=
  said.Open user.id ∧ Permits limits request user said endpoint action

/-- Work for the caller succeeds only while the conversation is open, and shows what the
endpoint gives. -/
def MayAnswer (said : Conversation) (response : HttpResponse) : Prop :=
  said.Open user.id ∧ Gives limits user said endpoint response

/-- Work for the caller that is refused is no success, and has the status of a missing
thing if a lookup refused it. -/
def MayRefuse (said : Conversation) (refusal : Refusal) : Prop :=
  400 ≤ refusal.status ∧ Settles endpoint user.id said refusal.status

variable {user}

/-- While a conversation is open, any refusal may end it. -/
theorem Conversation.Open.mayRefuse {said : Conversation} {refusal : Refusal}
    (opened : said.Open user.id) (failing : 400 ≤ refusal.status) :
    MayRefuse user endpoint said refusal :=
  ⟨failing, opened.settles endpoint refusal.status⟩

/-- While a conversation is open, any error may end it. -/
theorem Conversation.Open.mayFail {said : Conversation} (opened : said.Open user.id)
    (error : Error) : MayRefuse user endpoint said (Refusal.ofError error) :=
  opened.mayRefuse endpoint (Refusal.le_status_ofError error)

variable {limits request endpoint} {α : Type} {ends : Conversation → α → Prop}
  {said : Conversation}

/-- A look at a path segment gives its number or refuses the request. -/
theorem Guarded.pathId {ends : Conversation → Int64 → Prop} {segment : List Char}
    (opened : said.Open user.id) (ended : ∀ id, Addresses segment id → ends said id) :
    Attempts (MayAsk limits request user endpoint) ends (MayRefuse user endpoint) said
      (Handling.pathId segment) := by
  unfold Handling.pathId
  split
  next id addressed => exact Attempts.pure (ended id addressed)
  next => exact Attempts.throw (opened.mayRefuse endpoint (by decide))

/-- A look at the query of a listing gives its texts or refuses the request. -/
theorem Guarded.notesQuery {ends : Conversation → NotesQuery → Prop}
    (opened : said.Open user.id) (ended : ∀ query, ends said query) :
    Attempts (MayAsk limits request user endpoint) ends (MayRefuse user endpoint) said
      (Handling.notesQuery request) := by
  unfold Handling.notesQuery
  split
  next query _ => exact Attempts.pure (ended query)
  next => exact Attempts.throw (opened.mayRefuse endpoint (by decide))

/-- A look at the query of a page gives its texts or refuses the request. -/
theorem Guarded.pageQuery {ends : Conversation → PageQuery → Prop}
    (opened : said.Open user.id) (ended : ∀ query, ends said query) :
    Attempts (MayAsk limits request user endpoint) ends (MayRefuse user endpoint) said
      (Handling.pageQuery request) := by
  unfold Handling.pageQuery
  split
  next query _ => exact Attempts.pure (ended query)
  next => exact Attempts.throw (opened.mayRefuse endpoint (by decide))

/-- A look at a body gives what it carries or refuses the request. -/
theorem Guarded.body {read : Json.Scan → Except Json.Fault α} (opened : said.Open user.id)
    (ended : ∀ value, request.Carries read value → ends said value) :
    Attempts (MayAsk limits request user endpoint) ends (MayRefuse user endpoint) said
      (Handling.body read request) := by
  obtain ⟨result, settled, failing⟩ := Handling.body_run read request
  unfold Attempts
  rw [settled]
  cases result with
  | ok value => exact .done (ended value settled)
  | error refusal => exact .done (opened.mayRefuse endpoint (failing refusal rfl))

/-- An empty update refuses the request. -/
theorem Guarded.refuseEmpty {ends : Conversation → Unit → Prop} {isEmpty : Bool}
    (opened : said.Open user.id) (ended : ends said ()) :
    Attempts (MayAsk limits request user endpoint) ends (MayRefuse user endpoint) said
      (Handling.refuseEmpty isEmpty) := by
  unfold Handling.refuseEmpty
  split
  · exact Attempts.throw (opened.mayRefuse endpoint (by decide))
  · exact Attempts.pure ended

/-- A result that is known refuses the request if it is an error. -/
theorem Guarded.ofExcept {result : Except Error α} (opened : said.Open user.id)
    (ended : ∀ value, result = .ok value → ends said value) :
    Attempts (MayAsk limits request user endpoint) ends (MayRefuse user endpoint) said
      (Handling.ofExcept result) :=
  Attempts.ofJob (Attempts.ofExcept ended fun _ _ => opened.mayFail endpoint _)

/-- The gate: work goes on with a thing only if a lookup in this conversation found it to
be the caller's, and otherwise ends with the refusal. -/
theorem Guarded.owned (kind : Belonging) {ends : Conversation → kind.Thing → Prop} {id : Int64}
    {refusal : Refusal} (opened : said.Open user.id)
    (allowed : ∀ action, action.LooksUp kind id → Permits limits request user said endpoint action)
    (failing : 400 ≤ refusal.status) (status : refusal.status = endpoint.missingStatus kind)
    (ended : ∀ later thing, said.Next later → later.Open user.id → later.Saw kind id thing →
      kind.owner thing = user.id → ends later thing) :
    Attempts (MayAsk limits request user endpoint) ends (MayRefuse user endpoint) said
      (Handling.owned (kind.get id) kind.owner user.id refusal) := by
  refine Attempts.bind (Attempts.ofJob (Attempts.query
    (fun action looks => ⟨opened, allowed action looks⟩) ?_ ?_ ?_ ?_))
  · intro statement outcome found built readable
    have own (other : Belonging) :
        Refuses other user.id ⟨.store (.execute statement), .ok outcome⟩ ↔
          other = kind ∧ ∀ thing ∈ found, kind.owner thing ≠ user.id := by
      constructor
      · rintro ⟨_, _, _, found', built', same, readable', foreign⟩
        cases same
        obtain rfl := Belonging.eq_of_lookup built' built
        rw [readable] at readable'
        cases readable'
        exact ⟨rfl, foreign⟩
      · rintro ⟨rfl, foreign⟩
        exact ⟨id, statement, outcome, found, built, rfl, readable, foreign⟩
    split
    next thing kept =>
      have owner : kind.owner thing = user.id := by
        simpa using (Option.filter_eq_some_iff.mp kept).2
      obtain rfl := (Option.filter_eq_some_iff.mp kept).1
      refine Attempts.pure (ended _ thing ⟨_, rfl⟩ ?_ ?_ owner)
      · exact opened.append fun other refuses => ((own other).mp refuses).2 thing rfl owner
      · exact ⟨outcome, Conversation.got_append built, readable⟩
    next none =>
      refine Attempts.throw ⟨failing, ?_⟩
      rintro other ⟨exchange, member, refuses⟩
      rcases List.mem_append.mp member with before | last
      · exact absurd refuses (opened exchange before other)
      · rw [List.mem_singleton.mp last] at refuses
        rw [((own other).mp refuses).1]
        exact status
  · exact fun error => opened.mayFail endpoint _
  · exact fun statement error => (opened.append fun _ => not_refuses_of_error).mayFail endpoint _
  · intro statement outcome error built unreadable
    refine (opened.append ?_).mayFail endpoint _
    rintro other ⟨_, _, _, found, built', same, readable, _⟩
    cases same
    obtain rfl := Belonging.eq_of_lookup built' built
    rw [unreadable] at readable
    cases readable

/-- Work goes on with the caller's note if it was found. -/
theorem Guarded.ownedNote {ends : Conversation → Note → Prop} {id : Int64}
    (opened : said.Open user.id)
    (allowed : ∀ action, action.LooksUp .note id → Permits limits request user said endpoint action)
    (status : endpoint.missingStatus .note = 404)
    (ended : ∀ later note, said.Next later → later.Open user.id → later.Saw .note id note →
      note.owner = user.id → ends later note) :
    Attempts (MayAsk limits request user endpoint) ends (MayRefuse user endpoint) said
      (Handling.ownedNote user.id id) := by
  rw [Handling.ownedNote_eq]
  exact Guarded.owned .note opened allowed (by simp [Refusal.status]) status.symm ended

/-- Work goes on with the caller's set if it was found. -/
theorem Guarded.ownedSet {ends : Conversation → NoteSet → Prop} {id : Int64}
    (opened : said.Open user.id)
    (allowed : ∀ action, action.LooksUp .set id → Permits limits request user said endpoint action)
    (status : endpoint.missingStatus .set = 404)
    (ended : ∀ later set, said.Next later → later.Open user.id → later.Saw .set id set →
      set.owner = user.id → ends later set) :
    Attempts (MayAsk limits request user endpoint) ends (MayRefuse user endpoint) said
      (Handling.ownedSet user.id id) := by
  rw [Handling.ownedSet_eq]
  exact Guarded.owned .set opened allowed (by simp [Refusal.status]) status.symm ended

/-- Work goes on with the set that a note is to be filed in if it was found to be the
caller's. -/
theorem Guarded.targetSet {ends : Conversation → NoteSet → Prop} {id : Int64}
    (opened : said.Open user.id)
    (allowed : ∀ action, action.LooksUp .set id → Permits limits request user said endpoint action)
    (status : endpoint.missingStatus .set = 400)
    (ended : ∀ later set, said.Next later → later.Open user.id → later.Saw .set id set →
      set.owner = user.id → ends later set) :
    Attempts (MayAsk limits request user endpoint) ends (MayRefuse user endpoint) said
      (Handling.targetSet user.id id) := by
  rw [Handling.targetSet_eq]
  exact Guarded.owned .set opened allowed (by simp [Refusal.status]) status.symm ended

/-- A page keeps the conversation open, since a query with an order is no lookup. -/
theorem Guarded.page {query : Select} {read : Outcome → Except Error α}
    (opened : said.Open user.id) (star : query.outputs = ["*"]) (ordered : query.order ≠ none)
    (allowed : ∀ action, action.Queries query → Permits limits request user said endpoint action)
    (ended : ∀ later outcome value, later.Open user.id → later.Got query outcome →
      read outcome = .ok value → ends later value) :
    Attempts (MayAsk limits request user endpoint) ends (MayRefuse user endpoint) said
      (Handling.ofJob (do
        let statement ← Job.ofExcept query.statement
        let outcome ← Job.execute statement
        Job.ofExcept (read outcome))) := by
  refine Attempts.ofJob (Attempts.query (fun action queries => ⟨opened, allowed action queries⟩)
    ?_ ?_ ?_ ?_)
  · intro statement outcome value built readable
    exact ended _ outcome value
      (opened.append fun _ => not_refuses_of_order built star ordered)
      (Conversation.got_append built) readable
  · exact fun error => opened.mayFail endpoint _
  · exact fun statement error => (opened.append fun _ => not_refuses_of_error).mayFail endpoint _
  · intro statement outcome error built _
    exact (opened.append fun _ => not_refuses_of_order built star ordered).mayFail endpoint _

/-- A mutation keeps the conversation open, since it is no lookup. -/
theorem Guarded.mutation (draft : Draft) {rest : Outcome → Job α}
    (opened : said.Open user.id) (mutates : draft.kind = .mutation)
    (allowed : ∀ statement, draft.statement = .ok statement →
      Permits limits request user said endpoint (.store (.execute statement)))
    (goesOn : ∀ later outcome, said ⊆ later → later.Open user.id →
      Attempts (MayAsk limits request user endpoint) ends
        (fun said error => MayRefuse user endpoint said (Refusal.ofError error)) later
        (rest outcome)) :
    Attempts (MayAsk limits request user endpoint) ends
      (fun said error => MayRefuse user endpoint said (Refusal.ofError error)) said (do
        let statement ← Job.ofExcept draft.statement
        let outcome ← Job.execute statement
        rest outcome) := by
  refine Attempts.bind (Attempts.ofExcept ?_ fun error _ => opened.mayFail endpoint _)
  intro statement built
  refine Attempts.bind (Attempts.execute ⟨opened, allowed statement built⟩ ?_ ?_)
  · intro outcome
    exact goesOn _ outcome (List.subset_append_left _ _)
      (opened.append fun _ => not_refuses_of_mutation built mutates)
  · intro error
    exact (opened.append fun _ => not_refuses_of_mutation built mutates).mayFail endpoint _

/-- Inserting under the next id keeps the conversation open. -/
theorem Guarded.insertWithNextId {ends : Conversation → Int64 → Prop} {table : Table}
    {attempts : Nat} {values : Int64 → List Value} (opened : said.Open user.id)
    (allowed : ∀ later action, said ⊆ later → action.Allocates table values →
      Permits limits request user later endpoint action)
    (ended : ∀ later id, later.Open user.id → ends later id) :
    Attempts (MayAsk limits request user endpoint) ends
      (fun said error => MayRefuse user endpoint said (Refusal.ofError error)) said
      (table.insertWithNextId attempts values) := by
  let stays (later : Conversation) : Prop := said ⊆ later ∧ later.Open user.id
  refine Attempts.insertWithNextId stays ⟨List.Subset.refl _, opened⟩ ?_ ?_ ?_ ?_
  · exact fun later action stays allocates => ⟨stays.2, allowed later action stays.1 allocates⟩
  · intro later lock head tail answer stays
    refine ⟨fun _ member => List.mem_append_left _ (stays.1 member), stays.2.append ?_⟩
    rintro kind ⟨_, _, _, _, _, same, _⟩
    cases same
  · exact fun later id stays => ended later id stays.2
  · exact fun later error stays => stays.2.mayFail endpoint _

/-! ### Endpoints -/

variable (limits request endpoint) in
/-- The endpoint signs its caller in, and what it does then keeps to the guard. -/
def KeepsGuard : Prop :=
  ∃ next : User → Handling HttpResponse,
    Handling.endpoint limits request endpoint = Handling.caller limits request >>= next ∧
    ∀ user, Attempts (MayAsk limits request user endpoint) (MayAnswer limits user endpoint)
      (MayRefuse user endpoint) [] (next user)

/-- A conversation that has not begun is open. -/
theorem Conversation.open_nil (owner : Int64) : Conversation.Open owner [] := by
  intro exchange member
  cases member

theorem keepsGuard_listNotes : KeepsGuard limits request .listNotes := by
  refine ⟨_, rfl, fun user => ?_⟩
  have opened := Conversation.open_nil user.id
  refine Attempts.bind (Guarded.notesQuery opened fun query => ?_)
  refine Attempts.bind (Guarded.ofExcept opened fun listing _ => ?_)
  refine Attempts.bind (Guarded.page opened rfl (by simp [Notes.pageQuery])
    (fun action queries => ⟨listing, queries⟩) ?_)
  intro later outcome notes opened got readable
  exact Attempts.pure ⟨opened, listing, outcome, notes, got, readable, rfl⟩

theorem keepsGuard_postNote : KeepsGuard limits request .postNote := by
  refine ⟨_, rfl, fun user => ?_⟩
  have opened := Conversation.open_nil user.id
  refine Attempts.bind (Guarded.body opened fun new carries => ?_)
  -- Whatever set was found, the note that is posted may be filed in it.
  have posts (later : Conversation) (set : Option NoteSet) (opened : later.Open user.id)
      (found : ∀ filed ∈ set, filed.owner = user.id ∧
        ∃ requested, new.set = some requested ∧ later.Saw .set requested filed) :
      Attempts (MayAsk limits request user .postNote) (MayAnswer limits user .postNote)
        (MayRefuse user .postNote) later (do
          let note ← Handling.ofJob (Notes.post limits user.id new.body set)
          return Handling.json note.toJson) := by
    refine Attempts.bind (Attempts.ofJob ?_)
    refine Attempts.bind (Attempts.now ⟨opened, .inr (.inl rfl)⟩ fun time => ?_)
    have still : Conversation.Open user.id (later ++ [⟨.now, time⟩]) := by
      refine opened.append ?_
      rintro kind ⟨_, _, _, _, _, same, _⟩
      cases same
    refine Attempts.bind (Guarded.insertWithNextId still ?_ ?_)
    · intro last action grown allocates
      refine .inr (.inr ⟨⟨0, user.id, set.map NoteSet.id, time.toMicroseconds, new.body, false⟩,
        ⟨rfl, ?_⟩, allocates⟩)
      intro filed named
      obtain ⟨into, same, rfl⟩ := Option.map_eq_some_iff.mp named
      obtain ⟨owner, requested, asked, saw⟩ := found into same
      have earlier : later ⊆ last := fun _ member => grown (List.mem_append_left _ member)
      exact ⟨new, requested, into, carries, asked, saw.mono earlier, owner, rfl⟩
    · exact fun last id opened => Attempts.pure (Attempts.pure ⟨opened, _, rfl, rfl⟩)
  cases asked : new.set with
  | none => exact posts [] none opened (by simp)
  | some requested =>
      refine Attempts.bind (Attempts.bind (Guarded.targetSet opened ?_ rfl ?_))
      · exact fun action looks => .inl ⟨new, requested, carries, asked, looks⟩
      · intro later set grown opened saw owner
        refine Attempts.pure (posts later (some set) opened ?_)
        rintro filed same
        cases same
        exact ⟨owner, requested, asked, saw⟩

theorem keepsGuard_getNote (segment : List Char) :
    KeepsGuard limits request (.getNote segment) := by
  refine ⟨_, rfl, fun user => ?_⟩
  have opened := Conversation.open_nil user.id
  refine Attempts.bind (Guarded.pathId opened fun id addressed => ?_)
  refine Attempts.bind (Guarded.ownedNote opened ?_ rfl ?_)
  · exact fun action looks => ⟨id, addressed, looks⟩
  · intro later note _ opened saw owner
    exact Attempts.pure ⟨opened, id, note, addressed, saw, owner, rfl⟩

theorem keepsGuard_updateNote (segment : List Char) :
    KeepsGuard limits request (.updateNote segment) := by
  refine ⟨_, rfl, fun user => ?_⟩
  have opened := Conversation.open_nil user.id
  refine Attempts.bind (Guarded.pathId opened fun id addressed => ?_)
  refine Attempts.bind (Guarded.body opened fun changes carries => ?_)
  refine Attempts.bind (Guarded.ownedNote opened ?_ rfl ?_)
  · exact fun action looks => ⟨id, addressed, .inl looks⟩
  intro first note _ opened saw owner
  have own : first.SawOwned .note user.id id := ⟨note, saw, owner⟩
  have looks (later : Conversation) (opened : later.Open user.id) :
      Attempts (MayAsk limits request user (.updateNote segment))
        (MayAnswer limits user (.updateNote segment)) (MayRefuse user (.updateNote segment)) later
        (do
          let note ← Handling.ownedNote user.id id
          return Handling.json note.toJson) := by
    refine Attempts.bind (Guarded.ownedNote opened ?_ rfl ?_)
    · exact fun action looks => ⟨id, addressed, .inl looks⟩
    · intro last note _ opened saw owner
      exact Attempts.pure ⟨opened, id, note, addressed, saw, owner, rfl⟩
  -- Once the set that is named was found, the update and the last look follow.
  have edits (later : Conversation) (grown : first ⊆ later) (opened : later.Open user.id)
      (fileable : Fileable user later changes) :
      Attempts (MayAsk limits request user (.updateNote segment))
        (MayAnswer limits user (.updateNote segment)) (MayRefuse user (.updateNote segment)) later
        (do
          Handling.refuseEmpty changes.isEmpty
          Handling.ofJob (Notes.edit id changes)
          let note ← Handling.ownedNote user.id id
          return Handling.json note.toJson) := by
    refine Attempts.bind (Guarded.refuseEmpty opened (Attempts.bind (Attempts.ofJob ?_)))
    refine Guarded.mutation (.update .notes (.eq "id" (.int id)) changes.assignments) opened rfl
      ?_ ?_
    · intro statement built
      exact ⟨id, addressed, .inr ⟨own.mono grown, changes, carries,
        .inr ⟨fileable, statement, built, rfl⟩⟩⟩
    · intro last outcome _ opened
      split
      · exact Attempts.throw (opened.mayFail _ _)
      · exact Attempts.pure (looks last opened)
  dsimp only
  split
  next set named =>
    refine Attempts.bind (Guarded.targetSet opened ?_ rfl ?_)
    · exact fun action looks => ⟨id, addressed, .inr ⟨own, changes, carries,
        .inl ⟨set, named, looks⟩⟩⟩
    · intro later found grown opened saw owner
      refine edits later grown.subset opened ?_
      rintro other same
      rw [named] at same
      cases same
      exact ⟨found, saw, owner⟩
  next none =>
    refine edits first (List.Subset.refl _) opened ?_
    intro set named
    exact absurd named (none set)

theorem keepsGuard_deleteNote (segment : List Char) :
    KeepsGuard limits request (.deleteNote segment) := by
  refine ⟨_, rfl, fun user => ?_⟩
  have opened := Conversation.open_nil user.id
  refine Attempts.bind (Guarded.pathId opened fun id addressed => ?_)
  refine Attempts.bind (Guarded.ownedNote opened ?_ rfl ?_)
  · exact fun action looks => ⟨id, addressed, .inl ⟨rfl, looks⟩⟩
  intro later note first opened saw owner
  refine Attempts.bind (Attempts.ofJob ?_)
  refine Guarded.mutation (.delete .notes (.eq "id" (.int id))) opened rfl ?_ ?_
  · intro statement built
    exact ⟨id, addressed, .inr ⟨first.length, ⟨note, saw, owner⟩, statement, built, rfl⟩⟩
  · exact fun last _ _ opened => Attempts.pure (Attempts.pure ⟨opened, rfl⟩)

theorem keepsGuard_listSets : KeepsGuard limits request .listSets := by
  refine ⟨_, rfl, fun user => ?_⟩
  have opened := Conversation.open_nil user.id
  refine Attempts.bind (Guarded.pageQuery opened fun query => ?_)
  refine Attempts.bind (Guarded.ofExcept opened fun offset _ => ?_)
  refine Attempts.bind (Guarded.page opened rfl (by simp [Sets.listQuery])
    (fun action queries => ⟨offset, queries⟩) ?_)
  intro later outcome sets opened got readable
  exact Attempts.pure ⟨opened, offset, outcome, sets, got, readable, rfl⟩

theorem keepsGuard_createSet : KeepsGuard limits request .createSet := by
  refine ⟨_, rfl, fun user => ?_⟩
  have opened := Conversation.open_nil user.id
  refine Attempts.bind (Guarded.body opened fun new _ => ?_)
  refine Attempts.bind (Attempts.ofJob (Attempts.bind ?_))
  refine Guarded.insertWithNextId opened ?_ ?_
  · exact fun later action _ allocates => ⟨⟨0, user.id, new.name, new.type⟩, rfl, allocates⟩
  · exact fun later id opened => Attempts.pure (Attempts.pure ⟨opened, _, rfl, rfl⟩)

theorem keepsGuard_getSet (segment : List Char) : KeepsGuard limits request (.getSet segment) := by
  refine ⟨_, rfl, fun user => ?_⟩
  have opened := Conversation.open_nil user.id
  refine Attempts.bind (Guarded.pathId opened fun id addressed => ?_)
  refine Attempts.bind (Guarded.ownedSet opened ?_ rfl ?_)
  · exact fun action looks => ⟨id, addressed, looks⟩
  · intro later set _ opened saw owner
    exact Attempts.pure ⟨opened, id, set, addressed, saw, owner, rfl⟩

theorem keepsGuard_updateSet (segment : List Char) :
    KeepsGuard limits request (.updateSet segment) := by
  refine ⟨_, rfl, fun user => ?_⟩
  have opened := Conversation.open_nil user.id
  refine Attempts.bind (Guarded.pathId opened fun id addressed => ?_)
  refine Attempts.bind (Guarded.body opened fun changes carries => ?_)
  refine Attempts.bind (Guarded.ownedSet opened ?_ rfl ?_)
  · exact fun action looks => ⟨id, addressed, .inl looks⟩
  intro later set _ opened saw owner
  refine Attempts.bind (Guarded.refuseEmpty opened (Attempts.bind (Attempts.ofJob ?_)))
  refine Guarded.mutation (.update .sets (.eq "id" (.int id)) changes.assignments) opened rfl ?_ ?_
  · intro statement built
    exact ⟨id, addressed, .inr ⟨⟨set, saw, owner⟩, changes, carries, statement, built, rfl⟩⟩
  · intro last outcome _ opened
    split
    · exact Attempts.throw (opened.mayFail _ _)
    · refine Attempts.pure (Attempts.bind (Guarded.ownedSet opened ?_ rfl ?_))
      · exact fun action looks => ⟨id, addressed, .inl looks⟩
      · intro final set _ opened saw owner
        exact Attempts.pure ⟨opened, id, set, addressed, saw, owner, rfl⟩

theorem keepsGuard_deleteSet (segment : List Char) :
    KeepsGuard limits request (.deleteSet segment) := by
  refine ⟨_, rfl, fun user => ?_⟩
  have opened := Conversation.open_nil user.id
  refine Attempts.bind (Guarded.pathId opened fun id addressed => ?_)
  refine Attempts.bind (Guarded.ownedSet opened ?_ rfl ?_)
  · exact fun action looks => ⟨id, addressed, .inl ⟨rfl, looks⟩⟩
  intro later set first opened saw owner
  refine Attempts.bind (Attempts.ofJob ?_)
  refine Attempts.bind (Attempts.ofExcept ?_ fun error _ => opened.mayFail _ _)
  intro filed builtNotes
  refine Attempts.bind (Attempts.ofExcept ?_ fun error _ => opened.mayFail _ _)
  intro itself builtSet
  have still (answer : Except Error (List Outcome)) :
      Conversation.Open user.id (later ++ [⟨.store (.executeAtomic [filed, itself]), answer⟩]) := by
    refine opened.append ?_
    rintro kind ⟨_, _, _, _, _, same, _⟩
    cases same
  refine Attempts.bind (Attempts.executeAtomic ?_ ?_ ?_)
  · exact ⟨opened, id, addressed, .inr ⟨first.length, ⟨set, saw, owner⟩, filed, itself,
      builtNotes, builtSet, rfl⟩⟩
  · exact fun outcomes => Attempts.pure (Attempts.pure ⟨still (.ok outcomes), rfl⟩)
  · exact fun error => (still (.error error)).mayFail _ _

theorem keepsGuard_listSetNotes (segment : List Char) :
    KeepsGuard limits request (.listSetNotes segment) := by
  refine ⟨_, rfl, fun user => ?_⟩
  have opened := Conversation.open_nil user.id
  refine Attempts.bind (Guarded.pathId opened fun id addressed => ?_)
  refine Attempts.bind (Guarded.pageQuery opened fun query => ?_)
  refine Attempts.bind (Guarded.ownedSet opened ?_ rfl ?_)
  · exact fun action looks => ⟨id, addressed, .inl looks⟩
  intro later set _ opened saw owner
  refine Attempts.bind (Guarded.ofExcept opened fun offset _ => ?_)
  refine Attempts.bind (Guarded.page opened rfl (by simp [Notes.pageQuery]) ?_ ?_)
  · exact fun action queries => ⟨id, addressed, .inr ⟨⟨set, saw, owner⟩, offset, queries⟩⟩
  · intro last outcome notes opened got readable
    exact Attempts.pure ⟨opened, id, offset, outcome, notes, addressed, got, readable, rfl⟩

/-- Every endpoint that signs its caller in keeps to the guard. -/
theorem keepsGuard (signsIn : endpoint ≠ .ping ∧ endpoint ≠ .authStatus) :
    KeepsGuard limits request endpoint := by
  cases endpoint with
  | ping => exact absurd rfl signsIn.1
  | authStatus => exact absurd rfl signsIn.2
  | listNotes => exact keepsGuard_listNotes
  | postNote => exact keepsGuard_postNote
  | getNote segment => exact keepsGuard_getNote segment
  | updateNote segment => exact keepsGuard_updateNote segment
  | deleteNote segment => exact keepsGuard_deleteNote segment
  | listSets => exact keepsGuard_listSets
  | createSet => exact keepsGuard_createSet
  | getSet segment => exact keepsGuard_getSet segment
  | updateSet segment => exact keepsGuard_updateSet segment
  | deleteSet segment => exact keepsGuard_deleteSet segment
  | listSetNotes segment => exact keepsGuard_listSetNotes segment

end Guarded

end Notebook
