import Notebook.Proofs.Ownership.Deed

/-!
# Secure work

What is left of the work on a request is secure if it acts for nobody but the user who made
the request and shows nobody else's notes. All work that begins is (`serve_secure`); the
work stays secure when it takes a step (`Secure.step`) and when others do (`Secure.mono`),
unless somebody removes things of the same user meanwhile.
-/

namespace Notebook

/-! ### What a response shows -/

/-- The content is the note, or it is a list with the note in it. -/
def Content.Shows (content : Content) (note : Note) : Prop :=
  content = .json note.toJson ∨
    ∃ notes : List Note, content = .json (.array (notes.map Note.toJson)) ∧ note ∈ notes

/-- The owner of a note can be read from its JSON. -/
theorem Note.owner_eq_of_toJson {note other : Note} (same : note.toJson = other.toJson) :
    note.owner = other.owner := by
  simp only [toJson, Json.object.injEq, List.cons.injEq, Prod.mk.injEq, Json.int.injEq] at same
  exact Int64.toInt_inj.mp same.2.1.2

/-- A set is no note. -/
theorem NoteSet.toJson_ne (set : NoteSet) (note : Note) : set.toJson ≠ note.toJson := by
  intro same
  simp [NoteSet.toJson, Note.toJson] at same

namespace Content

variable {note : Note}

/-- Where there is no JSON, no note is shown. -/
theorem not_shows_of_ne_json {content : Content} (other : ∀ value, content ≠ .json value) :
    ¬ content.Shows note := by
  rintro (same | ⟨notes, same, _⟩)
  · exact other _ same
  · exact other _ same

/-- Nothing shows no note. -/
theorem not_shows_empty : ¬ Content.empty.Shows note :=
  not_shows_of_ne_json fun _ same => nomatch same

/-- Prose shows no note. -/
theorem not_shows_prose : ¬ Content.prose.Shows note :=
  not_shows_of_ne_json fun _ same => nomatch same

/-- One note shows itself. -/
theorem owner_of_shows_note {shown : Note} (shows : (Content.json shown.toJson).Shows note) :
    note.owner = shown.owner := by
  rcases shows with same | ⟨notes, same, _⟩
  · exact (Note.owner_eq_of_toJson (json.inj same)).symm
  · cases json.inj same

/-- A list of notes shows them. -/
theorem owner_of_shows_notes {shown : List Note}
    (shows : (Content.json (.array (shown.map Note.toJson))).Shows note) :
    ∃ listed ∈ shown, note.owner = listed.owner := by
  rcases shows with same | ⟨notes, same, member⟩
  · cases json.inj same
  · have items : shown.map Note.toJson = notes.map Note.toJson := Json.array.inj (json.inj same)
    have shownItem : note.toJson ∈ shown.map Note.toJson := by
      rw [items]
      exact List.mem_map_of_mem member
    obtain ⟨listed, there, same⟩ := List.mem_map.mp shownItem
    exact ⟨listed, there, (Note.owner_eq_of_toJson same).symm⟩

/-- A set shows no note. -/
theorem not_shows_set (set : NoteSet) : ¬ (Content.json set.toJson).Shows note := by
  rintro (same | ⟨notes, same, _⟩)
  · exact set.toJson_ne note (json.inj same)
  · cases json.inj same

/-- A list of sets shows no note. -/
theorem not_shows_sets (sets : List NoteSet) :
    ¬ (Content.json (.array (sets.map NoteSet.toJson))).Shows note := by
  rintro (same | ⟨notes, same, member⟩)
  · cases json.inj same
  · have items : sets.map NoteSet.toJson = notes.map Note.toJson := Json.array.inj (json.inj same)
    have shownItem : note.toJson ∈ sets.map NoteSet.toJson := by
      rw [items]
      exact List.mem_map_of_mem member
    obtain ⟨set, _, same⟩ := List.mem_map.mp shownItem
    exact set.toJson_ne note same

/-- An object with one member shows no note. -/
theorem not_shows_member (member : String × Json) :
    ¬ (Content.json (.object [member])).Shows note := by
  rintro (same | ⟨notes, same, _⟩)
  · simp [Note.toJson] at same
  · cases json.inj same

end Content

/-- A refusal shows no note. -/
theorem Refusal.IsToldBy.not_shows {refusal : Refusal} {response : HttpResponse} {note : Note}
    (told : refusal.IsToldBy response) : ¬ response.content.Shows note := by
  rcases told.2 with reason | empty
  · rw [reason]
    cases refusal with
    | rejected => exact Content.not_shows_prose
    | _ => exact Content.not_shows_member _
  · rw [empty]
    exact Content.not_shows_empty

/-- Things that are read are read from rows that were returned. -/
theorem Outcome.mem_of_readAll {α : Type} {read : Row → Except Error α} {outcome : Outcome}
    {things : List α} (readable : outcome.readAll read = .ok things) {thing : α}
    (member : thing ∈ things) : ∃ row ∈ outcome.rows, read row = .ok thing := by
  obtain ⟨rows, count⟩ := outcome
  have each : rows.mapM read = .ok things := readable
  clear readable
  induction rows generalizing things with
  | nil =>
      cases each
      cases member
  | cons row rest inductionHypothesis =>
      rw [List.mapM_cons] at each
      obtain ⟨first, readFirst, each⟩ := Except.bind_eq_ok_iff.mp each
      obtain ⟨later, readLater, each⟩ := Except.bind_eq_ok_iff.mp each
      cases each
      rcases List.mem_cons.mp member with rfl | other
      · exact ⟨row, List.mem_cons_self, readFirst⟩
      · obtain ⟨found, there, same⟩ := inductionHypothesis other readLater
        exact ⟨found, List.mem_cons_of_mem _ there, same⟩

section Shown

variable {limits : Limits} {request : HttpRequest} {identity : NewUser} {user : User}
  {said : Conversation} {endpoint : Endpoint} {response : HttpResponse} {note : Note}
  {database : Database}

/-- The notes of a page that was got are the user's. -/
theorem Conversation.Stands.owner_of_page (stands : said.Stands identity user database)
    {query : Select} {outcome : Outcome} {notes : List Note} (got : said.Got query outcome)
    (star : query.outputs = ["*"]) (table : query.table = .notes) (ordered : query.order ≠ none)
    (readable : outcome.readAll Note.ofRow = .ok notes)
    (shows : (Content.json (.array (notes.map Note.toJson))).Shows note) :
    note.owner = user.id := by
  obtain ⟨listed, member, same⟩ := Content.owner_of_shows_notes shows
  obtain ⟨row, returned, readRow⟩ := Outcome.mem_of_readAll readable member
  have read : Belonging.note.read row = .ok listed := readRow
  have hasOwner := (Belonging.get?_of_read read).2
  rw [stands.pages query outcome got star table ordered row returned] at hasOwner
  injection hasOwner with value
  injection value with own
  exact same.trans own.symm

/-- The notes that a successful answer shows are the user's. -/
theorem Gives.owner_of_shown (gives : Gives limits user said endpoint response)
    (stands : said.Stands identity user database) (shows : response.content.Shows note) :
    note.owner = user.id := by
  have nothing (empty : response = Handling.noContent) : note.owner = user.id := by
    rw [empty] at shows
    exact absurd shows Content.not_shows_empty
  cases endpoint with
  | ping => exact gives.elim
  | authStatus => exact gives.elim
  | listNotes =>
      obtain ⟨listing, outcome, notes, got, readable, rfl⟩ := gives
      exact stands.owner_of_page got rfl rfl (by simp [Notes.pageQuery]) readable shows
  | postNote =>
      obtain ⟨shown, own, rfl⟩ := gives
      exact (Content.owner_of_shows_note shows).trans own
  | getNote =>
      obtain ⟨_, shown, _, _, own, rfl⟩ := gives
      exact (Content.owner_of_shows_note shows).trans own
  | updateNote =>
      obtain ⟨_, shown, _, _, own, rfl⟩ := gives
      exact (Content.owner_of_shows_note shows).trans own
  | deleteNote => exact nothing gives
  | listSets =>
      obtain ⟨_, _, sets, _, _, rfl⟩ := gives
      exact absurd shows (Content.not_shows_sets sets)
  | createSet =>
      obtain ⟨set, _, rfl⟩ := gives
      exact absurd shows (Content.not_shows_set set)
  | getSet =>
      obtain ⟨_, set, _, _, _, rfl⟩ := gives
      exact absurd shows (Content.not_shows_set set)
  | updateSet =>
      obtain ⟨_, set, _, _, _, rfl⟩ := gives
      exact absurd shows (Content.not_shows_set set)
  | deleteSet => exact nothing gives
  | listSetNotes =>
      obtain ⟨_, offset, outcome, notes, _, got, readable, rfl⟩ := gives
      exact stands.owner_of_page got rfl rfl (by simp [Notes.pageQuery]) readable shows

/-- The notes that an answer shows are those that a successful answer gives. -/
theorem MayRespond.gives_of_shown (responds : MayRespond limits request user endpoint said response)
    (shows : response.content.Shows note) :
    ∃ given, Gives limits user said endpoint given ∧ given.content.Shows note := by
  rcases responds with ⟨given, ⟨_, gives⟩, rfl | ⟨_, rfl⟩⟩ | ⟨refusal, _, told⟩
  · exact ⟨_, gives, shows⟩
  · exact absurd shows Content.not_shows_empty
  · exact absurd shows told.not_shows

/-- Where something is removed, the answer shows nothing. -/
theorem MayRespond.not_shows (responds : MayRespond limits request user endpoint said response)
    (removes : endpoint.removes = true) : ¬ response.content.Shows note := by
  intro shows
  obtain ⟨given, gives, shows⟩ := responds.gives_of_shown shows
  have empty : given = Handling.noContent := by
    cases endpoint with
    | deleteNote => exact gives
    | deleteSet => exact gives
    | _ => cases removes
  rw [empty] at shows
  exact Content.not_shows_empty shows

end Shown

/-! ### Secure work -/

/-- The request was made by the user with this id. -/
def HttpRequest.IsFrom (request : HttpRequest) (database : Database) (id : Int64) : Prop :=
  ∃ identity, request.identity? = some identity ∧ database.IsAccount id identity.gid

/-- What is left of the work on a request: its caller is being signed in, or what was found
for the caller is so and guarded work goes on, or there is an answer, which shows only notes
of the user who made the request. -/
inductive Secure (limits : Limits) (request : HttpRequest) : Database → Work HttpResponse → Prop
  | signingIn {identity : NewUser} {said : Conversation} {action : Action}
      {next : action.Answer → Work HttpResponse} {database : Database}
      (named : request.identity? = some identity) (vouches : said.Vouches identity database)
      (may : SignsIn identity said action)
      (goesOn : ∀ answer later,
        Conversation.Vouches (said ++ [⟨action, answer⟩]) identity later →
          Secure limits request later (next answer)) :
      Secure limits request database (.ask action next)
  | working {identity : NewUser} {user : User} {route : Route} {endpoint : Endpoint}
      {said : Conversation} {action : Action} {next : action.Answer → Work HttpResponse}
      {database : Database} (named : request.identity? = some identity)
      (served : route.endpoint? request.method = some endpoint)
      (stands : said.Stands identity user database)
      (meets : Program.Meets (MayAsk limits request user endpoint)
        (MayRespond limits request user endpoint) said (.ask action next)) :
      Secure limits request database (.ask action next)
  | finished {response : HttpResponse} {database : Database}
      (shown : ∀ note, response.content.Shows note → request.IsFrom database note.owner) :
      Secure limits request database (.done response)

section Work

variable {limits : Limits} {request : HttpRequest} {identity : NewUser} {database : Database}

/-- Guarded work is secure as long as what was found is so. -/
theorem Secure.of_meets {user : User} {route : Route} {endpoint : Endpoint} {said : Conversation}
    {rest : Work HttpResponse} (named : request.identity? = some identity)
    (served : route.endpoint? request.method = some endpoint)
    (stands : said.Stands identity user database)
    (meets : Program.Meets (MayAsk limits request user endpoint)
      (MayRespond limits request user endpoint) said rest) :
    Secure limits request database rest := by
  cases rest with
  | ask action next => exact .working named served stands meets
  | done response =>
      refine .finished fun note shows => ⟨identity, named, ?_⟩
      obtain ⟨given, gives, shows⟩ := meets.ended.gives_of_shown shows
      rw [gives.owner_of_shown stands shows]
      exact stands.account

/-- Work that signs its caller in is secure if what follows is. -/
theorem Secure.of_signingIn {α : Type} {said : Conversation} {signing : Work α}
    {next : α → Work HttpResponse} (named : request.identity? = some identity)
    (vouches : said.Vouches identity database)
    (meets : Program.Meets (SignsIn identity) (fun (said : Conversation) result => ∀ later,
      said.Vouches identity later → Secure limits request later (next result)) said signing) :
    Secure limits request database (signing >>= next) := by
  induction meets generalizing database with
  | done ended => exact ended database vouches
  | ask allowed _ inductionHypothesis =>
      exact .signingIn named vouches allowed fun answer later vouches =>
        inductionHypothesis answer vouches

/-- An answer that shows no note is secure. -/
theorem Secure.of_not_shows {response : HttpResponse}
    (nothing : ∀ note, ¬ response.content.Shows note) :
    Secure limits request database (.done response) :=
  .finished fun note shows => absurd shows (nothing note)

/-- A response that shows no note is secure with its content and without. -/
theorem Secure.of_response {response : HttpResponse}
    (nothing : ∀ note, ¬ response.content.Shows note) :
    Secure limits request database (if request.method = "HEAD"
      then .done { response with content := .empty } else .done response) := by
  split
  · exact .of_not_shows fun _ => Content.not_shows_empty
  · exact .of_not_shows nothing

/-- Whoever is found for a request, and whether anybody is, the answer to whether somebody
is signed in shows no note. -/
theorem serve_authStatus_secure {route : Route} (limits : Limits) (database : Database)
    (routed : Route.ofPath? request.path = some route)
    (served : route.endpoint? request.method = some .authStatus) :
    Secure limits request database (serve limits request) := by
  have asks : Handling.endpoint limits request .authStatus =
      Handling.caller? limits request >>= fun found =>
        return Handling.json (.object [("authed", .bool found.isSome)]) := rfl
  have bound : ∃ next : Except Refusal (Option User) → Work HttpResponse,
      serve limits request = (Handling.caller? limits request).run >>= next ∧
      ∀ result later, Secure limits request later (next result) := by
    unfold serve
    rw [routed]
    dsimp only
    rw [served]
    dsimp only
    rw [asks]
    refine ⟨_, Program.bind_assoc _ _ _, fun result later => ?_⟩
    cases result with
    | ok found => exact .of_response fun _ => Content.not_shows_member _
    | error refusal =>
        have told : refusal.IsToldBy refusal.response := ⟨rfl, .inl rfl⟩
        exact .of_response fun _ => told.not_shows
  obtain ⟨next, same, secure⟩ := bound
  rw [same]
  cases named : request.identity? with
  | none =>
      have unasked : (Handling.caller? limits request).run = .done (.ok none) := by
        unfold Handling.caller?
        rw [named]
        rfl
      rw [unasked]
      exact secure _ database
  | some identity =>
      refine .of_signingIn named .nil (Program.Meets.mono (attempts_caller? limits named)
        (fun _ _ allowed => allowed) ?_)
      exact fun said result _ later _ => secure result later

/-- Whoever is signed in for a request, work for the caller begins secure. -/
theorem serve_guarded_secure {route : Route} {endpoint : Endpoint} (limits : Limits)
    (database : Database) (routed : Route.ofPath? request.path = some route)
    (served : route.endpoint? request.method = some endpoint)
    (signsIn : endpoint ≠ .ping ∧ endpoint ≠ .authStatus) :
    Secure limits request database (serve limits request) := by
  obtain ⟨next, same, refused, guarded⟩ := serve_eq_caller_bind limits routed served signsIn
  rw [same]
  have told (later : Database) (refusal : Refusal) :
      Secure limits request later (next (.error refusal)) := by
    obtain ⟨response, answered, told⟩ := refused refusal
    rw [answered]
    exact .of_not_shows fun _ => told.not_shows
  cases named : request.identity? with
  | none =>
      rw [caller_run_of_none limits named]
      exact told database _
  | some identity =>
      refine .of_signingIn named .nil (Program.Meets.mono (attempts_caller limits named)
        (fun _ _ allowed => allowed) ?_)
      intro said result ended later vouches
      cases result with
      | ok user => exact .of_meets named served (.nil (vouches.isAccount ended)) (guarded user)
      | error refusal => exact told later refusal

/-- All work on a request begins secure. -/
theorem serve_secure (limits : Limits) (request : HttpRequest) (database : Database) :
    Secure limits request database (serve limits request) := by
  cases routed : Route.ofPath? request.path with
  | none =>
      unfold serve
      rw [routed]
      exact .of_not_shows fun _ => Content.not_shows_empty
  | some route =>
      cases served : route.endpoint? request.method with
      | none =>
          unfold serve
          rw [routed]
          dsimp only
          rw [served]
          exact .of_not_shows fun _ => Content.not_shows_empty
      | some endpoint =>
          by_cases asks : endpoint = .authStatus
          · exact serve_authStatus_secure limits database routed (asks ▸ served)
          by_cases pings : endpoint = .ping
          · subst pings
            unfold serve
            rw [routed]
            dsimp only
            rw [served]
            exact .of_response fun _ => Content.not_shows_empty
          · exact serve_guarded_secure limits database routed served ⟨pings, asks⟩

/-! ### Steps -/

/-- Only a deletion removes something. -/
theorem Route.method_of_removes {route : Route} {method : String} {endpoint : Endpoint}
    (served : route.endpoint? method = some endpoint) (removes : endpoint.removes = true) :
    method = "DELETE" := by
  unfold endpoint? at served
  split at served <;> cases served <;> try cases removes
  all_goals
    rename_i same
    split at same
    · exact absurd same (by decide)
    · exact same

variable {collation : Collation} {world later : World Database} {action : Action}
  {answer : action.Answer} {next : action.Answer → Work HttpResponse}

/-- Every row that secure work rewrites or removes belongs to the user who made the
request. -/
theorem Secure.owner_of_touched (secure : Secure limits request database (.ask action next))
    (filed : database.Filed) {table : Table} {row : Row} (member : row ∈ database.rows table)
    (touches : action.Touches collation table row) :
    ∃ owner, request.IsFrom database owner ∧ row.get? "owner" = some (.int owner) := by
  cases secure with
  | signingIn named vouches may => exact absurd touches (may.untouched table row)
  | @working identity user _ _ _ _ _ _ named served stands meets =>
      obtain ⟨removes, deed, _⟩ := meets.allowed.2.deed
      exact ⟨user.id, ⟨identity, named, stands.account⟩,
        deed.owner_of_touched stands filed member touches⟩

/-- Secure work stays secure when others change the database, as long as they remove nothing
of the same user. -/
theorem Secure.mono {owner : Int64} {before after : Database} {removes : Bool}
    {rest : Work HttpResponse} (secure : Secure limits request before rest)
    (filed : before.Filed) (change : Change owner before removes after)
    (apart : removes = true → (∃ response, rest = .done response) ∨ ¬ request.IsFrom before owner) :
    Secure limits request after rest := by
  have accounts (id : Int64) (subject : String) (account : before.IsAccount id subject) :
      after.IsAccount id subject := change.account_kept account
  cases secure with
  | signingIn named vouches may goesOn => exact .signingIn named (vouches.mono accounts) may goesOn
  | @working identity user _ _ _ _ _ _ named served stands meets =>
      refine .working named served (stands.mono accounts fun kind id owns => ?_) meets
      refine change.owns_kept filed (fun removing same => ?_) owns
      rcases apart removing with ⟨response, done⟩ | other
      · cases done
      · exact other ⟨identity, named, same ▸ stands.account⟩
  | finished shown =>
      refine .finished fun note shows => ?_
      obtain ⟨identity, named, account⟩ := shown note shows
      exact ⟨identity, named, accounts _ _ account⟩

/-- A step of secure work changes the database for the user who made the request, or adds an
account, and leaves secure work. Things are removed only by deletions. -/
theorem Secure.step (secure : Secure limits request world.store (.ask action next))
    (filed : world.store.Filed) (coherent : world.cache.Coherent world.store)
    (answered : action.Answered collation world answer later) :
    ∃ owner removes, Change owner world.store removes later.store ∧
      later.cache.Coherent later.store ∧
      (removes = true → request.method = "DELETE" ∧ request.IsFrom world.store owner) ∧
      Secure limits request later.store (next answer) := by
  cases secure with
  | signingIn named vouches may goesOn =>
      have change := may.change 0 answered
      refine ⟨0, false, change, may.coherent vouches coherent answered,
        (fun removes => nomatch removes), goesOn answer later.store ?_⟩
      exact vouches.append coherent answered fun _ _ account => change.account_kept account
  | @working identity user _ endpoint said _ _ _ named served stands meets =>
      obtain ⟨removes, deed, removal⟩ := meets.allowed.2.deed
      have change := deed.change stands filed answered
      have kept : later.cache = world.cache := deed.cache_eq answered
      refine ⟨user.id, removes, change, ?_, ?_, ?_⟩
      · rw [kept]
        exact coherent.mono fun _ _ account => change.account_kept account
      · exact fun removing =>
          ⟨Route.method_of_removes served (removal removing).1, identity, named, stands.account⟩
      · have goesOn := meets.answered answer
        cases removes with
        | false => exact .of_meets named served (deed.stands stands filed answered) goesOn
        | true =>
            -- What was found may be gone now, but the request asks for nothing more.
            obtain ⟨endpointRemoves, second⟩ := removal rfl
            generalize next answer = rest at goesOn
            cases rest with
            | done response =>
                exact .of_not_shows fun note => goesOn.ended.not_shows endpointRemoves
            | ask following onward =>
                have exhausted : (said ++ ([⟨action, answer⟩] : Conversation)).length = 2 := by
                  rw [List.length_append, second]
                  rfl
                exact absurd goesOn.allowed.2 (not_permits_of_removes endpointRemoves exhausted)

end Work

end Notebook
