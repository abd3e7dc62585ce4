import Notebook.Http.Service
import Notebook.Proofs.Sql.Operation
import Notebook.Proofs.Work.Conversation

/-!
# What each endpoint may ask

The endpoints check who owns a thing in one statement and act on it by its id in another.
`Permits` lists, endpoint by endpoint, all that may be asked for a signed-in caller, and
with each action what must have been answered before. It speaks of the conversation only,
so it holds or fails whatever the store is like.

A lookup that finds nothing of the caller's refuses the request (`Refuses`), and a
conversation is open as long as none has.
-/

namespace Notebook

/-! ### Things with owners -/

/-- What somebody may own. -/
inductive Belonging where
  | note
  | set
deriving DecidableEq

namespace Belonging

/-- The things of a kind. -/
@[reducible]
def Thing : Belonging → Type
  | .note => Note
  | .set => NoteSet

/-- The table of a kind. -/
def table : Belonging → Table
  | .note => .notes
  | .set => .sets

/-- How a thing is read from its row. -/
def read : (kind : Belonging) → Row → Except Error kind.Thing
  | .note => Note.ofRow
  | .set => NoteSet.ofRow

/-- Whose a thing is. -/
def owner : (kind : Belonging) → kind.Thing → Int64
  | .note => Note.owner
  | .set => NoteSet.owner

/-- The query for the thing with an id. -/
def lookup (kind : Belonging) (id : Int64) : Select :=
  { table := kind.table, outputs := ["*"], condition := some (.eq "id" (.int id)), limit := 1 }

/-- Different kinds are kept in different tables. -/
theorem table_injective {first second : Belonging} (same : first.table = second.table) :
    first = second := by
  cases first <;> cases second <;> first | rfl | cases same

end Belonging

/-! ### Actions -/

namespace Action

/-- The action reads what a query asks for. -/
def Queries (query : Select) (action : Action) : Prop :=
  ∃ statement, query.statement = .ok statement ∧ action = .store (.execute statement)

/-- The action looks a thing up by its id. -/
def LooksUp (kind : Belonging) (id : Int64) (action : Action) : Prop :=
  action.Queries (kind.lookup id)

/-- The action inserts a row under the next id of a table. -/
def Allocates (table : Table) (values : Int64 → List Value) (action : Action) : Prop :=
  ∃ query, table.nextIdQuery.statement = .ok query ∧
    action = .store (.executeSerialized table.lockKey query (table.insertNext values))

/-- The action assigns columns of the row with an id. -/
def Updates (table : Table) (id : Int64) (assignments : List (String × Value))
    (action : Action) : Prop :=
  ∃ statement, table.updateStatement (.eq "id" (.int id)) assignments = .ok statement ∧
    action = .store (.execute statement)

/-- The action deletes the note with an id. -/
def DeletesNote (id : Int64) (action : Action) : Prop :=
  ∃ statement, Table.notes.deleteStatement (.eq "id" (.int id)) = .ok statement ∧
    action = .store (.execute statement)

/-- The action deletes the set with an id and the notes filed in it, in one transaction. -/
def DeletesSet (id : Int64) (action : Action) : Prop :=
  ∃ notes set, Table.notes.deleteStatement (.eq "set" (.int id)) = .ok notes ∧
    Table.sets.deleteStatement (.eq "id" (.int id)) = .ok set ∧
    action = .store (.executeAtomic [notes, set])

end Action

/-! ### What was answered -/

namespace Conversation

/-- A query was answered by this outcome. -/
def Got (said : Conversation) (query : Select) (outcome : Outcome) : Prop :=
  ∃ statement, query.statement = .ok statement ∧
    (⟨.store (.execute statement), .ok outcome⟩ :
      Program.Exchange Action Action.Answer) ∈ said

/-- A lookup by this id was answered, and the first row is this thing. -/
def Saw (said : Conversation) (kind : Belonging) (id : Int64) (thing : kind.Thing) : Prop :=
  ∃ outcome, said.Got (kind.lookup id) outcome ∧ outcome.readFirst kind.read = .ok (some thing)

/-- A lookup by this id found a thing of this owner. -/
def SawOwned (said : Conversation) (kind : Belonging) (owner id : Int64) : Prop :=
  ∃ thing, said.Saw kind id thing ∧ kind.owner thing = owner

end Conversation

/-- A lookup was answered by no row, or by a first row that is a thing of somebody else. -/
def Refuses (kind : Belonging) (owner : Int64)
    (exchange : Program.Exchange Action Action.Answer) : Prop :=
  ∃ id statement outcome found, (kind.lookup id).statement = .ok statement ∧
    exchange = ⟨.store (.execute statement), .ok outcome⟩ ∧
    outcome.readFirst kind.read = .ok found ∧ ∀ thing ∈ found, kind.owner thing ≠ owner

/-- No lookup has refused the request yet. -/
def Conversation.Open (owner : Int64) (said : Conversation) : Prop :=
  ∀ exchange ∈ said, ∀ kind, ¬ Refuses kind owner exchange

/-! ### Permission -/

/-- A path segment is the number of a row. -/
def Addresses (segment : List Char) (id : Int64) : Prop :=
  (Utf8.decode? (Percent.decode segment)).bind Decimal.int64? = some id

/-- The body of a request is read as this. -/
def HttpRequest.Carries {α : Type} (request : HttpRequest)
    (read : Json.Scan → Except Json.Fault α) (value : α) : Prop :=
  (Handling.body read request).run = .done (.ok value)

/-- The note that is to be posted is the caller's, and it is filed in no set or in the
caller's set that was found under the id the request names. -/
def Postable (request : HttpRequest) (user : User) (said : Conversation) (note : Note) : Prop :=
  note.owner = user.id ∧
    ∀ filed, note.set = some filed →
      ∃ new requested set, request.Carries NewNote.ofScan new ∧ new.set = some requested ∧
        said.Saw .set requested set ∧ set.owner = user.id ∧ filed = set.id

/-- Whatever set the changes of a note name was found to be the caller's. -/
def Fileable (user : User) (said : Conversation) (changes : NoteChanges) : Prop :=
  ∀ set, changes.set = some (some set) → said.SawOwned .set user.id set

/-- What an endpoint may ask for the caller after what was said. A deletion is the second
and last thing that is asked. -/
def Permits (limits : Limits) (request : HttpRequest) (user : User) (said : Conversation) :
    Endpoint → Action → Prop
  | .ping, _ => False
  | .authStatus, _ => False
  | .listNotes, action =>
      ∃ listing : NoteListing, action.Queries
        (Notes.pageQuery limits (Notes.listingCondition user.id listing) listing.order
          listing.offset)
  | .postNote, action =>
      (∃ new set, request.Carries NewNote.ofScan new ∧ new.set = some set ∧
        action.LooksUp .set set) ∨
      action = .now ∨
      ∃ note, Postable request user said note ∧
        action.Allocates .notes fun id => { note with id }.values
  | .getNote segment, action => ∃ id, Addresses segment id ∧ action.LooksUp .note id
  | .updateNote segment, action =>
      ∃ id, Addresses segment id ∧
        (action.LooksUp .note id ∨
          said.SawOwned .note user.id id ∧
            ∃ changes, request.Carries NoteChanges.ofScan changes ∧
              ((∃ set, changes.set = some (some set) ∧ action.LooksUp .set set) ∨
                Fileable user said changes ∧ action.Updates .notes id changes.assignments))
  | .deleteNote segment, action =>
      ∃ id, Addresses segment id ∧
        (said = [] ∧ action.LooksUp .note id ∨
          said.length = 1 ∧ said.SawOwned .note user.id id ∧ action.DeletesNote id)
  | .listSets, action => ∃ offset, action.Queries (Sets.listQuery limits user.id offset)
  | .createSet, action =>
      ∃ set : NoteSet, set.owner = user.id ∧
        action.Allocates .sets fun id => { set with id }.values
  | .getSet segment, action => ∃ id, Addresses segment id ∧ action.LooksUp .set id
  | .updateSet segment, action =>
      ∃ id, Addresses segment id ∧
        (action.LooksUp .set id ∨
          said.SawOwned .set user.id id ∧
            ∃ changes, request.Carries NoteSetChanges.ofScan changes ∧
              action.Updates .sets id changes.assignments)
  | .deleteSet segment, action =>
      ∃ id, Addresses segment id ∧
        (said = [] ∧ action.LooksUp .set id ∨
          said.length = 1 ∧ said.SawOwned .set user.id id ∧ action.DeletesSet id)
  | .listSetNotes segment, action =>
      ∃ id, Addresses segment id ∧
        (action.LooksUp .set id ∨
          said.SawOwned .set user.id id ∧
            ∃ offset, action.Queries
              (Notes.pageQuery limits (.eq "set" (.int id)) .asc offset))

/-- What a successful answer of an endpoint shows. -/
def Gives (limits : Limits) (user : User) (said : Conversation) :
    Endpoint → HttpResponse → Prop
  | .ping, _ => False
  | .authStatus, _ => False
  | .listNotes, response =>
      ∃ (listing : NoteListing) (outcome : Outcome) (notes : List Note),
        said.Got (Notes.pageQuery limits (Notes.listingCondition user.id listing) listing.order
          listing.offset) outcome ∧
        outcome.readAll Note.ofRow = .ok notes ∧
        response = Handling.json (.array (notes.map Note.toJson))
  | .postNote, response =>
      ∃ note : Note, note.owner = user.id ∧ response = Handling.json note.toJson
  | .getNote segment, response =>
      ∃ id note, Addresses segment id ∧ said.Saw .note id note ∧ note.owner = user.id ∧
        response = Handling.json note.toJson
  | .updateNote segment, response =>
      ∃ id note, Addresses segment id ∧ said.Saw .note id note ∧ note.owner = user.id ∧
        response = Handling.json note.toJson
  | .deleteNote _, response => response = Handling.noContent
  | .listSets, response =>
      ∃ (offset : Option UInt64) (outcome : Outcome) (sets : List NoteSet),
        said.Got (Sets.listQuery limits user.id offset) outcome ∧
        outcome.readAll NoteSet.ofRow = .ok sets ∧
        response = Handling.json (.array (sets.map NoteSet.toJson))
  | .createSet, response =>
      ∃ set : NoteSet, set.owner = user.id ∧ response = Handling.json set.toJson
  | .getSet segment, response =>
      ∃ id set, Addresses segment id ∧ said.Saw .set id set ∧ set.owner = user.id ∧
        response = Handling.json set.toJson
  | .updateSet segment, response =>
      ∃ id set, Addresses segment id ∧ said.Saw .set id set ∧ set.owner = user.id ∧
        response = Handling.json set.toJson
  | .deleteSet _, response => response = Handling.noContent
  | .listSetNotes segment, response =>
      ∃ (id : Int64) (offset : Option UInt64) (outcome : Outcome) (notes : List Note),
        Addresses segment id ∧
        said.Got (Notes.pageQuery limits (.eq "set" (.int id)) .asc offset) outcome ∧
        outcome.readAll Note.ofRow = .ok notes ∧
        response = Handling.json (.array (notes.map Note.toJson))

/-- The status of a request that a lookup refused. A set that a note is to be filed in
makes a bad request; everything else is reported as missing. -/
def Endpoint.missingStatus (kind : Belonging) : Endpoint → Nat
  | .postNote => 400
  | .updateNote _ => if kind = .set then 400 else 404
  | _ => 404

/-- If a lookup refused the request, this is its status. -/
def Settles (endpoint : Endpoint) (owner : Int64) (said : Conversation) (status : Nat) : Prop :=
  ∀ kind, (∃ exchange ∈ said, Refuses kind owner exchange) →
    status = endpoint.missingStatus kind

end Notebook
