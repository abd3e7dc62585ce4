import Notebook.Http.Identity
import Notebook.Http.MediaType
import Notebook.Http.Refusal
import Notebook.Http.Route
import Notebook.Json.Bytes
import Notebook.Listing.Query
import Notebook.Repository.Sets
import Notebook.Repository.Users

/-!
# The service

What each endpoint does. A request is read in a fixed order: identity, id in the
path, query, body. Notes and sets of other owners are reported as missing, in
the same words as those that do not exist; a set that a note is to be filed in
has to be the caller's own.
-/

namespace Notebook

/-- Work on a request, which may be refused. -/
abbrev Handling (α : Type) := ExceptT Refusal (Program Action Action.Answer) α

namespace Handling

/-- Performs a job; its error refuses the request. -/
def ofJob (job : Job α) : Handling α :=
  ExceptT.mk (Except.mapError Refusal.ofError <$> job.run)

/-- Gives a result that is already known. -/
def ofExcept (result : Except Error α) : Handling α :=
  ofJob (Job.ofExcept result)

/-- The signed-in caller, if the request has an identity. -/
def caller? (limits : Limits) (request : HttpRequest) : Handling (Option User) :=
  match request.identity? with
  | none => return none
  | some identity => some <$> ofJob (Users.createOrGet limits identity)

/-- The signed-in caller; requests without an identity are refused. -/
def caller (limits : Limits) (request : HttpRequest) : Handling User := do
  match ← caller? limits request with
  | some user => return user
  | none => throw .unauthenticated

/-- The id in a path. -/
def pathId (segment : List Char) : Handling Int64 :=
  match (Utf8.decode? (Percent.decode segment)).bind Decimal.int64? with
  | some id => return id
  | none => throw (.rejected 400)

/-- The texts of a listing of notes. -/
def notesQuery (request : HttpRequest) : Handling NotesQuery :=
  match NotesQuery.ofForm? request.query with
  | some query => return query
  | none => throw (.rejected 400)

/-- The texts of a listing that can only be paged. -/
def pageQuery (request : HttpRequest) : Handling PageQuery :=
  match PageQuery.ofForm? request.query with
  | some query => return query
  | none => throw (.rejected 400)

/-- The JSON body of a request, whose header has to announce it. Text behind the
first value is not looked at. -/
def body (read : Json.Scan → Except Json.Fault α) (request : HttpRequest) : Handling α := do
  let type := (request.headerText? "content-type").bind MediaType.ofText?
  if (type.map MediaType.isJson).getD false then
    match Json.readStart read request.body with
    | .ok value => return value
    | .error .malformed => throw (.rejected 400)
    | .error .unfit => throw (.rejected 422)
  else throw (.rejected 415)

/-- The caller's note with an id. -/
def ownedNote (owner id : Int64) : Handling Note := do
  match (← ofJob (Notes.get id)).filter fun note => note.owner = owner with
  | some note => return note
  | none => throw (.notFound (Missing.note id).message)

/-- The caller's set with an id. -/
def ownedSet (owner id : Int64) : Handling NoteSet := do
  match (← ofJob (Sets.get id)).filter fun set => set.owner = owner with
  | some set => return set
  | none => throw (.notFound (Missing.set id).message)

/-- The caller's set that a note is to be filed in. The route exists whatever
set is named, so a set that is not the caller's makes a bad request. -/
def targetSet (owner id : Int64) : Handling NoteSet := do
  match (← ofJob (Sets.get id)).filter fun set => set.owner = owner with
  | some set => return set
  | none => throw (.badRequest ("Unknown set " ++ toString id))

/-- Refuses an update that changes nothing. -/
def refuseEmpty (isEmpty : Bool) : Handling Unit :=
  if isEmpty then throw (.badRequest "No fields to update") else return ()

/-- A successful response with a JSON body. -/
def json (value : Json) : HttpResponse :=
  { status := 200, content := .json value }

/-- A successful response without a body. -/
def noContent : HttpResponse :=
  { status := 204, content := .empty }

/-- Files a new note, in the caller's own set if one is named. -/
def postNote (limits : Limits) (request : HttpRequest) : Handling HttpResponse := do
  let user ← caller limits request
  let new ← body NewNote.ofScan request
  let set ← new.set.mapM (targetSet user.id)
  let note ← ofJob (Notes.post limits user.id new.body set)
  return json note.toJson

/-- Changes the caller's note and answers with the note as stored. -/
def updateNote (limits : Limits) (request : HttpRequest) (segment : List Char) :
    Handling HttpResponse := do
  let user ← caller limits request
  let id ← pathId segment
  let changes ← body NoteChanges.ofScan request
  let _ ← ownedNote user.id id
  if let some (some set) := changes.set then
    let _ ← targetSet user.id set
  refuseEmpty changes.isEmpty
  ofJob (Notes.edit id changes)
  let note ← ownedNote user.id id
  return json note.toJson

/-- Changes the caller's set and answers with the set as stored. -/
def updateSet (limits : Limits) (request : HttpRequest) (segment : List Char) :
    Handling HttpResponse := do
  let user ← caller limits request
  let id ← pathId segment
  let changes ← body NoteSetChanges.ofScan request
  let _ ← ownedSet user.id id
  refuseEmpty changes.isEmpty
  ofJob (Sets.edit id changes)
  let set ← ownedSet user.id id
  return json set.toJson

/-- Lists the notes of the caller's set. The set is looked up before the offset
is read. -/
def listSetNotes (limits : Limits) (request : HttpRequest) (segment : List Char) :
    Handling HttpResponse := do
  let user ← caller limits request
  let id ← pathId segment
  let query ← pageQuery request
  let _ ← ownedSet user.id id
  let offset ← ofExcept (Listing.offset query.offset)
  let notes ← ofJob (Sets.notes limits id offset)
  return json (.array (notes.map Note.toJson))

/-- What an endpoint does. -/
def endpoint (limits : Limits) (request : HttpRequest) : Endpoint → Handling HttpResponse
  | .ping => return { status := 200, content := .empty }
  | .authStatus => do
      let user? ← caller? limits request
      return json (.object [("authed", .bool user?.isSome)])
  | .listNotes => do
      let user ← caller limits request
      let query ← notesQuery request
      let listing ← ofExcept query.listing
      let notes ← ofJob (Notes.list limits user.id listing)
      return json (.array (notes.map Note.toJson))
  | .postNote => postNote limits request
  | .getNote segment => do
      let user ← caller limits request
      let id ← pathId segment
      let note ← ownedNote user.id id
      return json note.toJson
  | .updateNote segment => updateNote limits request segment
  | .deleteNote segment => do
      let user ← caller limits request
      let id ← pathId segment
      let _ ← ownedNote user.id id
      ofJob (Notes.delete id)
      return noContent
  | .listSets => do
      let user ← caller limits request
      let query ← pageQuery request
      let offset ← ofExcept (Listing.offset query.offset)
      let sets ← ofJob (Sets.list limits user.id offset)
      return json (.array (sets.map NoteSet.toJson))
  | .createSet => do
      let user ← caller limits request
      let new ← body NewSet.ofScan request
      let set ← ofJob (Sets.create limits user.id new)
      return json set.toJson
  | .getSet segment => do
      let user ← caller limits request
      let id ← pathId segment
      let set ← ownedSet user.id id
      return json set.toJson
  | .updateSet segment => updateSet limits request segment
  | .deleteSet segment => do
      let user ← caller limits request
      let id ← pathId segment
      let _ ← ownedSet user.id id
      ofJob (Sets.delete id)
      return noContent
  | .listSetNotes segment => listSetNotes limits request segment

end Handling

/-- The response that a handled request gets. -/
def HttpResponse.ofResult : Except Refusal HttpResponse → HttpResponse
  | .ok response => response
  | .error refusal => refusal.response

/-- Serves a request. Unknown paths and methods that a path does not serve are
answered without looking at the identity; `HEAD` leaves the body away. -/
def serve (limits : Limits) (request : HttpRequest) : Work HttpResponse :=
  match Route.ofPath? request.path with
  | none => return { status := 404, content := .empty }
  | some route =>
      match route.endpoint? request.method with
      | none => return { status := 405, content := .empty }
      | some endpoint => do
          let result ← (Handling.endpoint limits request endpoint).run
          let response := HttpResponse.ofResult result
          if request.method = "HEAD" then return { response with content := .empty }
          else return response

end Notebook
