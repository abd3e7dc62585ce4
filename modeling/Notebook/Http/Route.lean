import Notebook.Http.Message

/-!
# Routes

The paths of the service and the methods each of them serves. Paths are compared
as they are written, before percent escapes are decoded. An id at the end of a
path is not empty. `HEAD` is served as `GET`.
-/

namespace Notebook

/-- A path of the service, with the id it holds, still percent-encoded. -/
inductive Route where
  | ping
  | authStatus
  | notes
  | note (id : List Char)
  | sets
  | set (id : List Char)
  | setNotes (id : List Char)
deriving DecidableEq

/-- What the service does on a path by a method. -/
inductive Endpoint where
  | ping
  | authStatus
  | listNotes
  | postNote
  | getNote (id : List Char)
  | updateNote (id : List Char)
  | deleteNote (id : List Char)
  | listSets
  | createSet
  | getSet (id : List Char)
  | updateSet (id : List Char)
  | deleteSet (id : List Char)
  | listSetNotes (id : List Char)
deriving DecidableEq

namespace Route

/-- The route of a path. -/
def ofPath? (path : List Char) : Option Route :=
  match (splitAtEach '/' path).map String.ofList with
  | ["", "ping"] => some .ping
  | ["", "authstatus"] => some .authStatus
  | ["", "notes"] => some .notes
  | ["", "notes", id] => if id = "" then none else some (.note id.toList)
  | ["", "sets"] => some .sets
  | ["", "sets", id] => if id = "" then none else some (.set id.toList)
  | ["", "sets", id, "notes"] => some (.setNotes id.toList)
  | _ => none

/-- What a method does on a route, if the route serves it. -/
def endpoint? (route : Route) (method : String) : Option Endpoint :=
  match route, if method = "HEAD" then "GET" else method with
  | .ping, "GET" => some .ping
  | .authStatus, "GET" => some .authStatus
  | .notes, "GET" => some .listNotes
  | .notes, "POST" => some .postNote
  | .note id, "GET" => some (.getNote id)
  | .note id, "PATCH" => some (.updateNote id)
  | .note id, "DELETE" => some (.deleteNote id)
  | .sets, "GET" => some .listSets
  | .sets, "POST" => some .createSet
  | .set id, "GET" => some (.getSet id)
  | .set id, "PATCH" => some (.updateSet id)
  | .set id, "DELETE" => some (.deleteSet id)
  | .setNotes id, "GET" => some (.listSetNotes id)
  | _, _ => none

end Route

end Notebook
