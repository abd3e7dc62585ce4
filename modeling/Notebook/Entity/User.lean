import Notebook.Json.Basic
import Notebook.Json.Record
import Notebook.Row

/-!
# Users

Accounts, the identities that sign in, and partial updates of a profile; how
they are read from rows and JSON, and how they are written.
-/

namespace Notebook

/-- An account. `gid` is the subject under which its owner signs in. -/
structure User where
  id : Int64
  name : String
  email : String
  gid : String
deriving DecidableEq

/-- The identity that somebody signs in with. -/
structure NewUser where
  gid : String
  name : String
  email : String
deriving DecidableEq

/-- A partial update of a profile; fields that are not given stay as they are. -/
structure UserChanges where
  name : Option String := none
  email : Option String := none
deriving DecidableEq

namespace User

/-- Reads a user from a row. -/
def ofRow (row : Row) : Except Error User := do
  let id ← row.int "id"
  let name ← row.text "name"
  let email ← row.text "email"
  let gid ← row.text "gid"
  return { id, name, email, gid }

/-- The values of a user in the order of the declared columns. -/
def values (user : User) : List Value :=
  [.int user.id, .text user.name, .text user.email, .text user.gid]

/-- A user as JSON. -/
def toJson (user : User) : Json :=
  .object [("id", .int user.id.toInt), ("name", .text user.name),
    ("email", .text user.email), ("gid", .text user.gid)]

/-- The field with the id. -/
def idField : Json.Field Int64 := { name := "id", read := Json.Scan.int64 }

/-- The field with the name. -/
def nameField : Json.Field String := { name := "name", read := Json.Scan.string }

/-- The field with the address. -/
def emailField : Json.Field String := { name := "email", read := Json.Scan.string }

/-- The field with the subject. -/
def gidField : Json.Field String := { name := "gid", read := Json.Scan.string }

/-- Reads a user from JSON. -/
def ofScan (found : Json.Scan) : Except Json.Fault User := do
  let given ← found.record
    [idField.check, nameField.check, emailField.check, gidField.check]
  return {
    id := ← given.required idField
    name := ← given.required nameField
    email := ← given.required emailField
    gid := ← given.required gidField }

end User

/-- Reads an identity from JSON. -/
def NewUser.ofScan (found : Json.Scan) : Except Json.Fault NewUser := do
  let given ← found.record
    [User.gidField.check, User.nameField.check, User.emailField.check]
  return {
    gid := ← given.required User.gidField
    name := ← given.required User.nameField
    email := ← given.required User.emailField }

/-- The account of an identity under a given id. -/
def NewUser.withId (identity : NewUser) (id : Int64) : User :=
  { id, name := identity.name, email := identity.email, gid := identity.gid }

namespace UserChanges

/-- Holds if nothing is to change. -/
def isEmpty (changes : UserChanges) : Bool :=
  changes.name.isNone && changes.email.isNone

/-- The columns to assign, in declared order. -/
def assignments (changes : UserChanges) : List (String × Value) :=
  (changes.name.map fun name => ("name", .text name)).toList ++
    (changes.email.map fun email => ("email", .text email)).toList

/-- The field with the name, if it is to change. -/
def nameField : Json.Field (Option String) :=
  { name := "name", read := Json.Scan.optional Json.Scan.string }

/-- The field with the address, if it is to change. -/
def emailField : Json.Field (Option String) :=
  { name := "email", read := Json.Scan.optional Json.Scan.string }

/-- Reads a partial update from JSON. -/
def ofScan (found : Json.Scan) : Except Json.Fault UserChanges := do
  let given ← found.record [nameField.check, emailField.check]
  return {
    name := ← given.nullable nameField
    email := ← given.nullable emailField }

end UserChanges

end Notebook
