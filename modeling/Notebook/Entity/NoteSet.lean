import Notebook.Json.Basic
import Notebook.Json.Record
import Notebook.Row

/-!
# Note sets

Named groups of notes, requests to create one, and partial updates; how they are
read from rows and JSON, and how they are written.
-/

namespace Notebook

/-- How a set groups its notes. -/
inductive SetType where
  | daily
  | monthly
  | untimed
deriving DecidableEq

namespace SetType

/-- All set types. -/
def all : List SetType :=
  [.daily, .monthly, .untimed]

/-- The name of a set type. -/
def name : SetType → String
  | .daily => "daily"
  | .monthly => "monthly"
  | .untimed => "untimed"

/-- Reads the name of a set type, which has to be exact. -/
def ofText (text : String) : Except Error SetType :=
  match all.find? fun type => type.name = text with
  | some type => .ok type
  | none => .error (.invalidInput (.unknownSetType text))

/-- Reads the name of a set type from JSON. -/
def ofScan : Json.Scan → Except Json.Fault SetType :=
  Json.Scan.choice (all.map fun type => (type.name, type))

/-- A set type is read from its name. -/
@[simp]
theorem ofText_name (type : SetType) : ofText type.name = .ok type := by
  cases type <;> rfl

end SetType

/-- A named group of notes of one owner. -/
structure NoteSet where
  id : Int64
  owner : Int64
  name : String
  type : SetType
deriving DecidableEq

/-- A request to create a set. -/
structure NewSet where
  name : String
  type : SetType
deriving DecidableEq

/-- A partial update of a set; fields that are not given stay as they are. -/
structure NoteSetChanges where
  name : Option String := none
  type : Option SetType := none
deriving DecidableEq

namespace NoteSet

/-- Reads a set from a row. -/
def ofRow (row : Row) : Except Error NoteSet := do
  let id ← row.int "id"
  let owner ← row.int "owner"
  let name ← row.text "name"
  let type ← SetType.ofText (← row.text "type")
  return { id, owner, name, type }

/-- The values of a set in the order of the declared columns. -/
def values (set : NoteSet) : List Value :=
  [.int set.id, .int set.owner, .text set.name, .text set.type.name]

/-- A set as JSON. -/
def toJson (set : NoteSet) : Json :=
  .object [("id", .int set.id.toInt), ("owner", .int set.owner.toInt),
    ("name", .text set.name), ("type", .text set.type.name)]

/-- The field with the id. -/
def idField : Json.Field Int64 := { name := "id", read := Json.Scan.int64 }

/-- The field with the owner. -/
def ownerField : Json.Field Int64 := { name := "owner", read := Json.Scan.int64 }

/-- The field with the name. -/
def nameField : Json.Field String := { name := "name", read := Json.Scan.string }

/-- The field with the type. -/
def typeField : Json.Field SetType := { name := "type", read := SetType.ofScan }

/-- Reads a set from JSON. -/
def ofScan (found : Json.Scan) : Except Json.Fault NoteSet := do
  let given ← found.record
    [idField.check, ownerField.check, nameField.check, typeField.check]
  return {
    id := ← given.required idField
    owner := ← given.required ownerField
    name := ← given.required nameField
    type := ← given.required typeField }

end NoteSet

/-- Reads a request to create a set from JSON. -/
def NewSet.ofScan (found : Json.Scan) : Except Json.Fault NewSet := do
  let given ← found.record [NoteSet.nameField.check, NoteSet.typeField.check]
  return {
    name := ← given.required NoteSet.nameField
    type := ← given.required NoteSet.typeField }

namespace NoteSetChanges

/-- Holds if nothing is to change. -/
def isEmpty (changes : NoteSetChanges) : Bool :=
  changes.name.isNone && changes.type.isNone

/-- The columns to assign, in declared order. -/
def assignments (changes : NoteSetChanges) : List (String × Value) :=
  (changes.name.map fun name => ("name", .text name)).toList ++
    (changes.type.map fun type => ("type", .text type.name)).toList

/-- The field with the name, if it is to change. -/
def nameField : Json.Field (Option String) :=
  { name := "name", read := Json.Scan.optional Json.Scan.string }

/-- The field with the type, if it is to change. -/
def typeField : Json.Field (Option SetType) :=
  { name := "type", read := Json.Scan.optional SetType.ofScan }

/-- Reads a partial update from JSON. -/
def ofScan (found : Json.Scan) : Except Json.Fault NoteSetChanges := do
  let given ← found.record [nameField.check, typeField.check]
  return {
    name := ← given.nullable nameField
    type := ← given.nullable typeField }

end NoteSetChanges

end Notebook
