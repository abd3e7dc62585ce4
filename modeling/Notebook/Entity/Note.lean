import Notebook.Json.Basic
import Notebook.Json.Record
import Notebook.Row

/-!
# Notes

Notes, requests to post one, and partial updates; how they are read from rows
and JSON, and how they are written. Rows keep a number for the set of a note;
a note in no set has the number `noSet`, and every negative number reads so.
-/

namespace Notebook

/-- A note of one owner, which may be filed in a set. -/
structure Note where
  id : Int64
  owner : Int64
  set : Option Int64
  timestamp : Timestamp
  body : String
  marked : Bool
deriving DecidableEq

/-- A request to post a note. -/
structure NewNote where
  body : String
  set : Option Int64
deriving DecidableEq

/-- A partial update of a note; fields that are not given stay as they are. -/
structure NoteChanges where
  /-- The set to move the note to; `some none` takes it out of its set. -/
  set : Option (Option Int64) := none
  timestamp : Option Timestamp := none
  body : Option String := none
  marked : Option Bool := none
deriving DecidableEq

namespace Note

/-- The number kept for a note in no set. -/
def noSet : Int64 := -1

/-- The number kept for an optional set. -/
def setNumber (set : Option Int64) : Int64 :=
  set.getD noSet

/-- The set that a kept number stands for. -/
def setOfNumber (number : Int64) : Option Int64 :=
  if 0 ≤ number then some number else none

/-- Reads a note from a row; the column of the set is read first. -/
def ofRow (row : Row) : Except Error Note := do
  let number ← row.int "set"
  let id ← row.int "id"
  let owner ← row.int "owner"
  let timestamp ← row.timestamp "timestamp"
  let body ← row.text "body"
  let marked ← row.bool "marked"
  return { id, owner, set := setOfNumber number, timestamp, body, marked }

/-- The values of a note in the order of the declared columns. -/
def values (note : Note) : List Value :=
  [.int note.id, .int note.owner, .int (setNumber note.set), .timestamp note.timestamp,
    .text note.body, .bool note.marked]

/-- A note as JSON. -/
def toJson (note : Note) : Json :=
  .object [("id", .int note.id.toInt), ("owner", .int note.owner.toInt),
    ("set", (note.set.map fun set => Json.int set.toInt).getD .null),
    ("timestamp", .text note.timestamp.text), ("body", .text note.body),
    ("marked", .bool note.marked)]

/-- The field with the id. -/
def idField : Json.Field Int64 := { name := "id", read := Json.Scan.int64 }

/-- The field with the owner. -/
def ownerField : Json.Field Int64 := { name := "owner", read := Json.Scan.int64 }

/-- The field with the set. -/
def setField : Json.Field (Option Int64) :=
  { name := "set", read := Json.Scan.optional Json.Scan.int64 }

/-- The field with the timestamp. -/
def timestampField : Json.Field Timestamp :=
  { name := "timestamp", read := Json.Scan.timestamp }

/-- The field with the body. -/
def bodyField : Json.Field String := { name := "body", read := Json.Scan.string }

/-- The field with the mark. -/
def markedField : Json.Field Bool := { name := "marked", read := Json.Scan.boolean }

/-- Reads a note from JSON. -/
def ofScan (found : Json.Scan) : Except Json.Fault Note := do
  let given ← found.record
    [idField.check, ownerField.check, setField.check, timestampField.check,
      bodyField.check, markedField.check]
  return {
    id := ← given.required idField
    owner := ← given.required ownerField
    set := ← given.nullable setField
    timestamp := ← given.required timestampField
    body := ← given.required bodyField
    marked := ← given.required markedField }

/-- A set number that is not negative is read back as that set. -/
theorem setOfNumber_setNumber {set : Option Int64} (valid : ∀ id ∈ set, 0 ≤ id) :
    setOfNumber (setNumber set) = set := by
  cases set with
  | none => decide
  | some id => simp [setNumber, setOfNumber, valid id rfl]

end Note

namespace NewNote

/-- The field with the set, which arrays may leave off. -/
def setField : Json.Field (Option Int64) :=
  { Note.setField with mayBeLeftOff := true }

/-- Reads a request to post a note from JSON. -/
def ofScan (found : Json.Scan) : Except Json.Fault NewNote := do
  let given ← found.record [Note.bodyField.check, setField.check]
  return {
    body := ← given.required Note.bodyField
    set := ← given.nullable setField }

end NewNote

namespace NoteChanges

/-- Holds if nothing is to change. -/
def isEmpty (changes : NoteChanges) : Bool :=
  changes.set.isNone && changes.timestamp.isNone && changes.body.isNone &&
    changes.marked.isNone

/-- The columns to assign, in declared order. -/
def assignments (changes : NoteChanges) : List (String × Value) :=
  (changes.set.map fun set => ("set", .int (Note.setNumber set))).toList ++
    (changes.timestamp.map fun time => ("timestamp", .timestamp time)).toList ++
    (changes.body.map fun body => ("body", .text body)).toList ++
    (changes.marked.map fun marked => ("marked", .bool marked)).toList

/-- The field with the set; `null` takes the note out of its set. -/
def setField : Json.Field (Option Int64) :=
  { Note.setField with mayBeLeftOff := true }

/-- The field with the timestamp, if it is to change. -/
def timestampField : Json.Field (Option Timestamp) :=
  { name := "timestamp", read := Json.Scan.optional Json.Scan.timestamp }

/-- The field with the body, if it is to change. -/
def bodyField : Json.Field (Option String) :=
  { name := "body", read := Json.Scan.optional Json.Scan.string }

/-- The field with the mark, if it is to change. -/
def markedField : Json.Field (Option Bool) :=
  { name := "marked", read := Json.Scan.optional Json.Scan.boolean }

/-- Reads a partial update from JSON. Only for the set does `null` differ from
absence. -/
def ofScan (found : Json.Scan) : Except Json.Fault NoteChanges := do
  let given ← found.record
    [setField.check, timestampField.check, bodyField.check, markedField.check]
  return {
    set := ← given.given? setField
    timestamp := ← given.nullable timestampField
    body := ← given.nullable bodyField
    marked := ← given.nullable markedField }

end NoteChanges

end Notebook
