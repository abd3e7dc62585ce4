import Notebook.Json.Scan
import Notebook.Time.Reading

/-!
# Reading records from JSON

Readers of scalars, choices and records over a scan. A problem is `malformed` if
the text is not JSON where it is read, and `unfit` if it is JSON of the wrong
shape. The first problem of the text decides.

A record is written as an object, whose unknown members are skipped, or as an
array of its fields in declared order.
-/

namespace Notebook.Json

/-- Why a text cannot be read. -/
inductive Fault where
  /-- The text is not JSON. -/
  | malformed
  /-- The text is JSON, but not what is wanted. -/
  | unfit
deriving DecidableEq

namespace Scan

/-- The problem with a value where one of another kind is wanted. -/
def fault : Scan → Fault
  | .broken => .malformed
  | .text none => .malformed
  | .number .tooLarge => .malformed
  | _ => .unfit

/-- Reads a 64-bit signed integer. -/
def int64 : Scan → Except Fault Int64
  | .number (.integer n) =>
      match Decimal.toInt64? n with
      | some n => .ok n
      | none => .error .unfit
  | found => .error found.fault

/-- Reads a truth value. -/
def boolean : Scan → Except Fault Bool
  | .bool b => .ok b
  | found => .error found.fault

/-- Reads a string. -/
def string : Scan → Except Fault String
  | .text (some s) => .ok s
  | found => .error found.fault

/-- Reads a leniently written timestamp in a string. -/
def timestamp (found : Scan) : Except Fault Timestamp := do
  let text ← found.string
  match Timestamp.lenient? text with
  | some time => return time
  | none => throw .unfit

/-- Reads `null` as nothing and everything else as `read` does. -/
def optional (read : Scan → Except Fault α) : Scan → Except Fault (Option α)
  | .null => .ok none
  | found => (read found).map some

/-- Reads one of several names: a string, or an object whose only member has
the name and the value `null`. A value of another kind is malformed in this place. -/
def choice (choices : List (String × α)) : Scan → Except Fault α
  | .text (some name) =>
      match choices.lookup name with
      | some chosen => .ok chosen
      | none => .error .unfit
  | .object ((.text (some name), found) :: more) closed =>
      match choices.lookup name, found with
      | none, _ => .error .unfit
      | some chosen, .null => if more.isEmpty && closed then .ok chosen else .error .malformed
      | some _, found => .error found.fault
  | .object ((name, _) :: _) _ => .error name.fault
  | _ => .error .malformed

end Scan

/-- A field of a record. -/
structure Field (α : Type) where
  name : String
  read : Scan → Except Fault α
  /-- Whether arrays may end before this field. -/
  mayBeLeftOff : Bool := false

/-- The field with its value checked but not kept. -/
def Field.check (field : Field α) : Field Unit :=
  { field with read := fun found => (field.read found).map fun _ => () }

/-- The fields of a record that were given, with what was scanned for each. -/
abbrev Given := List (String × Scan)

namespace Given

/-- The value of a field that has to be given. -/
def required (given : Given) (field : Field α) : Except Fault α :=
  match given.lookup field.name with
  | some found => field.read found
  | none => .error .unfit

/-- The value of a field, if it is given. -/
def given? (given : Given) (field : Field α) : Except Fault (Option α) :=
  match given.lookup field.name with
  | some found => (field.read found).map some
  | none => .ok none

/-- The value of a field for which `null` means the same as its absence. -/
def nullable (given : Given) (field : Field (Option α)) : Except Fault (Option α) :=
  (given.given? field).map Option.join

end Given

namespace Scan

/-- Reads the members of an object in order. A known field may be given once;
members of other names only have to be JSON. -/
def readMembers (fields : List (Field Unit)) (closed : Bool) (given : Given) :
    List (Scan × Scan) → Except Fault Given
  | [] => if closed then .ok given else .error .malformed
  | (.text (some name), found) :: rest =>
      match fields.find? fun field => field.name == name with
      | none =>
          if found.isWhole then readMembers fields closed given rest else .error .malformed
      | some field =>
          if (given.lookup name).isSome then .error .unfit
          else do
            field.read found
            readMembers fields closed (given ++ [(name, found)]) rest
  | (_, _) :: _ => .error .malformed

/-- Reads the items of an array as the fields in declared order. -/
def readItems (closed : Bool) (given : Given) :
    List (Field Unit) → List Scan → Except Fault Given
  | [], [] => if closed then .ok given else .error .malformed
  | [], _ :: _ => .error .malformed
  | field :: fields, [] =>
      if !closed then .error .malformed
      else if field.mayBeLeftOff then readItems closed given fields []
      else .error .unfit
  | field :: fields, found :: rest => do
      field.read found
      readItems closed (given ++ [(field.name, found)]) fields rest

/-- Reads the fields of a record. -/
def record (fields : List (Field Unit)) : Scan → Except Fault Given
  | .object members closed => readMembers fields closed [] members
  | .array items closed => readItems closed [] fields items
  | found => .error found.fault

end Scan

/-- Reads a text that holds one value and nothing else. -/
def readWhole (read : Scan → Except Fault α) (text : String) : Except Fault α := do
  let (found, more) := Scan.ofText text
  let value ← read found
  if more then throw .malformed else return value

end Notebook.Json
