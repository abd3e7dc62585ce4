import Notebook.Time.Timestamp

/-!
# Values

The scalars that statements carry and rows hold.
-/

namespace Notebook

/-- A scalar bound to a statement or read from a row. -/
inductive Value where
  | null
  | int (n : Int64)
  | bool (b : Bool)
  | text (s : String)
  | timestamp (time : Timestamp)
deriving DecidableEq

namespace Value

/-- What kind of scalar a value is. -/
inductive Kind where
  | null
  | int
  | bool
  | text
  | timestamp
deriving DecidableEq

/-- The word for a kind in messages. -/
def Kind.name : Kind → String
  | .null => "null"
  | .int => "int"
  | .bool => "bool"
  | .text => "text"
  | .timestamp => "timestamp"

/-- The kind of a value. -/
def kind : Value → Kind
  | .null => .null
  | .int _ => .int
  | .bool _ => .bool
  | .text _ => .text
  | .timestamp _ => .timestamp

/-- Holds of the missing value only. -/
def isNull (value : Value) : Bool :=
  value.kind == .null

end Value

end Notebook
