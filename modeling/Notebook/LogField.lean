/-!
# Log fields

The names under which events carry what they are about.
-/

namespace Notebook

/-- A field of log events. -/
inductive LogField where
  | subsystem
  | component
  | operation
  | userId
  | noteId
  | setId
  | table
  | duration
  | paramCount
  | rowCount
  | attempt
  | error
deriving DecidableEq

namespace LogField

/-- All fields, from who speaks to what went wrong. -/
def all : List LogField :=
  [.subsystem, .component, .operation, .userId, .noteId, .setId, .table, .duration,
    .paramCount, .rowCount, .attempt, .error]

/-- The name of a field. -/
def name : LogField → String
  | .subsystem => "subsystem"
  | .component => "component"
  | .operation => "op"
  | .userId => "user_id"
  | .noteId => "note_id"
  | .setId => "set_id"
  | .table => "db_table"
  | .duration => "duration_ms"
  | .paramCount => "param_count"
  | .rowCount => "row_count"
  | .attempt => "attempt"
  | .error => "error"

end LogField

end Notebook
