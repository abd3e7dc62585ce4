import Notebook.Storage.ConnectionUrl
import Notebook.Table
import Notebook.Value

/-!
# Errors

Every way in which building or running a statement, decoding a row or serving a
request can fail, by cause. `Error.message` is the wording of each. Storage may
report an error of any kind in words of its own; the constructors `reported`
carry those.
-/

namespace Notebook

/-- What the database or the way to it reports. -/
inductive DatabaseFault where
  /-- The server refused a statement; `code` is its five-character state. -/
  | server (text : String) (code : Option String)
  | poolTimedOut
  | poolClosed
  | workerCrashed
  | rowNotFound
  | protocol (text : String)
  /-- The connection text does not say where the store is. -/
  | configuration (fault : ConnectionFault)
  | migration (cause : DatabaseFault)
deriving DecidableEq

namespace DatabaseFault

/-- The state code of a violated unique constraint. -/
def uniqueViolationCode : String := "23505"

/-- The wording of a database fault. -/
def message : DatabaseFault → String
  | .server text _ => "error returned from database: " ++ text
  | .poolTimedOut => "pool timed out while waiting for an open connection"
  | .poolClosed => "attempted to acquire a connection on a closed pool"
  | .workerCrashed => "attempted to communicate with a crashed background worker"
  | .rowNotFound => "no rows returned by a query that expected to return at least one row"
  | .protocol text => "encountered unexpected or invalid data: " ++ text
  | .configuration fault => "error with configuration: " ++ fault.message
  | .migration cause => "while executing migrations: " ++ cause.message

/-- The fault a unique constraint raises. -/
def uniqueViolation : DatabaseFault :=
  .server "duplicate key value violates unique constraint" (some uniqueViolationCode)

/-- Holds of the server's reports of a violated unique constraint. -/
def isUniqueViolation : DatabaseFault → Bool
  | .server _ code => code == some uniqueViolationCode
  | _ => false

end DatabaseFault

/-- What is wrong with something the caller asked for. -/
inductive InputFault where
  | unsupportedOperator (text : String)
  | unknownColumn (column : String) (table : Table)
  | wrongArity (table : Table) (values : Nat)
  | emptyUpdate (table : Table)
  | unknownSetType (text : String)
  | notAnInteger (field text : String)
  | notATimestamp (field text : String)
  | notABoolean (field text : String)
  | notAnOrder (text : String)
  | notAnOffset (text : String)
  | reported (text : String)
deriving DecidableEq

/-- The wording of an input fault. -/
def InputFault.message : InputFault → String
  | .unsupportedOperator text => "Unsupported operator '" ++ text ++ "'"
  | .unknownColumn column table =>
      "Unknown column '" ++ column ++ "' for table '" ++ table.name ++ "'"
  | .wrongArity table values =>
      "Table '" ++ table.name ++ "' has " ++ toString table.columns.length ++
        " columns, got " ++ toString values ++ " values"
  | .emptyUpdate table => "Update of '" ++ table.name ++ "' sets no columns"
  | .unknownSetType text =>
      "Unknown set type '" ++ text ++ "', expected daily, monthly or untimed"
  | .notAnInteger field text => "Expected integer at " ++ field ++ "=" ++ text
  | .notATimestamp field text => "Expected RFC 3339 timestamp at " ++ field ++ "=" ++ text
  | .notABoolean field text => "Expected boolean at " ++ field ++ "=" ++ text
  | .notAnOrder text => "Expected asc or desc at order=" ++ text
  | .notAnOffset text => "Expected non-negative integer at offset=" ++ text
  | .reported text => text

/-- Which thing does not exist. -/
inductive Missing where
  | user (id : Int64)
  | note (id : Int64)
  | set (id : Int64)
  | reported (text : String)
deriving DecidableEq

/-- The wording for a missing thing. -/
def Missing.message : Missing → String
  | .user id => "User " ++ toString id ++ " not found"
  | .note id => "Note " ++ toString id ++ " not found"
  | .set id => "Set " ++ toString id ++ " not found"
  | .reported text => text

/-- How a statement's text and its parameters disagree. -/
inductive StatementFault where
  /-- The unnumbered text has `markers` places for `parameters` values. -/
  | count (markers parameters : Nat) (text : String)
  | reported (text : String)
deriving DecidableEq

/-- The wording of a statement fault. -/
def StatementFault.message : StatementFault → String
  | .count markers parameters text =>
      toString markers ++ " placeholders but " ++ toString parameters ++ " parameters in: " ++ text
  | .reported text => text

/-- Why a result could not be read. -/
inductive DecodeFault where
  | missingColumn (column : String)
  | wrongKind (column : String) (expected found : Value.Kind)
  | unsupportedType (column type : String)
  | noNextId (table : Table)
  | reported (text : String)
deriving DecidableEq

/-- The wording of a decode fault. -/
def DecodeFault.message : DecodeFault → String
  | .missingColumn column => "missing column '" ++ column ++ "'"
  | .wrongKind column expected found =>
      "column '" ++ column ++ "': expected " ++ expected.name ++ ", found " ++ found.name
  | .unsupportedType column type => "column '" ++ column ++ "' has unsupported type " ++ type
  | .noNextId table => "next id query on '" ++ table.name ++ "' returned no rows"
  | .reported text => text

/-- Which contest between writers was lost. -/
inductive Contention where
  | ids (table : Table) (attempts : Nat)
  | userIds (attempts : Nat)
  | reported (text : String)
deriving DecidableEq

/-- The wording of a lost contest. -/
def Contention.message : Contention → String
  | .ids table attempts =>
      "Could not allocate an id in '" ++ table.name ++ "' after " ++ toString attempts ++
        " attempts"
  | .userIds attempts =>
      "Could not allocate a user id after " ++ toString attempts ++ " attempts"
  | .reported text => text

/-- An error of the service, by kind and cause. -/
inductive Error where
  | database (fault : DatabaseFault)
  | notFound (missing : Missing)
  | invalidInput (fault : InputFault)
  | statement (fault : StatementFault)
  | decode (fault : DecodeFault)
  | conflict (contention : Contention)
  | serialization (text : String)
deriving DecidableEq

instance : Inhabited Error := ⟨.serialization ""⟩

namespace Error

/-- The wording of an error without its kind. -/
def detail : Error → String
  | .database fault => fault.message
  | .notFound missing => missing.message
  | .invalidInput fault => fault.message
  | .statement fault => fault.message
  | .decode fault => fault.message
  | .conflict contention => contention.message
  | .serialization text => text

/-- The words that announce the kind of an error. -/
def label : Error → String
  | .database _ => "Database error: "
  | .notFound _ => "Not found: "
  | .invalidInput _ => "Invalid input: "
  | .statement _ => "Statement error: "
  | .decode _ => "Decode error: "
  | .conflict _ => "Conflict: "
  | .serialization _ => "Serialization error: "

/-- The wording of an error. -/
def message (error : Error) : String :=
  error.label ++ error.detail

/-- Holds of the errors that a violated unique constraint causes. -/
def isUniqueViolation : Error → Bool
  | .database fault => fault.isUniqueViolation
  | _ => false

end Error

end Notebook
