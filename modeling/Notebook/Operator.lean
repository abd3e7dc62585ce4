import Notebook.Text.Blank
import Notebook.Error

/-!
# Comparison operators and conjunctions

Their SQL spellings, and the spellings accepted from callers: blanks around an
operator do not matter, `LIKE` may be in any case, and `!=` means `<>`.
-/

namespace Notebook

/-- How a comparison relates a column to a value. -/
inductive Operator where
  | eq
  | notEq
  | gt
  | lt
  | gtEq
  | ltEq
  | like
deriving DecidableEq

namespace Operator

/-- All operators, in their customary order. -/
def all : List Operator :=
  [.eq, .notEq, .gt, .lt, .gtEq, .ltEq, .like]

/-- The SQL spelling of an operator. -/
def sql : Operator → String
  | .eq => "="
  | .notEq => "<>"
  | .gt => ">"
  | .lt => "<"
  | .gtEq => ">="
  | .ltEq => "<="
  | .like => "LIKE"

/-- The operator a trimmed text spells. -/
def ofSpelling? (text : String) : Option Operator :=
  if text.toList.map Char.toLower = ['l', 'i', 'k', 'e'] then some .like
  else if text = "!=" then some .notEq
  else all.find? fun operator => operator.sql = text

/-- Reads an operator; the message of a failure names the trimmed text. -/
def ofText (text : String) : Except Error Operator :=
  let spelling := Text.trim text
  match ofSpelling? spelling with
  | some operator => .ok operator
  | none => .error (.invalidInput (.unsupportedOperator spelling))

/-- Every operator is listed. -/
theorem mem_all (operator : Operator) : operator ∈ all := by
  cases operator <;> decide

/-- No two operators share a spelling. -/
theorem sql_injective {first second : Operator} (same : first.sql = second.sql) :
    first = second := by
  revert same
  cases first <;> cases second <;> decide

end Operator

/-- How a further predicate is joined to a chain. -/
inductive Conjunction where
  | and
  | or
deriving DecidableEq

/-- The SQL spelling of a conjunction. -/
def Conjunction.sql : Conjunction → String
  | .and => "AND"
  | .or => "OR"

end Notebook
