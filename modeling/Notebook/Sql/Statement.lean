import Notebook.Predicate
import Notebook.Text.Decimal

/-!
# Statements

A statement pairs SQL text with the values it refers to. Texts are assembled
with placeholders; once a text is complete its placeholders are numbered `$1`,
`$2`, … from left to right, and their number has to equal the number of values.
-/

namespace Notebook

/-- Whether a statement returns rows or only counts the rows it affected. -/
inductive StatementKind where
  | query
  | mutation
deriving DecidableEq

/-- SQL text with numbered markers, and the values they refer to. -/
structure Statement where
  kind : StatementKind
  table : Table
  text : String
  params : List Value
deriving DecidableEq

namespace Statement

/-- Replaces each placeholder by a marker, numbering from `next` on. -/
def numberFrom (next : Nat) : List Char → List Char
  | [] => []
  | c :: rest =>
      if c = placeholder then '$' :: Decimal.digits next ++ numberFrom (next + 1) rest
      else c :: numberFrom next rest

/-- Numbers the placeholders of a text, which must be as many as the values. -/
def number (text : String) (count : Nat) : Except Error String :=
  let found := text.toList.count placeholder
  if found = count then .ok (String.ofList (numberFrom 1 text.toList))
  else .error (.statement (.count found count text))

/-- The statement with this text, whose placeholders are numbered, and values. -/
def finalize (kind : StatementKind) (table : Table) (text : String) (params : List Value) :
    Except Error Statement := do
  let text ← number text params.length
  return { kind, table, text, params }

end Statement

end Notebook
