import Notebook.Operator

/-!
# Predicates

A predicate is a comparison of a column with a value, to which further
predicates may be joined one after the other. A joined predicate that has
predicates joined to itself is one operand: its SQL stands in parentheses.
Within one chain SQL's precedence applies, so runs of `AND` bind tighter than
`OR`.

The SQL text carries one placeholder per comparison and no value; `params` lists
the values in the order of their placeholders.
-/

namespace Notebook

/-- A column compared with a value. -/
structure Comparison where
  column : String
  operator : Operator
  value : Value
deriving DecidableEq

/-- A comparison with further predicates joined to it in order. -/
inductive Predicate where
  /-- A comparison alone. -/
  | leaf (comparison : Comparison)
  /-- The chain `base`, continued by one more operand. -/
  | join (base : Predicate) (conjunction : Conjunction) (operand : Predicate)
deriving DecidableEq

/-- Puts a name in double quotes, doubling the quotes inside it. -/
def quoteName (name : String) : String :=
  "\"" ++ String.ofList (name.toList.flatMap fun c => if c = '"' then ['"', '"'] else [c]) ++ "\""

/-- The token that stands for a value until the whole statement is assembled. -/
def placeholder : Char := '?'

/-- The SQL text of a comparison. -/
def Comparison.fragment (comparison : Comparison) : String :=
  quoteName comparison.column ++ " " ++ comparison.operator.sql ++ " " ++
    String.singleton placeholder

namespace Predicate

/-- The comparison of a column with a value by an operator. -/
def compare (column : String) (operator : Operator) (value : Value) : Predicate :=
  .leaf ⟨column, operator, value⟩

/-- The column equals the value. -/
def eq (column : String) (value : Value) : Predicate :=
  compare column .eq value

/-- Joins `operand` to the chain of `base` with `AND`. -/
def and (base operand : Predicate) : Predicate :=
  .join base .and operand

/-- Joins `operand` to the chain of `base` with `OR`. -/
def or (base operand : Predicate) : Predicate :=
  .join base .or operand

/-- Joins all operands to the chain of `base` with `AND`, in order. -/
def andAll (base : Predicate) (operands : List Predicate) : Predicate :=
  operands.foldl and base

/-- The comparison that a chain starts with. -/
def root : Predicate → Comparison
  | .leaf comparison => comparison
  | .join base _ _ => base.root

/-- The operands joined to the root, in order. -/
def children : Predicate → List (Conjunction × Predicate)
  | .leaf _ => []
  | .join base conjunction operand => base.children ++ [(conjunction, operand)]

/-- Holds if anything is joined to the root. -/
def isCompound : Predicate → Bool
  | .leaf _ => false
  | .join .. => true

/-- All comparisons, from left to right. -/
def comparisons : Predicate → List Comparison
  | .leaf comparison => [comparison]
  | .join base _ operand => base.comparisons ++ operand.comparisons

/-- The columns of all comparisons, from left to right. -/
def columns (predicate : Predicate) : List String :=
  predicate.comparisons.map Comparison.column

/-- The values of all comparisons, from left to right. -/
def params (predicate : Predicate) : List Value :=
  predicate.comparisons.map Comparison.value

/-- Puts the text of a compound operand in parentheses. -/
def grouped (compound : Bool) (fragment : String) : String :=
  if compound then "(" ++ fragment ++ ")" else fragment

/-- The SQL text of a predicate, with a placeholder for every value. -/
def fragment : Predicate → String
  | .leaf comparison => comparison.fragment
  | .join base conjunction operand =>
      base.fragment ++ " " ++ conjunction.sql ++ " " ++
        grouped operand.isCompound operand.fragment

/-- A predicate is compound exactly when it has children. -/
theorem isCompound_eq (predicate : Predicate) :
    predicate.isCompound = !predicate.children.isEmpty := by
  cases predicate <;> simp [isCompound, children]

/-- Joining many operands in one go or in two makes no difference. -/
@[simp]
theorem andAll_append (base : Predicate) (first second : List Predicate) :
    base.andAll (first ++ second) = (base.andAll first).andAll second := by
  simp [andAll]

end Predicate

end Notebook
