import Notebook.Proofs.Sql.Token

/-!
# Conditions

What the tokens of a `WHERE` clause mean. A condition is read from left to right
by SQL's grammar: an operand is a comparison of a name with a numbered place or a
condition in parentheses, and `AND` binds tighter than `OR`. The value of the
`n`-th place is the `n`-th parameter, and a place without a parameter makes the
text unreadable.

A `Grouping` holds what was read between two parentheses so far: the runs of `AND`s
that an `OR` has ended, and the run that goes on. Reading a conjunction and an
operand is one step on the group, whatever the operand is made of.
-/

namespace Notebook.Sql

/-! ### Truth -/

/-- The truth of a condition, unknown where it depends on a missing value. -/
inductive Truth where
  | false
  | unknown
  | true
deriving DecidableEq

namespace Truth

/-- The truth of two conditions together. -/
def and : Truth → Truth → Truth
  | .false, _ => .false
  | .unknown, .false => .false
  | .unknown, _ => .unknown
  | .true, second => second

/-- The truth of one condition or another. -/
def or : Truth → Truth → Truth
  | .true, _ => .true
  | .unknown, .true => .true
  | .unknown, _ => .unknown
  | .false, second => second

/-- Both conditions are true exactly when each of them is. -/
theorem and_eq_true_iff {first second : Truth} :
    first.and second = .true ↔ first = .true ∧ second = .true := by
  cases first <;> cases second <;> decide

/-- Alternatives may be grouped either way. -/
theorem or_assoc (first second third : Truth) :
    (first.or second).or third = first.or (second.or third) := by
  cases first <;> cases second <;> cases third <;> rfl

end Truth

/-! ### Conditions and their reading -/

/-- A condition over comparisons of some form. -/
inductive Condition (α : Type) where
  | comparison (leaf : α)
  | and (first second : Condition α)
  | or (first second : Condition α)
deriving DecidableEq

namespace Condition

variable {α : Type}

/-- The truth of a condition, given that of its comparisons. -/
def truth (leafTruth : α → Truth) : Condition α → Truth
  | .comparison leaf => leafTruth leaf
  | .and first second => (first.truth leafTruth).and (second.truth leafTruth)
  | .or first second => (first.truth leafTruth).or (second.truth leafTruth)

/-- The comparisons of a condition, from left to right. -/
def leaves : Condition α → List α
  | .comparison leaf => [leaf]
  | .and first second => first.leaves ++ second.leaves
  | .or first second => first.leaves ++ second.leaves

end Condition

/-- A comparison as it was read, with the number of the place of its value. -/
structure Bound where
  place : Nat
  comparison : Comparison
deriving DecidableEq

/-- What the tokens of a condition add up to: comparisons, conjunctions and parentheses. -/
inductive Term (α : Type) where
  | comparison (leaf : α)
  | conjunction (joining : Conjunction)
  | opening
  | closing
deriving DecidableEq

/-- The operator that a token stands for. -/
def operator? : Token → Option Operator
  | .sign "=" => some .eq
  | .sign "<>" => some .notEq
  | .sign "!=" => some .notEq
  | .sign ">" => some .gt
  | .sign "<" => some .lt
  | .sign ">=" => some .gtEq
  | .sign "<=" => some .ltEq
  | .word "LIKE" => some .like
  | _ => none

/-- The value of a numbered place; the first number is one. -/
def parameter? (params : List Value) : (place : Nat) → Option Value
  | 0 => none
  | index + 1 => params[index]?

/-- The terms of a condition, with the parameters in their places. -/
def terms? (params : List Value) : List Token → Option (List (Term Bound))
  | [] => some []
  | .name column :: operator :: .parameter place :: rest => do
      let operator ← operator? operator
      let value ← parameter? params place
      let terms ← terms? params rest
      return .comparison ⟨place, column, operator, value⟩ :: terms
  | .word "AND" :: rest => (terms? params rest).map (.conjunction .and :: ·)
  | .word "OR" :: rest => (terms? params rest).map (.conjunction .or :: ·)
  | .opening :: rest => (terms? params rest).map (.opening :: ·)
  | .closing :: rest => (terms? params rest).map (.closing :: ·)
  | _ => none

/-- The part of a condition between two parentheses that was read so far. -/
structure Grouping (α : Type) where
  /-- The runs of `AND`s that an `OR` has ended, joined with `OR`. -/
  ended : Option (Condition α)
  /-- The run of `AND`s that goes on. -/
  run : Condition α

namespace Grouping

variable {α : Type}

/-- The group that begins with an operand. -/
def single (operand : Condition α) : Grouping α :=
  ⟨none, operand⟩

/-- The condition that a group stands for if it ends here. -/
def close (group : Grouping α) : Condition α :=
  match group.ended with
  | none => group.run
  | some ended => .or ended group.run

/-- The group with one more operand: `AND` continues the run, `OR` ends it. -/
def join (group : Grouping α) : Conjunction → Condition α → Grouping α
  | .and, operand => { group with run := .and group.run operand }
  | .or, operand => ⟨some group.close, operand⟩

/-- One more operand adds its comparisons behind those of the group. -/
theorem leaves_join (group : Grouping α) (conjunction : Conjunction) (operand : Condition α) :
    (group.join conjunction operand).close.leaves = group.close.leaves ++ operand.leaves := by
  obtain ⟨ended, run⟩ := group
  cases conjunction <;> cases ended <;> simp [join, close, Condition.leaves]

end Grouping

/-- A group that waits for an operand: nothing was read of it, or it ends in a
conjunction. -/
inductive Pending (α : Type) where
  | empty
  | after (group : Grouping α) (conjunction : Conjunction)

/-- The group that an operand completes. -/
def Pending.complete {α : Type} (operand : Condition α) : Pending α → Grouping α
  | .empty => .single operand
  | .after group conjunction => group.join conjunction operand

/-- A place between two terms, with the groups around it, the innermost first. -/
inductive Position (α : Type) where
  /-- An operand has to follow. -/
  | before (group : Pending α) (outer : List (Pending α))
  /-- An operand has just been read. -/
  | behind (group : Grouping α) (outer : List (Pending α))

namespace Position

variable {α : Type}

/-- The place behind one more term, if the term may stand here. -/
def advance? : Position α → Term α → Option (Position α)
  | .before group outer, .comparison leaf =>
      some (.behind (group.complete (.comparison leaf)) outer)
  | .before group outer, .opening => some (.before .empty (group :: outer))
  | .behind group outer, .conjunction conjunction =>
      some (.before (.after group conjunction) outer)
  | .behind group (around :: outer), .closing =>
      some (.behind (around.complete group.close) outer)
  | _, _ => none

/-- The condition that was read, if the text may end here. -/
def finish? : Position α → Option (Condition α)
  | .behind group [] => some group.close
  | _ => none

end Position

/-- The condition that terms stand for. -/
def Condition.ofTerms? {α : Type} (terms : List (Term α)) : Option (Condition α) :=
  (terms.foldlM Position.advance? (.before .empty [])).bind Position.finish?

/-- The condition that tokens stand for, with the parameters in their places. -/
def Condition.ofTokens? (params : List Value) (tokens : List Token) :
    Option (Condition Bound) :=
  (terms? params tokens).bind Condition.ofTerms?

/-- The condition that a text stands for, with the parameters in their places. -/
def Condition.ofText? (params : List Value) (text : String) : Option (Condition Bound) :=
  (tokens? text).bind (Condition.ofTokens? params)

/-! ### Tokens of terms -/

/-- The tokens of a term, where the place of a value is written as its marker. -/
def Term.tokens (marker : Nat → Token) : Term Bound → List Token
  | .comparison leaf =>
      [.name leaf.comparison.column, operatorToken leaf.comparison.operator, marker leaf.place]
  | .conjunction joining => [.word joining.sql]
  | .opening => [.opening]
  | .closing => [.closing]

/-- An operator is read back from its token. -/
theorem operator?_operatorToken (operator : Operator) :
    operator? (operatorToken operator) = some operator := by
  cases operator <;> rfl

/-- Terms are read back from their tokens, if each numbered place has the value of
its comparison. -/
theorem terms?_tokens {params : List Value} {terms : List (Term Bound)}
    (filled : ∀ leaf, .comparison leaf ∈ terms →
      parameter? params leaf.place = some leaf.comparison.value) :
    terms? params (terms.flatMap (Term.tokens .parameter)) = some terms := by
  induction terms with
  | nil => rfl
  | cons term rest inductionHypothesis =>
      have later := inductionHypothesis fun leaf member => filled leaf (by simp [member])
      cases term with
      | comparison leaf =>
          have value := filled leaf (by simp)
          simp [Term.tokens, terms?, operator?_operatorToken, value, later]
      | conjunction joining =>
          cases joining <;> simp [Term.tokens, Conjunction.sql, terms?, later]
      | opening => simp [Term.tokens, terms?, later]
      | closing => simp [Term.tokens, terms?, later]

/-- `AND` binds tighter than `OR`, on either side of it. -/
example : (Condition.ofTerms? [.comparison 1, .conjunction .and, .comparison 2,
      .conjunction .or, .comparison 3, .conjunction .and, .comparison 4]) =
    some (.or (.and (.comparison 1) (.comparison 2)) (.and (.comparison 3) (.comparison 4))) := by
  decide

end Notebook.Sql
