import Notebook.Proofs.Predicate.Fragment
import Notebook.Proofs.Sql.Grammar

/-!
# The meaning of a predicate

A predicate is a chain: its root, and its children in the order they were joined,
each with its conjunction. A child is one operand, with the truth that it has by
itself. In a chain every run of `AND`s is evaluated before the `OR`s around it.

`fragment_reads_as_predicate` says that SQL text keeps this meaning. The reader of
conditions knows nothing of predicates: it sees where parentheses and conjunctions
stand, and groups from the left, while the chain is evaluated from the right. That it
follows the grammar of SQL is `Condition.ofTerms?_eq_some_iff`.
-/

namespace Notebook.Predicate

open Notebook.Sql

/-- The truth of a chain of operands: `AND` belongs to the run before it, and `OR`
joins that run with all that follows. -/
def chainTruth (first : Truth) : List (Conjunction × Truth) → Truth
  | [] => first
  | (.and, operand) :: rest => chainTruth (first.and operand) rest
  | (.or, operand) :: rest => first.or (chainTruth operand rest)

/-- The operands behind the root of a predicate, with their conjunctions and truth. -/
def links (truthOf : Comparison → Truth) : Predicate → List (Conjunction × Truth)
  | .leaf _ => []
  | .join base conjunction operand =>
      base.links truthOf ++
        [(conjunction, chainTruth (truthOf operand.root) (operand.links truthOf))]

/-- The truth of a predicate, given that of comparisons. -/
def truth (truthOf : Comparison → Truth) (predicate : Predicate) : Truth :=
  chainTruth (truthOf predicate.root) (predicate.links truthOf)

/-- The truth of a predicate is that of its root, continued by its children in order. -/
theorem truth_eq_children (truthOf : Comparison → Truth) (predicate : Predicate) :
    predicate.truth truthOf = chainTruth (truthOf predicate.root)
      (predicate.children.map fun (conjunction, child) => (conjunction, child.truth truthOf)) := by
  have operands : predicate.links truthOf =
      predicate.children.map fun (conjunction, child) => (conjunction, child.truth truthOf) := by
    induction predicate with
    | leaf comparison => rfl
    | join base conjunction operand baseHypothesis _ =>
        simp [links, children, baseHypothesis, truth]
  rw [truth, operands]

/-- A chain of `AND`s is true exactly if all its operands are. -/
theorem chainTruth_and_eq_true_iff (first : Truth) (operands : List Truth) :
    chainTruth first (operands.map fun operand => (.and, operand)) = .true ↔
      first = .true ∧ ∀ operand ∈ operands, operand = .true := by
  induction operands generalizing first with
  | nil => simp [chainTruth]
  | cons operand rest inductionHypothesis =>
      rw [List.map_cons, chainTruth, inductionHypothesis, Truth.and_eq_true_iff, and_assoc]
      simp

/-- Joining operands with `AND` leaves the root as it is and adds children. -/
theorem root_and_children_andAll (base : Predicate) (operands : List Predicate) :
    (base.andAll operands).root = base.root ∧
      (base.andAll operands).children =
        base.children ++ operands.map fun operand => (.and, operand) := by
  induction operands generalizing base with
  | nil => simp [andAll]
  | cons operand rest inductionHypothesis =>
      obtain ⟨sameRoot, sameChildren⟩ := inductionHypothesis (base.and operand)
      have step : base.andAll (operand :: rest) = (base.and operand).andAll rest := rfl
      rw [step, sameRoot, sameChildren]
      simp [Predicate.and, root, children]

/-- A comparison joined with operands by `AND` is true exactly if it and each operand by
itself are, whatever conjunctions the operands are made with. -/
theorem truth_andAll_eq_true_iff (truthOf : Comparison → Truth) (comparison : Comparison)
    (operands : List Predicate) :
    ((leaf comparison).andAll operands).truth truthOf = .true ↔
      truthOf comparison = .true ∧ ∀ operand ∈ operands, operand.truth truthOf = .true := by
  obtain ⟨sameRoot, sameChildren⟩ := root_and_children_andAll (leaf comparison) operands
  have links : (((leaf comparison).andAll operands).children.map fun (conjunction, child) =>
      (conjunction, child.truth truthOf)) =
        (operands.map (truth truthOf)).map fun operand => (.and, operand) := by
    rw [sameChildren]
    simp [children]
  rw [truth_eq_children, sameRoot, links, chainTruth_and_eq_true_iff]
  simp [root]

/-- The truth of a group that further operands continue. -/
def groupTruth (truthOf : Comparison → Truth) (group : Grouping Bound)
    (rest : List (Conjunction × Truth)) : Truth :=
  let run := chainTruth (group.run.truth fun leaf => truthOf leaf.comparison) rest
  match group.ended with
  | none => run
  | some ended => (ended.truth fun leaf => truthOf leaf.comparison).or run

/-- A group that ends has the truth of its condition. -/
theorem groupTruth_nil (truthOf : Comparison → Truth) (group : Grouping Bound) :
    groupTruth truthOf group [] = group.close.truth fun leaf => truthOf leaf.comparison := by
  obtain ⟨ended, run⟩ := group
  cases ended <;> rfl

/-- An operand that was joined to a group and one that follows it are the same. -/
theorem groupTruth_join (truthOf : Comparison → Truth) (group : Grouping Bound)
    (conjunction : Conjunction) (operand : Condition Bound) (rest : List (Conjunction × Truth)) :
    groupTruth truthOf (group.join conjunction operand) rest =
      groupTruth truthOf group
        ((conjunction, operand.truth fun leaf => truthOf leaf.comparison) :: rest) := by
  obtain ⟨ended, run⟩ := group
  cases conjunction with
  | and => cases ended <;> rfl
  | or =>
      cases ended with
      | none => rfl
      | some ended => exact Truth.or_assoc _ _ _

/-- However a chain goes on, its group has the truth of its links. The operands that
follow are the invariant of the induction, since a chain grows at its end. -/
theorem chainTruth_links (truthOf : Comparison → Truth) (predicate : Predicate) (next : Nat)
    (rest : List (Conjunction × Truth)) :
    chainTruth (truthOf predicate.root) (predicate.links truthOf ++ rest) =
      groupTruth truthOf (predicate.group next) rest := by
  induction predicate generalizing next rest with
  | leaf comparison => rfl
  | join base conjunction operand baseHypothesis operandHypothesis =>
      have operandTruth := operandHypothesis (next + base.comparisons.length) []
      rw [List.append_nil, groupTruth_nil] at operandTruth
      rw [links, List.append_assoc, List.singleton_append, operandTruth, group, groupTruth_join]
      exact baseHypothesis next _

/-- The condition that is read of a predicate has its truth. -/
theorem truth_group (truthOf : Comparison → Truth) (predicate : Predicate) (next : Nat) :
    ((predicate.group next).close.truth fun leaf => truthOf leaf.comparison) =
      predicate.truth truthOf := by
  have chain := chainTruth_links truthOf predicate next []
  rw [List.append_nil, groupTruth_nil] at chain
  exact chain.symm

/-- Read by the rules of SQL with its values in their places, the text of a predicate
is a condition that uses every value once and is true of the same comparisons as
the predicate. -/
theorem fragment_reads_as_predicate (predicate : Predicate) :
    ∃ condition, Condition.ofText? predicate.params predicate.fragment = some condition ∧
      condition.leaves.map Bound.place = List.range' 1 predicate.params.length ∧
      ∀ truthOf : Comparison → Truth,
        (condition.truth fun leaf => truthOf leaf.comparison) = predicate.truth truthOf := by
  refine ⟨(predicate.group 1).close, ofText?_fragment predicate, ?_, ?_⟩
  · rw [leaves_group, place_bound]
  · exact fun truthOf => truth_group truthOf predicate 1

end Notebook.Predicate
