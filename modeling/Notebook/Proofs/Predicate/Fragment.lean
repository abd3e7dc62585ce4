import Notebook.Proofs.Sql.Condition
import Notebook.Proofs.Sql.Piece

/-!
# The text of a predicate and its reading

The text of a predicate and its values are one list of pieces, and however the
places of values are written, the text spells the terms of the predicate. From
these terms the reader of conditions gets back the comparisons of the predicate,
numbered from left to right and grouped as `Predicate.group` says.
-/

namespace Notebook.Predicate

open Notebook.Sql

/-! ### Pieces -/

/-- A compound operand between two parentheses. -/
def parenthesized {α : Type} (compound : Bool) (opening closing : α) (operand : List α) :
    List α :=
  if compound then opening :: operand ++ [closing] else operand

/-- The text of a predicate in front of, between and behind its values. -/
def pieces : Predicate → List Piece
  | .leaf comparison =>
      [.fixed (quoteName comparison.column ++ " " ++ comparison.operator.sql ++ " "),
        .place comparison.value]
  | .join base conjunction operand =>
      base.pieces ++ .fixed (" " ++ conjunction.sql ++ " ") ::
        parenthesized operand.isCompound (.fixed "(") (.fixed ")") operand.pieces

/-- The values among the pieces are the values of the predicate. -/
theorem values_pieces (predicate : Predicate) :
    Piece.values predicate.pieces = predicate.params := by
  induction predicate with
  | leaf comparison => rfl
  | join base conjunction operand baseHypothesis operandHypothesis =>
      have operandValues : Piece.values (parenthesized operand.isCompound (.fixed "(") (.fixed ")")
          operand.pieces) = operand.params := by
        cases compound : operand.isCompound <;>
          simp [parenthesized, Piece.values, operandHypothesis]
      simp [pieces, Piece.values, baseHypothesis, operandValues, params, comparisons]

/-- The comparisons of a predicate are in pre-order: first the root, then those of the children,
one child after the other. -/
theorem comparisons_eq_preorder (predicate : Predicate) :
    predicate.comparisons =
      predicate.root :: predicate.children.flatMap fun (_, child) => child.comparisons := by
  induction predicate with
  | leaf comparison => rfl
  | join base conjunction operand baseHypothesis _ =>
      rw [comparisons, baseHypothesis]
      simp [root, children]

/-- The values of a predicate are in pre-order. -/
theorem params_eq_preorder (predicate : Predicate) :
    predicate.params =
      predicate.root.value :: predicate.children.flatMap fun (_, child) => child.params := by
  rw [params, comparisons_eq_preorder, List.map_cons, List.map_flatMap]
  rfl

/-- The text of the pieces with holes is the SQL text of the predicate. -/
theorem render_pieces (predicate : Predicate) (next : Nat) :
    Piece.render hole next predicate.pieces = predicate.fragment.toList := by
  induction predicate generalizing next with
  | leaf comparison =>
      simp [pieces, Piece.render, fragment, Comparison.fragment, hole]
  | join base conjunction operand baseHypothesis operandHypothesis =>
      cases compound : operand.isCompound <;>
        simp [pieces, parenthesized, compound, Piece.render, Piece.render_append, baseHypothesis,
          operandHypothesis, fragment, grouped]

/-! ### Terms -/

/-- The comparisons of a predicate with the numbers of their places from `next` on. -/
def bound (next : Nat) (predicate : Predicate) : List Bound :=
  (predicate.comparisons.zipIdx next).map fun (comparison, place) => ⟨place, comparison⟩

/-- The terms of a predicate, with the places of values numbered from `next` on. -/
def terms (next : Nat) : Predicate → List (Term Bound)
  | .leaf comparison => [.comparison ⟨next, comparison⟩]
  | .join base conjunction operand =>
      base.terms next ++ .conjunction conjunction ::
        parenthesized operand.isCompound .opening .closing
          (operand.terms (next + base.comparisons.length))

/-- The values of a predicate are as many as its comparisons. -/
theorem length_params (predicate : Predicate) :
    predicate.params.length = predicate.comparisons.length := by
  simp [params]

/-- The bound comparisons of a chain are those of its parts, numbered on. -/
theorem bound_join (next : Nat) (base : Predicate) (conjunction : Conjunction)
    (operand : Predicate) :
    (join base conjunction operand).bound next =
      base.bound next ++ operand.bound (next + base.comparisons.length) := by
  simp [bound, comparisons, List.zipIdx_append]

/-- The places of a predicate are numbered from `next` on without a gap. -/
theorem place_bound (next : Nat) (predicate : Predicate) :
    (predicate.bound next).map Bound.place = List.range' next predicate.params.length := by
  have second : (Bound.place ∘ fun (comparison, place) => ⟨place, comparison⟩) = Prod.snd := rfl
  rw [bound, List.map_map, second, List.zipIdx_map_snd, length_params]

/-- Every place is that of the value of its comparison, behind the parameters in front. -/
theorem parameter?_of_mem_bound {front : List Value} {predicate : Predicate} {leaf : Bound}
    (member : leaf ∈ predicate.bound (front.length + 1)) :
    parameter? (front ++ predicate.params) leaf.place = some leaf.comparison.value := by
  obtain ⟨⟨comparison, place⟩, indexed, rfl⟩ := List.mem_map.mp member
  obtain ⟨first, bounded, same⟩ := List.mem_zipIdx indexed
  obtain ⟨index, rfl⟩ : ∃ index, place = front.length + 1 + index :=
    ⟨place - (front.length + 1), by omega⟩
  have inside : index < predicate.comparisons.length := by omega
  have behind : front.length + 1 + index = front.length + index + 1 := by omega
  simp only [Nat.add_sub_cancel_left] at same
  simp [parameter?, params, same, inside, behind]

/-- The comparisons among the terms are the bound ones. -/
theorem mem_bound_of_mem_terms {next : Nat} {predicate : Predicate} {leaf : Bound}
    (member : .comparison leaf ∈ predicate.terms next) : leaf ∈ predicate.bound next := by
  induction predicate generalizing next with
  | leaf comparison =>
      simpa [terms, bound, comparisons] using member
  | join base conjunction operand baseHypothesis operandHypothesis =>
      rw [bound_join, List.mem_append]
      have cases : .comparison leaf ∈ base.terms next ∨
          .comparison leaf ∈ operand.terms (next + base.comparisons.length) := by
        cases compound : operand.isCompound <;>
          simpa [terms, parenthesized, compound] using member
      exact cases.imp baseHypothesis operandHypothesis

/-- However places are marked, the text of a predicate spells its terms. -/
theorem spells_pieces {marker : Nat → List Char} {token : Nat → Token}
    (marked : ∀ place, Spells (marker place) [token place]) (predicate : Predicate) (next : Nat) :
    Spells (Piece.render marker next predicate.pieces)
      ((predicate.terms next).flatMap (Term.tokens token)) := by
  induction predicate generalizing next with
  | leaf comparison =>
      have left := Spells.name comparison.column
      have sign := Spells.operator comparison.operator
      have whole := (left.blank sign).blank (marked next)
      simpa [pieces, Piece.render, terms, Term.tokens] using whole
  | join base conjunction operand baseHypothesis operandHypothesis =>
      have front := baseHypothesis next
      have keyword := Spells.conjunction conjunction
      have inner := operandHypothesis (next + base.comparisons.length)
      cases compound : operand.isCompound with
      | false =>
          have whole := front.blank (keyword.blank inner)
          simpa [pieces, Piece.render, Piece.render_append, terms, Term.tokens, parenthesized,
            compound, values_pieces, length_params] using whole
      | true =>
          have whole := front.blank (keyword.blank inner.parenthesized)
          simpa [pieces, Piece.render, Piece.render_append, terms, Term.tokens, parenthesized,
            compound, values_pieces, length_params] using whole

/-- Numbering the unnumbered places from left to right gives the terms their places. -/
theorem numberFrom_tokens (predicate : Predicate) (next : Nat) (rest : List Token) :
    Token.numberFrom next
        ((predicate.terms next).flatMap (Term.tokens fun _ => .placeholder) ++ rest) =
      (predicate.terms next).flatMap (Term.tokens .parameter) ++
        Token.numberFrom (next + predicate.comparisons.length) rest := by
  induction predicate generalizing next rest with
  | leaf comparison =>
      cases operator : comparison.operator <;>
        simp [terms, Term.tokens, operatorToken, operator, Token.numberFrom, comparisons]
  | join base conjunction operand baseHypothesis operandHypothesis =>
      cases compound : operand.isCompound <;>
        simp [terms, parenthesized, compound, Term.tokens, Token.numberFrom, baseHypothesis,
          operandHypothesis, comparisons, Nat.add_assoc]

/-! ### Grouping -/

/-- What is read of a predicate: the operands of its chain, joined in order. -/
def group (next : Nat) : Predicate → Grouping Bound
  | .leaf comparison => .single (.comparison ⟨next, comparison⟩)
  | .join base conjunction operand =>
      (base.group next).join conjunction
        (operand.group (next + base.comparisons.length)).close

/-- Reading the terms of a predicate inside any parentheses gives its group. -/
theorem foldlM_terms (predicate : Predicate) (next : Nat) (outer : List (Pending Bound)) :
    (predicate.terms next).foldlM Position.advance? (.before .empty outer) =
      some (.behind (predicate.group next) outer) := by
  induction predicate generalizing next outer with
  | leaf comparison => rfl
  | join base conjunction operand baseHypothesis operandHypothesis =>
      have front := baseHypothesis next outer
      have inner := operandHypothesis (next + base.comparisons.length)
        (.after (base.group next) conjunction :: outer)
      cases compound : operand.isCompound with
      | true =>
          rw [terms, parenthesized, compound, if_pos rfl, List.foldlM_append, front]
          simp only [Option.bind_eq_bind, Option.bind_some, List.cons_append, List.foldlM_cons,
            Position.advance?, List.foldlM_append, inner]
          rfl
      | false =>
          cases operand with
          | leaf comparison =>
              rw [terms, List.foldlM_append, front]
              rfl
          | join => cases compound

/-- The condition that is read of a predicate has its bound comparisons, in order. -/
theorem leaves_group (predicate : Predicate) (next : Nat) :
    (predicate.group next).close.leaves = predicate.bound next := by
  induction predicate generalizing next with
  | leaf comparison => rfl
  | join base conjunction operand baseHypothesis operandHypothesis =>
      rw [group, Grouping.leaves_join, baseHypothesis, operandHypothesis, bound_join]

/-- The terms of a predicate are read back from their tokens, with its values in their
places behind the parameters in front. -/
theorem terms?_terms (front : List Value) (predicate : Predicate) :
    terms? (front ++ predicate.params)
        ((predicate.terms (front.length + 1)).flatMap (Term.tokens .parameter)) =
      some (predicate.terms (front.length + 1)) :=
  terms?_tokens fun _ member => parameter?_of_mem_bound (mem_bound_of_mem_terms member)

/-- The tokens of the terms of a predicate, with its values in their places behind the
parameters in front, are read as its group. -/
theorem ofTokens?_terms (front : List Value) (predicate : Predicate) :
    Condition.ofTokens? (front ++ predicate.params)
        ((predicate.terms (front.length + 1)).flatMap (Term.tokens .parameter)) =
      some (predicate.group (front.length + 1)).close := by
  rw [Condition.ofTokens?, terms?_terms, Option.bind_some, Condition.ofTerms?, foldlM_terms]
  rfl

/-- The tokens of the text of a predicate are those of its terms, whatever its columns are. -/
theorem tokens?_fragment (predicate : Predicate) :
    tokens? predicate.fragment = some ((predicate.terms 1).flatMap (Term.tokens .parameter)) := by
  have spells := spells_pieces (fun _ => Spells.placeholder) predicate 1
  have lexed : lexFrom .blank predicate.fragment.toList =
      some ((predicate.terms 1).flatMap (Term.tokens fun _ => .placeholder)) := by
    rw [← render_pieces predicate 1]
    exact spells.lexFrom_eq
  have numbered := numberFrom_tokens predicate 1 []
  simp only [List.append_nil, Token.numberFrom] at numbered
  rw [tokens?, lexed, Option.map_some, numbered]

/-- The text of a predicate is read as its group, whatever its columns are. -/
theorem ofText?_fragment (predicate : Predicate) :
    Condition.ofText? predicate.params predicate.fragment = some (predicate.group 1).close := by
  rw [Condition.ofText?, tokens?_fragment, Option.bind_some]
  exact ofTokens?_terms [] predicate

end Notebook.Predicate
