import Notebook.Proofs.Predicate.Fragment

/-!
# Predicates read back from their text

The reader of conditions groups what it reads by the rules of SQL and forgets where
parentheses stood. Here the same terms are read as a chain of operands instead, and what is
between two parentheses as one operand with a chain of its own. That gives back the predicate
itself, so its text and its values are those of no other predicate
(`text_and_values_determine`).
-/

namespace Notebook.Predicate

open Notebook.Sql

/-! ### Reading chains -/

/-- A place between two terms of a predicate. Outside the parentheses that are open stand
the chains that they continue, the innermost first, each with its conjunction. -/
inductive Place where
  /-- A chain has to begin. -/
  | start (outer : List (Predicate × Conjunction))
  /-- The chain has to go on with an operand. -/
  | before (chain : Predicate) (conjunction : Conjunction)
      (outer : List (Predicate × Conjunction))
  /-- The chain may go on or end. -/
  | behind (chain : Predicate) (outer : List (Predicate × Conjunction))

namespace Place

/-- The place behind one more term, if the text of a predicate may have it here. No chain
begins with a parenthesis. -/
def advance? : Place → Term Bound → Option Place
  | .start outer, .comparison found => some (.behind (.leaf found.comparison) outer)
  | .before chain conjunction outer, .comparison found =>
      some (.behind (.join chain conjunction (.leaf found.comparison)) outer)
  | .before chain conjunction outer, .opening => some (.start ((chain, conjunction) :: outer))
  | .behind chain outer, .conjunction conjunction => some (.before chain conjunction outer)
  | .behind operand ((chain, conjunction) :: outer), .closing =>
      some (.behind (.join chain conjunction operand) outer)
  | _, _ => none

/-- The predicate that was read, if its text may end here. -/
def finish? : Place → Option Predicate
  | .behind predicate [] => some predicate
  | _ => none

end Place

/-- The predicate with these terms. -/
def ofTerms? (terms : List (Term Bound)) : Option Predicate :=
  (terms.foldlM Place.advance? (.start [])).bind Place.finish?

/-- The predicate with this text and these values. -/
def ofText? (params : List Value) (text : String) : Option Predicate :=
  (tokens? text).bind fun tokens => (terms? params tokens).bind ofTerms?

/-- The terms of a predicate are read as this predicate, whatever parentheses are open. -/
theorem foldlM_advance? (predicate : Predicate) (next : Nat)
    (outer : List (Predicate × Conjunction)) :
    (predicate.terms next).foldlM Place.advance? (.start outer) =
      some (.behind predicate outer) := by
  induction predicate generalizing next outer with
  | leaf comparison => rfl
  | join base conjunction operand baseHypothesis operandHypothesis =>
      have front := baseHypothesis next outer
      have inner := operandHypothesis (next + base.comparisons.length)
        ((base, conjunction) :: outer)
      cases operand with
      | leaf comparison =>
          rw [terms, List.foldlM_append, front]
          rfl
      | join chain last inside =>
          rw [terms, isCompound, parenthesized, if_pos rfl, List.foldlM_append, front]
          simp only [Option.bind_eq_bind, Option.bind_some, List.cons_append, List.foldlM_cons,
            Place.advance?, List.foldlM_append, inner]
          rfl

/-- Every predicate is read back from its text and its values. -/
theorem ofText?_fragment_params (predicate : Predicate) :
    ofText? predicate.params predicate.fragment = some predicate := by
  have terms := terms?_terms [] predicate
  rw [List.nil_append, List.length_nil, Nat.zero_add] at terms
  rw [ofText?, tokens?_fragment, Option.bind_some, terms, Option.bind_some, ofTerms?,
    foldlM_advance?]
  rfl

/-! ### Equal texts -/

/-- Predicates are the same if their roots and their children are. -/
theorem eq_iff_root_and_children {first second : Predicate} :
    first = second ↔ first.root = second.root ∧ first.children = second.children := by
  constructor
  · rintro rfl
    exact ⟨rfl, rfl⟩
  · rintro ⟨sameRoot, sameChildren⟩
    induction first generalizing second with
    | leaf comparison =>
        cases second with
        | leaf other =>
            have same : comparison = other := sameRoot
            rw [same]
        | join base conjunction operand => simp [children] at sameChildren
    | join base conjunction operand baseHypothesis _ =>
        cases second with
        | leaf other => simp [children] at sameChildren
        | join base' conjunction' operand' =>
            obtain ⟨earlier, last⟩ := List.append_inj' sameChildren rfl
            rw [List.singleton_inj, Prod.mk.injEq] at last
            have same : base = base' := baseHypothesis sameRoot earlier
            rw [same, last.1, last.2]

/-- No two predicates have the same text and the same values, whatever their columns are.
So both determine the root and, one child after the other, the children with their
conjunctions. -/
theorem text_and_values_determine (first second : Predicate) :
    (first.fragment = second.fragment ∧ first.params = second.params ↔ first = second) ∧
      (first = second ↔ first.root = second.root ∧ first.children = second.children) := by
  refine ⟨⟨?_, ?_⟩, eq_iff_root_and_children⟩
  · rintro ⟨sameText, sameValues⟩
    have read := first.ofText?_fragment_params
    rw [sameText, sameValues, second.ofText?_fragment_params] at read
    exact (Option.some.inj read).symm
  · rintro rfl
    exact ⟨rfl, rfl⟩

/-- A name that looks like a chain is no chain. -/
example :
    ofText? [.int 1] "\"a\"\" = ? OR \"\"b\" = ?" =
      some (.eq "a\" = ? OR \"b" (.int 1)) ∧
    ofText? [.int 1, .int 2] "\"a\" = ? OR \"b\" = ?" =
      some (.or (.eq "a" (.int 1)) (.eq "b" (.int 2))) := by
  decide

end Notebook.Predicate
