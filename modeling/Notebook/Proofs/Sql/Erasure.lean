import Notebook.Proofs.Sql.Alignment

/-!
# Statements without their values

Erasing a draft puts a missing value in place of every value it carries and leaves
its shape as it is. Every part of a statement but its parameters is the same for a
draft and its erasure, so `statement_erase` says that building commutes with
erasing. Two drafts of one shape have one erasure, and are built alike.
-/

namespace Notebook

/-- The value that stands for any value. -/
def Value.erase (_ : Value) : Value :=
  .null

/-- A comparison of the same column by the same operator. -/
def Comparison.erase (comparison : Comparison) : Comparison :=
  { comparison with value := comparison.value.erase }

/-- The predicate of the same shape without its values. -/
def Predicate.erase : Predicate → Predicate
  | .leaf comparison => .leaf comparison.erase
  | .join base conjunction operand => .join base.erase conjunction operand.erase

namespace Predicate

/-- The comparisons of an erased predicate are erased ones. -/
theorem comparisons_erase (predicate : Predicate) :
    predicate.erase.comparisons = predicate.comparisons.map Comparison.erase := by
  induction predicate with
  | leaf comparison => rfl
  | join base conjunction operand baseHypothesis operandHypothesis =>
      rw [erase, comparisons, comparisons, baseHypothesis, operandHypothesis, List.map_append]

/-- Erasing keeps the columns. -/
theorem columns_erase (predicate : Predicate) : predicate.erase.columns = predicate.columns := by
  have kept : Comparison.column ∘ Comparison.erase = Comparison.column := rfl
  rw [columns, comparisons_erase, List.map_map, kept, columns]

/-- Erasing a predicate erases its values in their places. -/
theorem params_erase (predicate : Predicate) :
    predicate.erase.params = predicate.params.map Value.erase := by
  have erased : Comparison.value ∘ Comparison.erase = Value.erase ∘ Comparison.value := rfl
  rw [params, comparisons_erase, List.map_map, erased, params, List.map_map]

/-- Erasing keeps the text. -/
theorem fragment_erase (predicate : Predicate) : predicate.erase.fragment = predicate.fragment := by
  induction predicate with
  | leaf comparison => rfl
  | join base conjunction operand baseHypothesis operandHypothesis =>
      have compound : operand.erase.isCompound = operand.isCompound := by
        cases operand <;> rfl
      rw [erase, fragment, fragment, baseHypothesis, operandHypothesis, compound]

/-- Erasing a chain erases its operands. -/
theorem erase_andAll (base : Predicate) (operands : List Predicate) :
    (base.andAll operands).erase = base.erase.andAll (operands.map erase) := by
  induction operands generalizing base with
  | nil => rfl
  | cons operand rest inductionHypothesis => exact inductionHypothesis (base.and operand)

end Predicate

/-- The statement with the same text without its values. -/
def Statement.erase (statement : Statement) : Statement :=
  { statement with params := statement.params.map Value.erase }

/-- Statements with one erasure differ in their values only. -/
theorem Statement.alike_of_erase_eq {first second : Statement} (same : first.erase = second.erase) :
    first.text = second.text ∧ first.kind = second.kind ∧ first.table = second.table ∧
      first.params.length = second.params.length := by
  obtain ⟨kind, table, text, params⟩ := Statement.mk.inj same
  have lengths := congrArg List.length params
  rw [List.length_map, List.length_map] at lengths
  exact ⟨text, kind, table, lengths⟩

/-- The values matter to finishing a statement by their number only. -/
theorem Statement.finalize_erase (kind : StatementKind) (table : Table) (text : String)
    (params : List Value) :
    finalize kind table text (params.map Value.erase) =
      (finalize kind table text params).map Statement.erase := by
  rw [finalize, finalize, List.length_map]
  cases number text params.length <;> rfl

namespace Sql.Draft

/-- The draft of the same shape without its values. -/
def erase : Draft → Draft
  | .select query => .select { query with condition := query.condition.map Predicate.erase }
  | .insert table values => .insert table (values.map Value.erase)
  | .update table condition assignments =>
      .update table condition.erase
        (assignments.map fun (column, value) => (column, value.erase))
  | .delete table condition => .delete table condition.erase

/-- Erasing keeps the table. -/
theorem table_erase (draft : Draft) : draft.erase.table = draft.table := by
  cases draft <;> rfl

/-- Erasing keeps what kind of statement is asked for. -/
theorem kind_erase (draft : Draft) : draft.erase.kind = draft.kind := by
  cases draft <;> rfl

/-- Erasing a draft erases its values in their places. -/
theorem values_erase (draft : Draft) : draft.erase.values = draft.values.map Value.erase := by
  cases draft with
  | select query =>
      cases condition : query.condition <;>
        simp [erase, values, Select.params, condition, Predicate.params_erase]
  | insert table values => rfl
  | update table condition assignments =>
      simp [erase, values, Predicate.params_erase, Function.comp_def]
  | delete table condition => exact condition.params_erase

/-- Erasing keeps the text. -/
theorem text_erase (draft : Draft) : draft.erase.text = draft.text := by
  cases draft with
  | select query =>
      have chosen : Select.conditionText (query.condition.map Predicate.erase) =
          Select.conditionText query.condition := by
        cases query.condition with
        | none => rfl
        | some predicate =>
            rw [Option.map_some, Select.conditionText, Select.conditionText,
              Predicate.fragment_erase]
      rw [erase, text, text]
      delta Select.text
      rw [chosen]
  | insert table values =>
      rw [erase, text, text]
      delta insertText
      rw [List.map_map]
      rfl
  | update table condition assignments =>
      rw [erase, text, text]
      delta updateText
      rw [List.map_map, Predicate.fragment_erase]
      rfl
  | delete table condition =>
      rw [erase, text, text]
      delta deleteText
      rw [Predicate.fragment_erase]

/-- Erasing changes nothing that is checked. -/
theorem check_erase (draft : Draft) : draft.erase.check = draft.check := by
  have chosen : ∀ (table : Table) (predicate : Predicate),
      table.checkPredicate predicate.erase = table.checkPredicate predicate := by
    intro table predicate
    rw [Table.checkPredicate, Predicate.columns_erase, Table.checkPredicate]
  cases draft with
  | select query =>
      obtain ⟨table, outputs, condition, order, limit, offset⟩ := query
      cases condition <;> simp [erase, check, chosen]
  | insert table values => simp [erase, check]
  | update table condition assignments =>
      simp [erase, check, chosen, Function.comp_def]
  | delete table condition => exact chosen table condition

/-- The erasure of a draft is built into the erasure of its statement, and fails with the
same error. -/
theorem statement_erase (draft : Draft) :
    draft.erase.statement = draft.statement.map Statement.erase := by
  rw [statement_eq, statement_eq, check_erase, kind_erase, table_erase, text_erase, values_erase]
  cases draft.check with
  | error error => rfl
  | ok => exact Statement.finalize_erase _ _ _ _

/-- Two drafts of one shape fail with the same error, or are built into statements that
differ in their values only. -/
theorem statement_of_erase_eq {first second : Draft} (same : first.erase = second.erase) :
    (∃ error, first.statement = .error error ∧ second.statement = .error error) ∨
      ∃ statement other, first.statement = .ok statement ∧ second.statement = .ok other ∧
        statement.erase = other.erase ∧
        statement.params = first.values ∧ other.params = second.values := by
  have erased : first.statement.map Statement.erase = second.statement.map Statement.erase := by
    rw [← statement_erase, same, statement_erase]
  have carried : ∀ {draft : Draft} {statement : Statement}, draft.statement = .ok statement →
      statement.params = draft.values := by
    intro draft statement built
    obtain ⟨_, _, rfl⟩ := statement_eq_ok_iff.mp built
    rfl
  cases built : first.statement with
  | error error =>
      rw [built] at erased
      cases built' : second.statement with
      | error other =>
          rw [built'] at erased
          cases erased
          exact .inl ⟨error, rfl, rfl⟩
      | ok other =>
          rw [built'] at erased
          cases erased
  | ok statement =>
      rw [built] at erased
      cases built' : second.statement with
      | error error =>
          rw [built'] at erased
          cases erased
      | ok other =>
          rw [built'] at erased
          exact .inr ⟨statement, other, rfl, rfl, Except.ok.inj erased, carried built,
            carried built'⟩

end Sql.Draft

end Notebook
