import Notebook.Proofs.Sql.Alignment

/-!
# What the builders accept

`Draft.Acceptable` says of each builder what it accepts, and `Draft.Fault` with which
error it refuses all else. The columns are walked apart from the text, and the count of
the placeholders is compared at the end only; that it never differs unless a selected
expression holds a placeholder is `Draft.lacks_pieces_iff`, for all builders at once.
-/

namespace Notebook

open Notebook.Sql Notebook.Sql.Piece

namespace Predicate

/-- A comparison is at some node of a tree: at its root, or in the tree of a child. -/
inductive HasNode : Predicate → Comparison → Prop where
  | root (predicate : Predicate) : HasNode predicate predicate.root
  | child {predicate child : Predicate} {conjunction : Conjunction} {comparison : Comparison}
      (joined : (conjunction, child) ∈ predicate.children) (inside : HasNode child comparison) :
      HasNode predicate comparison

/-- The columns of a predicate are in pre-order. -/
theorem columns_eq_preorder (predicate : Predicate) :
    predicate.columns =
      predicate.root.column :: predicate.children.flatMap fun (_, child) => child.columns := by
  rw [columns, comparisons_eq_preorder, List.map_cons, List.map_flatMap]
  rfl

/-- The walk over the comparisons visits every node and nothing else. -/
theorem mem_comparisons_iff {predicate : Predicate} {comparison : Comparison} :
    comparison ∈ predicate.comparisons ↔ predicate.HasNode comparison := by
  constructor
  · intro member
    induction predicate with
    | leaf only =>
        rw [List.mem_singleton.mp member]
        exact .root (leaf only)
    | join base conjunction operand baseHypothesis operandHypothesis =>
        rcases List.mem_append.mp member with front | behind
        · -- The nodes of the base stay nodes: its root is kept and its children come first.
          cases baseHypothesis front with
          | root => exact .root (join base conjunction operand)
          | child joined inside => exact .child (List.mem_append_left _ joined) inside
        · exact .child (List.mem_append_right _ (List.mem_singleton_self _))
            (operandHypothesis behind)
  · intro node
    induction node with
    | root predicate =>
        induction predicate with
        | leaf only => exact List.mem_singleton_self only
        | join base conjunction operand baseHypothesis _ =>
            exact List.mem_append_left _ baseHypothesis
    | child joined _ inductionHypothesis =>
        rename_i predicate child conjunction comparison _
        induction predicate with
        | leaf only => cases joined
        | join base _ operand baseHypothesis _ =>
            rcases List.mem_append.mp joined with front | last
            · exact List.mem_append_left _ (baseHypothesis front)
            · cases List.mem_singleton.mp last
              exact List.mem_append_right _ inductionHypothesis

end Predicate

namespace Table

/-- The column is the first of a list that the table does not declare. -/
def FirstUndeclared (table : Table) (columns : List String) (column : String) : Prop :=
  ∃ before after, columns = before ++ column :: after ∧
    (∀ earlier ∈ before, table.declares earlier = true) ∧ table.declares column = false

/-- Columns are refused at the first one that the table does not declare. -/
theorem checkColumns_eq_error_iff {table : Table} {columns : List String} {error : Error} :
    table.checkColumns columns = .error error ↔
      ∃ column, table.FirstUndeclared columns column ∧
        error = .invalidInput (.unknownColumn column table) := by
  have found (column : String) : columns.find? (fun column => !table.declares column) =
      some column ↔ table.FirstUndeclared columns column := by
    rw [List.find?_eq_some_iff_append]
    constructor
    · rintro ⟨undeclared, before, after, split, declared⟩
      exact ⟨before, after, split, by simpa using declared, by simpa using undeclared⟩
    · rintro ⟨before, after, split, declared, undeclared⟩
      exact ⟨by simpa using undeclared, before, after, split, by simpa using declared⟩
  unfold checkColumns
  split
  next column first =>
    constructor
    · intro refused
      cases refused
      exact ⟨column, (found column).mp first, rfl⟩
    · rintro ⟨other, undeclared, rfl⟩
      have same := (found other).mpr undeclared
      rw [first] at same
      cases same
      rfl
  next none =>
    constructor
    · intro refused
      cases refused
    · rintro ⟨other, undeclared, rfl⟩
      have same := (found other).mpr undeclared
      rw [none] at same
      cases same

/-- If all columns are declared, none is the first that is not. -/
theorem FirstUndeclared.not_declared {table : Table} {columns : List String} {column : String}
    (first : table.FirstUndeclared columns column) :
    ¬ ∀ column ∈ columns, table.declares column = true := by
  obtain ⟨before, after, rfl, _, undeclared⟩ := first
  intro declared
  rw [declared column (by simp)] at undeclared
  cases undeclared

/-- Only one column of a list is the first that is not declared. -/
theorem FirstUndeclared.unique {table : Table} {columns : List String} {first second : String}
    (undeclared : table.FirstUndeclared columns first)
    (undeclared' : table.FirstUndeclared columns second) : first = second := by
  have refused := checkColumns_eq_error_iff.mpr ⟨first, undeclared, rfl⟩
  rw [checkColumns_eq_error_iff.mpr ⟨second, undeclared', rfl⟩] at refused
  simpa using refused.symm

/-- Checking two lists one after the other is checking them as one. -/
theorem checkColumns_append (table : Table) (first second : List String) :
    table.checkColumns (first ++ second) =
      table.checkColumns first >>= fun _ => table.checkColumns second := by
  simp only [checkColumns, List.find?_append]
  cases first.find? fun column => !table.declares column <;> rfl

end Table

namespace Sql.Draft

/-- What is checked of a draft besides its columns. -/
def checkSize : Draft → Except Error Unit
  | .insert table values =>
      if values.length = table.columns.length then .ok ()
      else .error (.invalidInput (.wrongArity table values.length))
  | .update table _ assignments =>
      if assignments.isEmpty then .error (.invalidInput (.emptyUpdate table)) else .ok ()
  | _ => .ok ()

/-- A draft is checked for its size, and then for its columns in order. -/
theorem check_eq (draft : Draft) :
    draft.check = draft.checkSize >>= fun _ => draft.table.checkColumns draft.columns := by
  have nothing (table : Table) : table.checkColumns [] = .ok () := rfl
  cases draft with
  | select query =>
      obtain ⟨table, outputs, condition, order, limit, offset⟩ := query
      have passing (checked : Except Error Unit) : (checked >>= fun _ => .ok ()) = checked := by
        cases checked <;> rfl
      have starting (checked : Except Error Unit) : (.ok () >>= fun _ => checked) = checked := rfl
      cases condition <;> cases order <;>
        simp [check, checkSize, columns, Draft.table, Table.checkPredicate, Table.checkColumn,
          Table.checkColumns_append, nothing, passing, starting, pure, Except.pure]
  | insert table values =>
      by_cases arity : values.length = table.columns.length <;>
        simp [check, checkSize, columns, Draft.table, arity, nothing, bind, Except.bind]
  | update table condition assignments =>
      cases assignments with
      | nil => rfl
      | cons first rest =>
          rw [columns, Table.checkColumns_append]
          rfl
  | delete table condition => rfl

/-- What the builder of a draft accepts. -/
def Acceptable : Draft → Prop
  | .select query =>
      (∀ predicate ∈ query.condition, ∀ comparison, predicate.HasNode comparison →
        query.table.declares comparison.column = true) ∧
      (∀ order ∈ query.order, query.table.declares order.1 = true) ∧
      ∀ output ∈ query.outputs, placeholder ∉ output.toList
  | .insert table values => values.length = table.columns.length
  | .update table condition assignments =>
      assignments ≠ [] ∧
      (∀ comparison, condition.HasNode comparison →
        table.declares comparison.column = true) ∧
      ∀ assignment ∈ assignments, table.declares assignment.1 = true
  | .delete table condition =>
      ∀ comparison, condition.HasNode comparison → table.declares comparison.column = true

/-- With which error the builder of a draft refuses it. -/
inductive Fault : Draft → Error → Prop where
  | wrongArity {table : Table} {values : List Value}
      (different : values.length ≠ table.columns.length) :
      Fault (.insert table values) (.invalidInput (.wrongArity table values.length))
  | emptyUpdate {table : Table} {condition : Predicate} :
      Fault (.update table condition []) (.invalidInput (.emptyUpdate table))
  /-- The columns of the condition come before those of the order or the assignments. -/
  | unknownColumn {draft : Draft} {column : String} (sized : draft.Sized)
      (first : draft.table.FirstUndeclared draft.columns column) :
      Fault draft (.invalidInput (.unknownColumn column draft.table))
  /-- A selected expression is looked at only if all columns are declared. -/
  | marked {query : Select} {output : String}
      (declared : ∀ column ∈ (select query).columns, query.table.declares column = true)
      (selected : output ∈ query.outputs) (mark : placeholder ∈ output.toList) :
      Fault (.select query) (.statement (.count (query.text.toList.count placeholder)
        query.params.length query.text))

/-- The columns of a predicate are declared exactly if that of every node is. -/
theorem declared_columns_iff {table : Table} {predicate : Predicate} :
    (∀ column ∈ predicate.columns, table.declares column = true) ↔
      ∀ comparison, predicate.HasNode comparison → table.declares comparison.column = true := by
  simp only [Predicate.columns, List.forall_mem_map, Predicate.mem_comparisons_iff]

/-- A draft is acceptable exactly if it passes its checks and no selected expression has
a placeholder. -/
theorem acceptable_iff {draft : Draft} :
    draft.Acceptable ↔
      draft.check = .ok () ∧ ∀ output ∈ draft.outputs, Lacks placeholder output := by
  rw [check_eq_ok_iff]
  cases draft with
  | select query =>
      obtain ⟨table, outputs, condition, order, limit, offset⟩ := query
      cases condition <;> cases order <;>
        simp [Acceptable, Sized, columns, Draft.table, Draft.outputs, or_imp, forall_and,
          declared_columns_iff, Lacks, and_assoc]
  | insert table values => simp [Acceptable, Sized, columns, outputs]
  | update table condition assignments =>
      simp [Acceptable, Sized, columns, Draft.table, outputs, or_imp, forall_and,
        declared_columns_iff]
  | delete table condition =>
      simp [Acceptable, Sized, columns, Draft.table, outputs, declared_columns_iff]

/-- The size of a draft is refused before anything else. -/
theorem checkSize_eq_error {draft : Draft} {error : Error}
    (refused : draft.checkSize = .error error) : draft.Fault error := by
  cases draft with
  | select query => cases refused
  | insert table values =>
      by_cases arity : values.length = table.columns.length
      · simp [checkSize, arity] at refused
      · simp only [checkSize, arity, if_false, Except.error.injEq] at refused
        exact refused ▸ .wrongArity arity
  | update table condition assignments =>
      cases assignments with
      | nil =>
          cases refused
          exact .emptyUpdate
      | cons first rest => cases refused
  | delete table condition => cases refused

/-- The size of a draft passes exactly if it is sized. -/
theorem checkSize_eq_ok_iff {draft : Draft} : draft.checkSize = .ok () ↔ draft.Sized := by
  cases draft with
  | select query => simp [checkSize, Sized]
  | insert table values =>
      by_cases arity : values.length = table.columns.length <;> simp [checkSize, Sized, arity]
  | update table condition assignments => cases assignments <;> simp [checkSize, Sized]
  | delete table condition => simp [checkSize, Sized]

/-- A draft that passes its checks but is not finished selects an expression with a
placeholder, and is refused for the count. -/
theorem fault_of_checked {draft : Draft} {error : Error} (checked : draft.check = .ok ())
    (refused : draft.statement = .error error) : draft.Fault error := by
  have declared := (check_eq_ok_iff.mp checked).2
  have unbuilt : ¬ ∀ output ∈ draft.outputs, Lacks placeholder output := by
    intro plain
    have built := statement_eq_ok_iff.mpr ⟨checked, plain, rfl⟩
    rw [refused] at built
    cases built
  rw [statement_eq, checked] at refused
  have counted : Statement.finalize draft.kind draft.table draft.text draft.values =
    .error error := refused
  simp only [Statement.finalize, Statement.number] at counted
  split at counted
  · cases counted
  · cases counted
    cases draft with
    | select query =>
        obtain ⟨output, selected, mark⟩ : ∃ output ∈ query.outputs,
            placeholder ∈ output.toList := by
          simpa [outputs, Lacks] using unbuilt
        exact .marked declared selected mark
    | insert table values => simp [outputs] at unbuilt
    | update table condition assignments => simp [outputs] at unbuilt
    | delete table condition => simp [outputs] at unbuilt

/-- A draft is refused with its fault. -/
theorem fault_of_statement_eq_error {draft : Draft} {error : Error}
    (refused : draft.statement = .error error) : draft.Fault error := by
  cases sized : draft.checkSize with
  | error fault =>
      have early : draft.statement = .error fault := by
        rw [statement_eq, check_eq, sized]
        rfl
      rw [refused] at early
      cases early
      exact checkSize_eq_error sized
  | ok =>
      have checked : draft.check = draft.table.checkColumns draft.columns := by
        rw [check_eq, sized]
        rfl
      cases walked : draft.table.checkColumns draft.columns with
      | error fault =>
          have early : draft.statement = .error fault := by
            rw [statement_eq, checked, walked]
            rfl
          rw [refused] at early
          cases early
          obtain ⟨column, first, rfl⟩ := Table.checkColumns_eq_error_iff.mp walked
          exact .unknownColumn (checkSize_eq_ok_iff.mp sized) first
      | ok =>
          rw [walked] at checked
          exact fault_of_checked checked refused

/-- A draft with a fault is not acceptable. -/
theorem Fault.not_acceptable {draft : Draft} {error : Error} (fault : draft.Fault error) :
    ¬ draft.Acceptable := by
  rw [acceptable_iff, check_eq_ok_iff]
  rintro ⟨⟨sized, declared⟩, plain⟩
  cases fault with
  | wrongArity different => exact different sized
  | emptyUpdate => exact sized rfl
  | unknownColumn _ first => exact first.not_declared declared
  | marked _ selected mark => exact plain _ selected mark

/-- A draft has one fault at most. -/
theorem Fault.unique {draft : Draft} {first second : Error} (fault : draft.Fault first)
    (fault' : draft.Fault second) : first = second := by
  cases fault with
  | wrongArity different =>
      cases fault' with
      | wrongArity => rfl
      | unknownColumn sized => exact absurd sized different
  | emptyUpdate =>
      cases fault' with
      | emptyUpdate => rfl
      | unknownColumn sized => exact absurd rfl sized
  | unknownColumn sized undeclared =>
      cases fault' with
      | wrongArity different => exact absurd sized different
      | emptyUpdate => exact absurd rfl sized
      | unknownColumn _ undeclared' => rw [undeclared.unique undeclared']
      | marked declared => exact absurd declared undeclared.not_declared
  | marked declared =>
      cases fault' with
      | unknownColumn _ undeclared => exact absurd declared undeclared.not_declared
      | marked => rfl

/-- A draft is refused exactly with its fault. -/
theorem statement_eq_error_iff {draft : Draft} {error : Error} :
    draft.statement = .error error ↔ draft.Fault error := by
  constructor
  · exact fault_of_statement_eq_error
  · intro fault
    cases built : draft.statement with
    | ok statement =>
        obtain ⟨checked, plain, _⟩ := statement_eq_ok_iff.mp built
        exact absurd (acceptable_iff.mpr ⟨checked, plain⟩) fault.not_acceptable
    | error other => rw [(fault_of_statement_eq_error built).unique fault]

/-- Each builder succeeds exactly on what is acceptable, and refuses all else with the one
fault it has: an insert of the wrong size and an empty update first, then the first
undeclared column, where those of the condition come in pre-order and before all others,
and last a placeholder in a selected expression. -/
theorem builders_accept_exactly (draft : Draft) :
    ((∃ statement, draft.statement = .ok statement) ↔ draft.Acceptable) ∧
      (∀ error, draft.statement = .error error ↔ draft.Fault error) ∧
      ∀ condition : Predicate, condition.columns = condition.root.column ::
        condition.children.flatMap fun (_, child) => child.columns := by
  refine ⟨?_, fun error => statement_eq_error_iff, Predicate.columns_eq_preorder⟩
  rw [acceptable_iff]
  constructor
  · rintro ⟨statement, built⟩
    obtain ⟨checked, plain, _⟩ := statement_eq_ok_iff.mp built
    exact ⟨checked, plain⟩
  · rintro ⟨checked, plain⟩
    exact ⟨_, statement_eq_ok_iff.mpr ⟨checked, plain, rfl⟩⟩

/-- A placeholder in a selected expression is not looked at before the columns. -/
example :
    let query : Select :=
      { table := .sets
        outputs := ["?"]
        condition := some (.eq "body" .null)
        order := some ("gid", .asc) }
    query.statement = .error (.invalidInput (.unknownColumn "body" .sets)) := by
  rfl

end Sql.Draft

end Notebook
