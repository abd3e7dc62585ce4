import Notebook.Proofs.Except
import Notebook.Proofs.Predicate.Fragment
import Notebook.Sql.Mutation
import Notebook.Sql.Select

/-!
# Drafts of statements

A draft is what one of the four builders is asked to build. `Draft.statement_eq`
says of all of them at once what they do: after the checks of the draft they finish
its pieces. So a draft is built exactly if it passes its checks and no selected
expression has a placeholder, and `Draft.statement_eq_ok_iff` says what is built.
-/

namespace Notebook.Sql

/-- What one of the builders is asked for. -/
inductive Draft where
  | select (query : Select)
  | insert (table : Table) (values : List Value)
  | update (table : Table) (condition : Predicate) (assignments : List (String × Value))
  | delete (table : Table) (condition : Predicate)

namespace Draft

/-- What the builder of a draft gives. -/
def statement : Draft → Except Error Statement
  | .select query => query.statement
  | .insert table values => table.insertStatement values
  | .update table condition assignments => table.updateStatement condition assignments
  | .delete table condition => table.deleteStatement condition

/-- The table of a draft. -/
def table : Draft → Table
  | .select query => query.table
  | .insert table _ => table
  | .update table _ _ => table
  | .delete table _ => table

/-- Whether a draft asks for rows. -/
def kind : Draft → StatementKind
  | .select _ => .query
  | _ => .mutation

/-- The selected expressions of a draft, which are taken as they are. -/
def outputs : Draft → List String
  | .select query => query.outputs
  | _ => []

/-- The columns that a draft names, in the order they are checked. -/
def columns : Draft → List String
  | .select query =>
      (query.condition.elim [] Predicate.columns) ++ (query.order.elim [] fun order => [order.1])
  | .insert _ _ => []
  | .update _ condition assignments => condition.columns ++ assignments.map Prod.fst
  | .delete _ condition => condition.columns

/-- The values that a draft carries: those to insert, or those to assign and then
those of the condition. -/
def values : Draft → List Value
  | .select query => query.params
  | .insert _ values => values
  | .update _ condition assignments => assignments.map Prod.snd ++ condition.params
  | .delete _ condition => condition.params

/-- The checks that are made before a text is assembled. -/
def check : Draft → Except Error Unit
  | .select query => do
      if let some predicate := query.condition then
        query.table.checkPredicate predicate
      if let some (column, _) := query.order then
        query.table.checkColumn column
  | .insert table values =>
      if values.length = table.columns.length then .ok ()
      else .error (.invalidInput (.wrongArity table values.length))
  | .update table condition assignments => do
      if assignments.isEmpty then
        throw (.invalidInput (.emptyUpdate table))
      table.checkPredicate condition
      table.checkColumns (assignments.map Prod.fst)
  | .delete table condition => table.checkPredicate condition

/-- An assignment with the place of its value. -/
def assignmentPieces (assignment : String × Value) : List Piece :=
  [.fixed (quoteName assignment.1 ++ " = "), .place assignment.2]

/-- The pieces of the clause that states a condition. -/
def conditionPieces : Option Predicate → List Piece
  | none => []
  | some predicate => .fixed " WHERE " :: predicate.pieces

/-- The text of a draft in front of, between and behind its values. -/
def pieces : Draft → List Piece
  | .select query =>
      .fixed ("SELECT " ++ ", ".intercalate query.outputs ++ " FROM " ++
          quoteName query.table.name) ::
        conditionPieces query.condition ++
        [.fixed (Select.orderText query.order ++ Select.pageText query.limit query.offset)]
  | .insert table values =>
      .fixed ("INSERT INTO " ++ quoteName table.name ++ " VALUES (") ::
        [Piece.fixed ", "].intercalate (values.map fun value => [.place value]) ++
        [.fixed ")"]
  | .update table condition assignments =>
      .fixed ("UPDATE " ++ quoteName table.name ++ " SET ") ::
        [Piece.fixed ", "].intercalate (assignments.map assignmentPieces) ++
        .fixed " WHERE " :: condition.pieces
  | .delete table condition =>
      .fixed ("DELETE FROM " ++ quoteName table.name ++ " WHERE ") :: condition.pieces

/-- The values among the pieces of a draft are those it carries, in order. -/
theorem values_pieces (draft : Draft) : Piece.values draft.pieces = draft.values := by
  cases draft with
  | select query =>
      rw [pieces, values, Select.params]
      cases query.condition with
      | none => rfl
      | some predicate =>
          rw [conditionPieces, Piece.values_append, Piece.values, Piece.values,
            Predicate.values_pieces]
          exact List.append_nil predicate.params
  | insert table values =>
      simp [pieces, Draft.values, Piece.values, Piece.values_intercalate, List.flatMap_map]
  | update table condition assignments =>
      have assigned : (assignments.map assignmentPieces).flatMap Piece.values =
          assignments.map Prod.snd := by
        rw [List.flatMap_map, List.map_eq_flatMap]
        rfl
      simp [pieces, values, Piece.values, Piece.values_intercalate, Predicate.values_pieces,
        assigned]
  | delete table condition =>
      simp [pieces, values, Piece.values, Predicate.values_pieces]

/-- The text that inserts a row of so many values. -/
def insertText (table : Table) (values : List Value) : String :=
  "INSERT INTO " ++ quoteName table.name ++ " VALUES (" ++
    ", ".intercalate (values.map fun _ => String.singleton placeholder) ++ ")"

/-- The text that assigns columns. -/
def updateText (table : Table) (condition : Predicate) (assignments : List (String × Value)) :
    String :=
  "UPDATE " ++ quoteName table.name ++ " SET " ++
    ", ".intercalate (assignments.map fun (column, _) => Table.assignmentText column) ++
    " WHERE " ++ condition.fragment

/-- The text that deletes rows. -/
def deleteText (table : Table) (condition : Predicate) : String :=
  "DELETE FROM " ++ quoteName table.name ++ " WHERE " ++ condition.fragment

/-- The text of a draft, with placeholders. -/
def text : Draft → String
  | .select query => query.text
  | .insert table values => insertText table values
  | .update table condition assignments => updateText table condition assignments
  | .delete table condition => deleteText table condition

/-- The text of a draft is that of its pieces, with holes for the values. -/
theorem toList_text (draft : Draft) : draft.text.toList = Piece.render hole 1 draft.pieces := by
  -- `delta`, since the equations of definitions by long literals take seconds to prove.
  cases draft with
  | select query =>
      have chosen : (Select.conditionText query.condition).toList =
          Piece.render hole 1 (conditionPieces query.condition) := by
        cases query.condition with
        | none => rfl
        | some predicate =>
            rw [Select.conditionText, conditionPieces, Piece.render, Predicate.render_pieces,
              String.toList_append]
      rw [text, pieces]
      delta Select.text
      simp [Piece.render, Piece.render_append, chosen]
  | insert table values =>
      rw [text, pieces]
      delta insertText
      simp [Piece.render, Piece.render_append, Piece.render_intercalate, hole, Function.comp_def]
  | update table condition assignments =>
      rw [text, pieces]
      delta updateText
      simp [Piece.render, Piece.render_append, Piece.render_intercalate, Predicate.render_pieces,
        assignmentPieces, Table.assignmentText, hole, Function.comp_def]
  | delete table condition =>
      rw [text, pieces]
      delta deleteText
      simp [Piece.render, Predicate.render_pieces]

/-- Whichever builder a draft is for, it is checked and then finished. -/
theorem statement_eq (draft : Draft) :
    draft.statement = draft.check >>= fun _ =>
      Statement.finalize draft.kind draft.table draft.text draft.values := by
  cases draft with
  | select query =>
      simp only [statement, check, kind, Draft.table, text, values]
      delta Select.statement
      generalize Statement.finalize .query query.table query.text query.params = finished
      cases query.condition <;> cases query.order <;> simp [bind_assoc]
  | insert table inserted =>
      simp only [statement, check, kind, Draft.table, text, values]
      delta Table.insertStatement insertText
      generalize Statement.finalize .mutation table _ inserted = finished
      split <;> rfl
  | update table condition assignments =>
      simp only [statement, check, kind, Draft.table, text, values]
      delta Table.updateStatement updateText
      generalize Statement.finalize .mutation table _ _ = finished
      cases assignments.isEmpty with
      | true => rfl
      | false => simp [bind_assoc]
  | delete table condition =>
      simp only [statement, check, kind, Draft.table, text, values]
      delta Table.deleteStatement deleteText
      rfl

/-- An insert has a value for every column, and an update assigns something. -/
def Sized : Draft → Prop
  | .insert table values => values.length = table.columns.length
  | .update _ _ assignments => assignments ≠ []
  | _ => True

/-- A draft passes its checks exactly if it is sized and names declared columns only. -/
theorem check_eq_ok_iff {draft : Draft} :
    draft.check = .ok () ↔
      draft.Sized ∧ ∀ column ∈ draft.columns, draft.table.declares column = true := by
  cases draft with
  | select query =>
      obtain ⟨table, outputs, condition, order, limit, offset⟩ := query
      have chosen : ∀ predicate, table.checkPredicate predicate = .ok () ↔
          ∀ column ∈ predicate.columns, table.declares column = true :=
        fun predicate => Table.checkColumns_eq_ok_iff
      have ordered : ∀ column, table.checkColumn column = .ok () ↔
          table.declares column = true := by
        intro column
        simp [Table.checkColumn, Table.checkColumns_eq_ok_iff]
      cases condition <;> cases order <;>
        simp [check, columns, Sized, Draft.table, Except.check_eq_ok_iff, chosen, ordered, or_imp,
          forall_and, pure, Except.pure]
  | insert table values =>
      by_cases arity : values.length = table.columns.length <;>
        simp [check, columns, Sized, arity]
  | update table condition assignments =>
      cases assignments with
      | nil =>
          constructor
          · intro passed
            cases passed
          · exact fun sized => absurd rfl sized.1
      | cons first rest =>
          have rest : check (.update table condition (first :: rest)) = .ok () ↔
              table.checkPredicate condition = .ok () ∧
                table.checkColumns ((first :: rest).map Prod.fst) = .ok () :=
            Except.check_eq_ok_iff
          rw [rest, Table.checkPredicate, Table.checkColumns_eq_ok_iff,
            Table.checkColumns_eq_ok_iff]
          simp [columns, Sized, Draft.table, or_imp, forall_and]
  | delete table condition =>
      simp [check, columns, Sized, Draft.table, Table.checkPredicate, Table.checkColumns_eq_ok_iff]

end Draft

end Notebook.Sql
