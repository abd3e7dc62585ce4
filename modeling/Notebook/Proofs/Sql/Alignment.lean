import Notebook.Proofs.Sql.Draft

/-!
# Markers and parameters

The builders write text and collect values apart from each other. Both are those of
the pieces of a draft, so what a finished statement says of its `n`-th parameter is
said of the value that has the `n`-th place.

A marker is read wrongly if the text around it holds a placeholder, a dollar sign or
a digit behind a number. Table names, declared columns and the numbers of a page hold
none of these, so only the selected expressions can.
-/

namespace Notebook

open Notebook.Sql Notebook.Sql.Piece

/-- The characters that the place of a value begins with, before and after numbering. -/
def Sql.IsMark (c : Char) : Prop :=
  c = placeholder ∨ c = '$'

namespace Sql

variable {c : Char}

/-- No mark is part of a table name. -/
theorem IsMark.lacks_name (mark : IsMark c) (table : Table) : Lacks c table.name := by
  rcases mark with rfl | rfl <;> cases table <;> decide

/-- No mark is part of a declared column. -/
theorem IsMark.lacks_column (mark : IsMark c) {table : Table} {column : String}
    (declared : table.declares column = true) : Lacks c column := by
  have every : ∀ column ∈ table.columns, Lacks c column := by
    rcases mark with rfl | rfl <;> cases table <;> decide
  exact every column (List.contains_iff_mem.mp declared)

/-- No mark is a digit. -/
theorem IsMark.isDigit_eq_false (mark : IsMark c) : c.isDigit = false := by
  rcases mark with rfl | rfl <;> decide

/-- No mark is part of a numeral. -/
theorem IsMark.lacks_ofNat (mark : IsMark c) (number : Nat) : Lacks c (Decimal.ofNat number) := by
  intro member
  rw [Decimal.ofNat, String.toList_ofList] at member
  have digit := Decimal.isDigit_of_mem_digits member
  rw [mark.isDigit_eq_false] at digit
  cases digit

/-- No mark is a quote. -/
theorem IsMark.ne_quote (mark : IsMark c) : c ≠ '"' := by
  rcases mark with rfl | rfl <;> decide

/-- No mark is in a text of other characters. -/
theorem IsMark.lacks (mark : IsMark c) {text : String}
    (plain : (text.toList.all fun d => d != placeholder && d != '$') = true) : Lacks c text := by
  intro member
  have other := List.all_eq_true.mp plain c member
  rcases mark with rfl | rfl
  · exact absurd other (by decide)
  · exact absurd other (by decide)

/-- A character of a joined list is one of the separator or of a part. -/
theorem Piece.lacks_intercalate {separator : String} (between : Lacks c separator)
    {parts : List String} :
    Lacks c (separator.intercalate parts) ↔ ∀ part ∈ parts, Lacks c part := by
  induction parts with
  | nil => simp [Lacks]
  | cons part rest inductionHypothesis =>
      cases rest with
      | nil => simp [Lacks]
      | cons next rest =>
          rw [String.intercalate_cons_cons, lacks_append, lacks_append, inductionHypothesis]
          simp [between]

end Sql

/-- The text of a predicate has a property if all that it is made of does. -/
theorem Predicate.allFixed_pieces {property : String → Prop} (predicate : Predicate)
    (opening : property "(") (closing : property ")")
    (joining : ∀ conjunction : Conjunction, property (" " ++ conjunction.sql ++ " "))
    (comparing : ∀ comparison ∈ predicate.comparisons,
      property (quoteName comparison.column ++ " " ++ comparison.operator.sql ++ " ")) :
    AllFixed property predicate.pieces := by
  induction predicate with
  | leaf comparison =>
      have here := comparing comparison (List.mem_singleton_self comparison)
      simp [pieces, here]
  | join base conjunction operand baseHypothesis operandHypothesis =>
      have front := baseHypothesis fun comparison member =>
        comparing comparison (List.mem_append_left _ member)
      have inner := operandHypothesis fun comparison member =>
        comparing comparison (List.mem_append_right _ member)
      have keyword := joining conjunction
      cases compound : operand.isCompound <;>
        simp only [pieces, parenthesized, compound, allFixed_append, allFixed_fixed, if_true,
          if_false, Bool.false_eq_true, List.cons_append, allFixed_nil, front, inner, keyword,
          opening, closing, and_self]

/-- The text of a predicate over columns without marks has none. -/
theorem Predicate.lacks_pieces {c : Char} (mark : IsMark c) (predicate : Predicate)
    (columns : ∀ column ∈ predicate.columns, Lacks c column) :
    AllFixed (Lacks c) predicate.pieces := by
  refine predicate.allFixed_pieces (mark.lacks rfl) (mark.lacks rfl) ?_ ?_
  · intro conjunction
    cases conjunction <;> exact mark.lacks rfl
  · intro comparison member
    have column := columns comparison.column (List.mem_map_of_mem member)
    have blank : Lacks c " " := mark.lacks rfl
    have sign : Lacks c comparison.operator.sql := by
      cases comparison.operator <;> exact mark.lacks rfl
    simp [lacks_quoteName mark.ne_quote, column, blank, sign]

/-- No digit follows a place of a predicate. -/
theorem Predicate.startsApart_pieces (predicate : Predicate) :
    AllFixed StartsApart predicate.pieces := by
  refine predicate.allFixed_pieces ?_ ?_ ?_ ?_ <;> simp [StartsApart, quoteName]

namespace Sql.Draft

/-- The text that orders rows has no mark if the column has none. -/
theorem lacks_orderText {c : Char} (mark : IsMark c) (order : Option (String × SortOrder))
    (columns : ∀ column ∈ order.elim [] fun order => [order.1], Lacks c column) :
    Lacks c (Select.orderText order) := by
  have nothing : Lacks c "" := mark.lacks rfl
  have blank : Lacks c " " := mark.lacks rfl
  have keyword : Lacks c " ORDER BY " := mark.lacks rfl
  rcases order with _ | ⟨column, direction⟩
  · exact nothing
  · have name := columns column (by simp)
    have direction : Lacks c direction.sql := by
      cases direction <;> exact mark.lacks rfl
    simp [Select.orderText, lacks_quoteName mark.ne_quote, keyword, name, blank, direction]

/-- The text of a page has no mark. -/
theorem lacks_pageText {c : Char} (mark : IsMark c) (limit offset : UInt64) :
    Lacks c (Select.pageText limit offset) := by
  have nothing : Lacks c "" := mark.lacks rfl
  have keyword : Lacks c " LIMIT " := mark.lacks rfl
  have skipping : Lacks c " OFFSET " := mark.lacks rfl
  rw [Select.pageText]
  split
  · exact nothing
  · split <;> simp [keyword, skipping, mark.lacks_ofNat]

/-- If a draft names declared columns only, the marks in its text are those of the
selected expressions. -/
theorem lacks_pieces_iff {c : Char} (mark : IsMark c) {draft : Draft}
    (declared : ∀ column ∈ draft.columns, draft.table.declares column = true) :
    AllFixed (Lacks c) draft.pieces ↔ ∀ output ∈ draft.outputs, Lacks c output := by
  have quoted : ∀ table : Table, Lacks c (quoteName table.name) :=
    fun table => (lacks_quoteName mark.ne_quote).mpr (mark.lacks_name table)
  have comma : Lacks c ", " := mark.lacks rfl
  have filter : Lacks c " WHERE " := mark.lacks rfl
  have columns : ∀ column ∈ draft.columns, Lacks c column :=
    fun column member => mark.lacks_column (declared column member)
  cases draft with
  | select query =>
      obtain ⟨table, selected, condition, order, limit, offset⟩ := query
      have opening : Lacks c "SELECT " := mark.lacks rfl
      have source : Lacks c " FROM " := mark.lacks rfl
      have ordered := lacks_orderText mark order fun column member =>
        columns column (List.mem_append_right _ member)
      have paged := lacks_pageText mark limit offset
      have chosen : AllFixed (Lacks c) (conditionPieces condition) := by
        cases condition with
        | none => exact allFixed_nil _
        | some predicate =>
            have inner := predicate.lacks_pieces mark fun column member =>
              columns column (List.mem_append_left _ member)
            simp [conditionPieces, filter, inner]
      simp [pieces, outputs, opening, source, ordered, paged, chosen, lacks_intercalate comma,
        quoted]
  | insert table values =>
      have keyword : Lacks c "INSERT INTO " := mark.lacks rfl
      have opening : Lacks c " VALUES (" := mark.lacks rfl
      have closing : Lacks c ")" := mark.lacks rfl
      have listed : AllFixed (Lacks c) ([Piece.fixed ", "].intercalate
          (values.map fun value => [.place value])) := by
        apply allFixed_intercalate comma
        simp
      simp [pieces, outputs, keyword, quoted, opening, closing, listed]
  | update table condition assignments =>
      have keyword : Lacks c "UPDATE " := mark.lacks rfl
      have setting : Lacks c " SET " := mark.lacks rfl
      have equals : Lacks c " = " := mark.lacks rfl
      have inner := condition.lacks_pieces mark fun column member =>
        columns column (List.mem_append_left _ member)
      have assigned : AllFixed (Lacks c)
          ([Piece.fixed ", "].intercalate (assignments.map assignmentPieces)) := by
        apply allFixed_intercalate comma
        intro part member
        obtain ⟨⟨column, value⟩, inside, rfl⟩ := List.mem_map.mp member
        have name := columns column
          (List.mem_append_right _ (List.mem_map_of_mem (f := Prod.fst) inside))
        simp [assignmentPieces, lacks_quoteName mark.ne_quote, name, equals]
      simp [pieces, outputs, keyword, quoted, setting, filter, inner, assigned]
  | delete table condition =>
      have keyword : Lacks c "DELETE FROM " := mark.lacks rfl
      have inner := condition.lacks_pieces mark columns
      simp [pieces, outputs, keyword, quoted, filter, inner]

/-- No digit follows a place of a draft. -/
theorem startsApart_pieces (draft : Draft) : AllFixed StartsApart draft.pieces := by
  have comma : StartsApart ", " := by simp [StartsApart]
  have closing : StartsApart ")" := by simp [StartsApart]
  have filter : StartsApart " WHERE " := by simp [StartsApart]
  cases draft with
  | select query =>
      obtain ⟨table, selected, condition, order, limit, offset⟩ := query
      have opening (text : String) : StartsApart ("SELECT " ++ text) := by simp [StartsApart]
      have chosen : AllFixed StartsApart (conditionPieces condition) := by
        cases condition with
        | none => exact allFixed_nil _
        | some predicate => simp [conditionPieces, filter, predicate.startsApart_pieces]
      have behind : StartsApart (Select.orderText order ++ Select.pageText limit offset) := by
        rcases order with _ | ⟨column, direction⟩
        · by_cases all : limit = 0 <;> simp [Select.orderText, Select.pageText, all, StartsApart]
        · simp [Select.orderText, StartsApart]
      simp [pieces, String.append_assoc, opening, chosen, behind]
  | insert table values =>
      have opening (text : String) : StartsApart ("INSERT INTO " ++ text) := by
        simp [StartsApart]
      have listed : AllFixed StartsApart ([Piece.fixed ", "].intercalate
          (values.map fun value => [.place value])) := by
        apply allFixed_intercalate comma
        simp
      simp [pieces, String.append_assoc, opening, closing, listed]
  | update table condition assignments =>
      have opening (text : String) : StartsApart ("UPDATE " ++ text) := by simp [StartsApart]
      have assigned : AllFixed StartsApart
          ([Piece.fixed ", "].intercalate (assignments.map assignmentPieces)) := by
        apply allFixed_intercalate comma
        intro part member
        obtain ⟨assignment, _, rfl⟩ := List.mem_map.mp member
        simp [assignmentPieces, StartsApart, quoteName]
      simp [pieces, String.append_assoc, opening, assigned, filter,
        condition.startsApart_pieces]
  | delete table condition =>
      have opening (text : String) : StartsApart ("DELETE FROM " ++ text) := by
        simp [StartsApart]
      simp [pieces, String.append_assoc, opening, condition.startsApart_pieces]

/-- What a draft is built into, and when: the places of its values are numbered. -/
theorem statement_eq_ok_iff {draft : Draft} {statement : Statement} :
    draft.statement = .ok statement ↔
      draft.check = .ok () ∧ (∀ output ∈ draft.outputs, Lacks placeholder output) ∧
        statement = ⟨draft.kind, draft.table,
          String.ofList (render dollar 1 draft.pieces), draft.values⟩ := by
  have finished : Statement.finalize draft.kind draft.table draft.text draft.values =
      .ok statement ↔ AllFixed (Lacks placeholder) draft.pieces ∧ statement =
        ⟨draft.kind, draft.table, String.ofList (render dollar 1 draft.pieces), draft.values⟩ := by
    rw [← values_pieces]
    exact finalize_render (toList_text draft)
  rw [statement_eq]
  cases checked : draft.check with
  | error error =>
      constructor
      · intro built
        cases built
      · intro passed
        cases passed.1
  | ok =>
      have declared := (check_eq_ok_iff.mp checked).2
      rw [lacks_pieces_iff (.inl rfl) declared] at finished
      exact finished.trans ⟨fun built => ⟨rfl, built⟩, fun built => built.2⟩

/-- In the text of a statement no placeholder is left, its markers are numbered from one
to the number of its parameters without a gap, and the `n`-th marker stands where the
`n`-th parameter belongs. Those of a condition are in pre-order: first that of the root,
then those of the children, one child after the other. -/
theorem markers_match_params {draft : Draft} {statement : Statement}
    (plain : ∀ output ∈ draft.outputs, Lacks '$' output)
    (built : draft.statement = .ok statement) :
    placeholder ∉ statement.text.toList ∧
      markers statement.text.toList =
        (List.range' 1 statement.params.length).map Decimal.digits ∧
      statement.text.toList = render dollar 1 draft.pieces ∧
      statement.params = Piece.values draft.pieces ∧ Piece.values draft.pieces = draft.values ∧
      ∀ condition : Predicate, condition.params = condition.root.value ::
        condition.children.flatMap fun (_, child) => child.params := by
  obtain ⟨checked, unmarked, rfl⟩ := statement_eq_ok_iff.mp built
  have declared := (check_eq_ok_iff.mp checked).2
  have questions := (lacks_pieces_iff (.inl rfl) declared).mpr unmarked
  have dollars := (lacks_pieces_iff (.inr rfl) declared).mpr plain
  have numbers := markers_render dollars draft.startsApart_pieces 1
  have text : (String.ofList (render dollar 1 draft.pieces)).toList =
      render dollar 1 draft.pieces := String.toList_ofList
  refine ⟨?_, ?_, text, draft.values_pieces.symm, draft.values_pieces,
    Predicate.params_eq_preorder⟩
  · rw [text]
    exact placeholder_not_mem_render questions 1
  · rw [text, numbers, values_pieces]

/-- An update whose values look like marks, where one of two conditions holds. -/
def relabel : Draft :=
  .update .sets ((Predicate.eq "owner" (.int 7)).and
    ((Predicate.eq "id" (.int 1)).or (Predicate.eq "name" (.text "?"))))
    [("name", .text "$9"), ("type", .null)]

/-- The statement of that update. -/
def relabeled : Statement :=
  ⟨.mutation, .sets, "UPDATE \"sets\" SET \"name\" = $1, \"type\" = $2" ++
      " WHERE \"owner\" = $3 AND (\"id\" = $4 OR \"name\" = $5)",
    [.text "$9", .null, .int 7, .int 1, .text "?"]⟩

/-- Values that look like marks are no marks. -/
theorem markers_match_params_relabel :
    relabel.statement = .ok relabeled ∧
      markers relabeled.text.toList = [['1'], ['2'], ['3'], ['4'], ['5']] := by
  have plain : ∀ output ∈ relabel.outputs, Lacks '$' output := by
    simp [relabel, outputs]
  have built : relabel.statement = .ok relabeled :=
    statement_eq_ok_iff.mpr ⟨by rfl, by simp [relabel, outputs], by rfl⟩
  obtain ⟨_, numbered, _⟩ := markers_match_params plain built
  exact ⟨built, numbered⟩

end Sql.Draft

end Notebook
