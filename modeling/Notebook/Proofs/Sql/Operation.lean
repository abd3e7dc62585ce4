import Notebook.Proofs.Sql.Alignment
import Notebook.Proofs.Sql.Query
import Notebook.Repository.Allocation

/-!
# Statements and their reading

What the text of a finished statement asks of the tables, whichever builder made it. An
operation is read from the text and the parameters alone. The expression for the next id
of a table is arithmetic, which the tokens here have no rule for, so the query for it is
known by its text.

Each builder has one theorem: what it builds is read as what it was asked for.
-/

namespace Notebook

namespace Table

/-- All tables. -/
def all : List Table :=
  [.users, .sets, .notes]

/-- The table with a name. -/
def ofName? (name : String) : Option Table :=
  all.find? fun table => table.name = name

/-- A table is found by its name. -/
@[simp]
theorem ofName?_name (table : Table) : ofName? table.name = some table := by
  cases table <;> rfl

/-- The text that asks for one more than the greatest id, or zero without any. -/
def nextIdText (table : Table) : String :=
  "SELECT " ++ ("COALESCE(MAX(\"id\"), -1) + 1 AS " ++ nextIdColumn) ++ " FROM " ++
    quoteName table.name

end Table

namespace Sql

/-! ### Reading -/

/-- What a statement asks of the tables. -/
inductive Operation where
  | query (query : Query)
  /-- One more than the greatest id, or zero if the table is empty. -/
  | nextId (table : Table)
  | insert (table : Table) (values : List Value)
  | update (table : Table) (assignments : List (String × Value)) (condition : Condition Bound)
  | delete (table : Table) (condition : Condition Bound)

namespace Operation

/-- The values of places with commas between them, up to a closing parenthesis. -/
def readValues? (params : List Value) : List Token → Option (List Value)
  | [.parameter place, .closing] => (parameter? params place).map ([·])
  | .parameter place :: .comma :: rest => do
      let value ← parameter? params place
      let values ← readValues? params rest
      return value :: values
  | _ => none

/-- Assignments with commas between them. -/
def readAssignments? (params : List Value) : List Token → Option (List (String × Value))
  | [.name column, .sign "=", .parameter place] =>
      (parameter? params place).map fun value => [(column, value)]
  | .name column :: .sign "=" :: .parameter place :: .comma :: rest => do
      let value ← parameter? params place
      let assignments ← readAssignments? params rest
      return (column, value) :: assignments
  | _ => none

/-- The operation that tokens stand for, with the parameters in their places. -/
def ofTokens? (params : List Value) : List Token → Option Operation
  | .word "INSERT" :: .word "INTO" :: .name table :: .word "VALUES" :: .opening :: rest => do
      let table ← Table.ofName? table
      let values ← readValues? params rest
      return .insert table values
  | .word "UPDATE" :: .name table :: .word "SET" :: rest =>
      match splitClause rest with
      | (assigned, .word "WHERE" :: tested) => do
          let table ← Table.ofName? table
          let assignments ← readAssignments? params assigned
          let condition ← Condition.ofTokens? params tested
          return .update table assignments condition
      | _ => none
  | .word "DELETE" :: .word "FROM" :: .name table :: .word "WHERE" :: tested => do
      let table ← Table.ofName? table
      let condition ← Condition.ofTokens? params tested
      return .delete table condition
  | tokens => (Query.ofTokens? params tokens).map .query

/-- The operation that a statement stands for. -/
def ofStatement? (statement : Statement) : Option Operation :=
  match lexFrom .blank statement.text.toList with
  | some tokens => ofTokens? statement.params tokens
  | none =>
      (Table.all.find? fun table => statement.text = table.nextIdText).map .nextId

end Operation

/-! ### Lists of places -/

/-- Two texts with a comma between them spell the tokens of both around it. -/
theorem Spells.comma {first second : List Char} {tokens tokens' : List Token}
    (spells : Spells first tokens) (spells' : Spells second tokens') :
    Spells (first ++ ',' :: ' ' :: second) (tokens ++ .comma :: tokens') := by
  intro rest apart
  have front := spells (',' :: ' ' :: (second ++ rest)) (Apart.cons rfl _)
  have mark := lexFrom_begin (c := ',') rfl (' ' :: (second ++ rest))
  have skip := lexFrom_begin (c := ' ') rfl (second ++ rest)
  rw [List.append_assoc, List.cons_append, List.cons_append, front, mark, skip,
    spells' rest apart]
  simp [Function.comp_def]

/-- The tokens of numbered items with commas between them. -/
def listTokens {α : Type} (tokensOf : Nat → α → List Token) (next : Nat) :
    List α → List Token
  | [] => []
  | [item] => tokensOf next item
  | item :: rest => tokensOf next item ++ .comma :: listTokens tokensOf (next + 1) rest

/-- A list of items with one place each spells the tokens of its items. -/
theorem spells_intercalate {α : Type} (piecesOf : α → List Piece)
    (tokensOf : Nat → α → List Token) (single : ∀ item, (Piece.values (piecesOf item)).length = 1)
    (spells : ∀ next item, Spells (Piece.render dollar next (piecesOf item)) (tokensOf next item))
    (next : Nat) (item : α) (rest : List α) :
    Spells (Piece.render dollar next
        ([Piece.fixed ", "].intercalate ((item :: rest).map piecesOf)))
      (listTokens tokensOf next (item :: rest)) := by
  induction rest generalizing next item with
  | nil => simpa [listTokens] using spells next item
  | cons following rest inductionHypothesis =>
      have whole := (spells next item).comma (inductionHypothesis (next + 1) following)
      rw [List.map_cons, List.map_cons, List.intercalate_cons_cons, List.append_assoc,
        Piece.render_append, single]
      simpa [Piece.render, listTokens] using whole

/-- The value behind the parameters in front has the next place. -/
theorem parameter?_append_cons (front back : List Value) (value : Value) :
    parameter? (front ++ value :: back) (front.length + 1) = some value := by
  simp [parameter?]

namespace Operation

/-- Values are read back from their places behind the parameters in front. -/
theorem readValues?_listTokens (front : List Value) (value : Value) (rest : List Value) :
    readValues? (front ++ value :: rest)
        (listTokens (fun place _ => [.parameter place]) (front.length + 1) (value :: rest) ++
          [.closing]) =
      some (value :: rest) := by
  induction rest generalizing front value with
  | nil => simp [listTokens, readValues?, parameter?_append_cons]
  | cons following rest inductionHypothesis =>
      have later := inductionHypothesis (front ++ [value]) following
      have here := parameter?_append_cons front (following :: rest) value
      rw [List.append_assoc, List.singleton_append, List.length_append, List.length_singleton]
        at later
      simp [listTokens, readValues?, here, later]

/-- The tokens of an assignment. -/
def assignmentTokens (place : Nat) (assignment : String × Value) : List Token :=
  [.name assignment.1, .sign "=", .parameter place]

/-- Assignments are read back from their places, whatever parameters follow. -/
theorem readAssignments?_listTokens (front back : List Value) (assignment : String × Value)
    (rest : List (String × Value)) :
    readAssignments? (front ++ ((assignment :: rest).map Prod.snd ++ back))
        (listTokens assignmentTokens (front.length + 1) (assignment :: rest)) =
      some (assignment :: rest) := by
  induction rest generalizing front assignment with
  | nil => simp [listTokens, assignmentTokens, readAssignments?, parameter?_append_cons]
  | cons following rest inductionHypothesis =>
      have later := inductionHypothesis (front ++ [assignment.2]) following
      have here := parameter?_append_cons front
        ((following :: rest).map Prod.snd ++ back) assignment.2
      rw [List.append_assoc, List.singleton_append, List.length_append, List.length_singleton]
        at later
      simp only [List.map_cons, List.cons_append] at here later ⊢
      simp [listTokens, assignmentTokens, readAssignments?, here, later]

/-- No token of an assignment begins a clause. -/
theorem beginsClause_of_mem_assignments {next : Nat} {assignments : List (String × Value)}
    {token : Token} (member : token ∈ listTokens assignmentTokens next assignments) :
    beginsClause token = false := by
  have single {place : Nat} {assignment : String × Value}
      (inside : token ∈ assignmentTokens place assignment) : beginsClause token = false := by
    simp only [assignmentTokens, List.mem_cons, List.not_mem_nil, or_false] at inside
    rcases inside with rfl | rfl | rfl <;> rfl
  fun_induction listTokens with
  | case1 => cases member
  | case2 => exact single member
  | case3 next item rest _ inductionHypothesis =>
      simp only [List.mem_append, List.mem_cons] at member
      rcases member with here | rfl | later
      · exact single here
      · rfl
      · exact inductionHypothesis later

/-! ### What the builders build -/

/-- A statement whose text spells tokens is read by them. -/
theorem ofStatement?_eq {kind : StatementKind} {table : Table} {text : List Char}
    {params : List Value} {tokens : List Token} (spells : Spells text tokens) :
    ofStatement? ⟨kind, table, String.ofList text, params⟩ = ofTokens? params tokens := by
  rw [ofStatement?, String.toList_ofList, spells.lexFrom_eq]

/-- The text that inserts values spells their places. -/
theorem spells_insert (table : Table) (value : Value) (rest : List Value) :
    Spells (Piece.render dollar 1 (Draft.insert table (value :: rest)).pieces)
      ([.word "INSERT", .word "INTO", .name table.name, .word "VALUES", .opening] ++
        (listTokens (fun place _ => [.parameter place]) 1 (value :: rest) ++ [.closing])) := by
  have insert : Spells "INSERT".toList [.word "INSERT"] := .word rfl
  have into : Spells "INTO".toList [.word "INTO"] := .word rfl
  have keyword : Spells "VALUES".toList [.word "VALUES"] := .word rfl
  have places := spells_intercalate (fun value => [Piece.place value])
    (fun place _ => [.parameter place]) (fun _ => rfl)
    (fun next _ => by simpa [Piece.render, dollar] using Spells.parameter next) 1 value rest
  have whole := (((insert.blank into).blank (.name table.name)).blank keyword).blank
    places.parenthesized
  simpa [Draft.pieces, Piece.render, Piece.render_append] using whole

/-- A statement that inserts values is read as such. -/
theorem ofStatement?_insert {table : Table} {values : List Value} {statement : Statement}
    (built : (Draft.insert table values).statement = .ok statement) :
    ofStatement? statement = some (.insert table values) := by
  obtain ⟨checked, _, rfl⟩ := Draft.statement_eq_ok_iff.mp built
  have sized := (Draft.check_eq_ok_iff.mp checked).1
  cases values with
  | nil => cases table <;> cases sized
  | cons value rest =>
      have spells := spells_insert table value rest
      have readable := readValues?_listTokens [] value rest
      rw [ofStatement?_eq spells]
      simp only [List.nil_append, List.length_nil, Nat.zero_add] at readable
      simp [ofTokens?, readable, Draft.values]

/-- The tokens of an update. -/
def updateTokens (table : Table) (condition : Predicate) (assignments : List (String × Value)) :
    List Token :=
  .word "UPDATE" :: .name table.name :: .word "SET" ::
    (listTokens assignmentTokens 1 assignments ++ .word "WHERE" ::
      (condition.terms (assignments.length + 1)).flatMap (Term.tokens .parameter))

/-- The text that assigns columns spells its tokens. -/
theorem spells_update (table : Table) (condition : Predicate) (assignment : String × Value)
    (rest : List (String × Value)) :
    Spells (Piece.render dollar 1 (Draft.update table condition (assignment :: rest)).pieces)
      (updateTokens table condition (assignment :: rest)) := by
  have update : Spells "UPDATE".toList [.word "UPDATE"] := .word rfl
  have set : Spells "SET".toList [.word "SET"] := .word rfl
  have filter : Spells "WHERE".toList [.word "WHERE"] := .word rfl
  have equals : Spells "=".toList [.sign "="] := Spells.operator .eq
  have assigned := spells_intercalate Draft.assignmentPieces assignmentTokens
    (fun _ => rfl) (fun next assignment => by
      have whole := ((Spells.name assignment.1).blank equals).blank (.parameter next)
      simpa [Draft.assignmentPieces, Piece.render, dollar, assignmentTokens] using whole)
    1 assignment rest
  have count : (Piece.values ([Piece.fixed ", "].intercalate
      ((assignment :: rest).map Draft.assignmentPieces))).length = rest.length + 1 := by
    rw [Piece.values_intercalate, List.flatMap_map, List.length_flatMap]
    simp [Draft.assignmentPieces, Piece.values, List.map_const', Nat.add_comm]
  have marked (place : Nat) : Spells (dollar place) [.parameter place] := .parameter place
  have inner := Predicate.spells_pieces marked condition (rest.length + 2)
  have whole := ((((update.blank (.name table.name)).blank set).blank assigned).blank
    filter).blank inner
  have behind : 1 + (rest.length + 1) = rest.length + 2 := by omega
  have text : Piece.render dollar 1 (Draft.update table condition (assignment :: rest)).pieces =
      "UPDATE".toList ++ ' ' :: (quoteName table.name).toList ++ ' ' :: "SET".toList ++
        ' ' :: Piece.render dollar 1 ([Piece.fixed ", "].intercalate
          ((assignment :: rest).map Draft.assignmentPieces)) ++
        ' ' :: "WHERE".toList ++ ' ' :: Piece.render dollar (rest.length + 2) condition.pieces := by
    rw [Draft.pieces, List.cons_append, Piece.render, Piece.render_append, count, behind]
    generalize Piece.render dollar 1 ([Piece.fixed ", "].intercalate
          ((assignment :: rest).map Draft.assignmentPieces)) = front
    simp [Piece.render]
  rw [text, updateTokens]
  simpa using whole

/-- The tokens of an update are read as its assignments and the group of its condition. -/
theorem ofTokens?_updateTokens (table : Table) (condition : Predicate)
    (assignment : String × Value) (rest : List (String × Value)) :
    ofTokens? ((assignment :: rest).map Prod.snd ++ condition.params)
        (updateTokens table condition (assignment :: rest)) =
      some (.update table (assignment :: rest) (condition.group (rest.length + 2)).close) := by
  have ends : Query.EndsClause (.word "WHERE" ::
      (condition.terms (rest.length + 2)).flatMap (Term.tokens .parameter)) := by
    simp [Query.EndsClause, beginsClause]
  have plain : ∀ token ∈ listTokens assignmentTokens 1 (assignment :: rest),
      beginsClause token = false := fun token member => beginsClause_of_mem_assignments member
  have split := Query.splitClause_append plain ends
  have tested := Predicate.ofTokens?_terms ((assignment :: rest).map Prod.snd) condition
  have readable := readAssignments?_listTokens [] condition.params assignment rest
  rw [List.length_map, List.length_cons] at tested
  rw [List.nil_append, List.length_nil, Nat.zero_add] at readable
  rw [updateTokens, List.length_cons, ofTokens?, split]
  simp only [Table.ofName?_name, tested, readable, Option.bind_eq_bind, Option.bind_some]
  rfl

/-- A statement that assigns columns is read as such. -/
theorem ofStatement?_update {table : Table} {condition : Predicate}
    {assignments : List (String × Value)} {statement : Statement}
    (built : (Draft.update table condition assignments).statement = .ok statement) :
    ofStatement? statement =
      some (.update table assignments (condition.group (assignments.length + 1)).close) := by
  obtain ⟨checked, _, rfl⟩ := Draft.statement_eq_ok_iff.mp built
  have sized := (Draft.check_eq_ok_iff.mp checked).1
  cases assignments with
  | nil => exact absurd rfl sized
  | cons assignment rest =>
      have spells := spells_update table condition assignment rest
      rw [ofStatement?_eq spells]
      exact ofTokens?_updateTokens table condition assignment rest

/-- A statement that deletes rows is read as such. -/
theorem ofStatement?_delete {table : Table} {condition : Predicate} {statement : Statement}
    (built : (Draft.delete table condition).statement = .ok statement) :
    ofStatement? statement = some (.delete table (condition.group 1).close) := by
  obtain ⟨_, _, rfl⟩ := Draft.statement_eq_ok_iff.mp built
  have delete : Spells "DELETE".toList [.word "DELETE"] := .word rfl
  have source : Spells "FROM".toList [.word "FROM"] := .word rfl
  have filter : Spells "WHERE".toList [.word "WHERE"] := .word rfl
  have marked (place : Nat) : Spells (dollar place) [.parameter place] := .parameter place
  have inner := Predicate.spells_pieces marked condition 1
  have whole := (((delete.blank source).blank (.name table.name)).blank filter).blank inner
  have tested := Predicate.ofTokens?_terms [] condition
  rw [List.nil_append, List.length_nil, Nat.zero_add] at tested
  have text : Piece.render dollar 1 (Draft.delete table condition).pieces =
      "DELETE".toList ++ ' ' :: "FROM".toList ++ ' ' :: (quoteName table.name).toList ++
        ' ' :: "WHERE".toList ++ ' ' :: Piece.render dollar 1 condition.pieces := by
    simp [Draft.pieces, Piece.render]
  rw [← text] at whole
  rw [ofStatement?_eq whole]
  simp [ofTokens?, tested, Draft.values]

/-- A query that asks for whole rows is read as what was asked for. -/
theorem ofStatement?_select {query : Select} {statement : Statement}
    (built : (Draft.select query).statement = .ok statement) (star : query.outputs = ["*"]) :
    ofStatement? statement = some (.query (Query.reading [.star] query)) := by
  obtain ⟨_, _, rfl⟩ := Draft.statement_eq_ok_iff.mp built
  have whole : Spells (", ".intercalate query.outputs).toList [.star] := by
    simpa [star] using Spells.star
  have plain : ∀ token ∈ [Token.star], beginsClause token = false := by
    simp [beginsClause]
  have spells := Query.spells_select query whole
  have readable := Query.ofTokens?_tokensOf query plain
  rw [ofStatement?_eq spells]
  simp only [Query.tokensOf, List.cons_append] at readable ⊢
  rw [ofTokens?, Draft.values, readable]
  · rfl
  all_goals simp

/-- The reader of tokens stops at the sign in the expression for the next id. -/
theorem lexFrom_nextIdText (table : Table) : lexFrom .blank table.nextIdText.toList = none := by
  delta Table.nextIdText
  rw [String.toList_append, String.toList_append, String.toList_append, String.toList_append]
  generalize (quoteName table.name).toList = rest
  rfl

/-- The statement that asks for the next id of a table is read as such. -/
theorem ofStatement?_nextId {table : Table} {statement : Statement}
    (built : table.nextIdQuery.statement = .ok statement) :
    ofStatement? statement = some (.nextId table) := by
  have finished : (Draft.select table.nextIdQuery).statement = .ok statement := built
  obtain ⟨_, _, rfl⟩ := Draft.statement_eq_ok_iff.mp finished
  have text : Piece.render dollar 1 (Draft.select table.nextIdQuery).pieces =
      table.nextIdText.toList := by
    delta Table.nextIdText Table.nextIdQuery
    simp [Draft.pieces, Draft.conditionPieces, Piece.render, Select.orderText, Select.pageText]
  have found : Table.all.find? (fun other => table.nextIdText = other.nextIdText) = some table := by
    cases table <;> decide
  simp only [ofStatement?, text, String.ofList_toList, lexFrom_nextIdText, found, Option.map_some]

end Operation

end Sql

end Notebook
