import Notebook.Proofs.Sql.Draft
import Notebook.Row

/-!
# Queries and their reading

What the text of a finished query over one table means. A query is read clause by
clause: each clause reaches up to the keyword of the next one, and nothing may be left
at the end. Quoted names are no keywords, so no column can end a clause.

`Query.ofText?_select` says that the text of a built query is read as what was asked
for, whatever its condition, order and page are.
-/

namespace Notebook.Sql

/-! ### Reading -/

/-- A query as it was read. -/
structure Query where
  /-- The tokens of the selected expressions. -/
  outputs : List Token
  table : String
  condition : Option (Condition Bound)
  order : Option (String × SortOrder)
  limit : Option Nat
  offset : Option Nat

/-- Whether a token is the keyword of a clause. -/
def beginsClause : Token → Bool
  | .word text => ["FROM", "WHERE", "ORDER", "LIMIT", "OFFSET"].contains text
  | _ => false

/-- The tokens in front of the next clause, and the rest. -/
def splitClause (tokens : List Token) : List Token × List Token :=
  (tokens.takeWhile fun token => !beginsClause token,
    tokens.dropWhile fun token => !beginsClause token)

namespace Query

/-- The condition at the front of tokens, if there is one, and the tokens behind it. -/
def readCondition? (params : List Value) :
    List Token → Option (Option (Condition Bound) × List Token)
  | .word "WHERE" :: rest =>
      (Condition.ofTokens? params (splitClause rest).1).map fun condition =>
        (some condition, (splitClause rest).2)
  | tokens => some (none, tokens)

/-- The order at the front of tokens, if there is one, and the tokens behind it. -/
def readOrder : List Token → Option (String × SortOrder) × List Token
  | .word "ORDER" :: .word "BY" :: .name column :: .word "ASC" :: rest =>
      (some (column, .asc), rest)
  | .word "ORDER" :: .word "BY" :: .name column :: .word "DESC" :: rest =>
      (some (column, .desc), rest)
  | tokens => (none, tokens)

/-- The number behind a keyword at the front of tokens, if there is one, and the tokens
behind it. -/
def readNumber (keyword : String) : List Token → Option Nat × List Token
  | .word found :: .word digits :: rest =>
      match decide (found = keyword), Decimal.natural? digits.toList with
      | true, some number => (some number, rest)
      | _, _ => (none, .word found :: .word digits :: rest)
  | tokens => (none, tokens)

/-- The query that tokens stand for, with the parameters in their places. -/
def ofTokens? (params : List Value) : List Token → Option Query
  | .word "SELECT" :: rest =>
      match splitClause rest with
      | (outputs, .word "FROM" :: .name table :: rest) =>
          (readCondition? params rest).bind fun (condition, rest) =>
            let (order, rest) := readOrder rest
            let (limit, rest) := readNumber "LIMIT" rest
            let (offset, rest) := readNumber "OFFSET" rest
            if rest.isEmpty then some { outputs, table, condition, order, limit, offset }
            else none
      | _ => none
  | _ => none

/-- The query that a finished text stands for, with the parameters in their places. -/
def ofText? (params : List Value) (text : String) : Option Query :=
  (lexFrom .blank text.toList).bind (ofTokens? params)

end Query

/-! ### Rows -/

/-- A way to compare the value of a column with a parameter. How texts are ordered and
matched is up to the store, but integers are equal exactly if they are the same. -/
structure Comparing where
  compare : Operator → Value → Value → Truth
  int_eq_int : ∀ stored given : Int64,
    compare .eq (.int stored) (.int given) = .true ↔ stored = given

/-- The truth of a comparison in a row, unknown if the row has no such column. -/
def Comparing.truthAt (comparing : Comparing) (row : Row) (comparison : Comparison) : Truth :=
  match row.get? comparison.column with
  | some stored => comparing.compare comparison.operator stored comparison.value
  | none => .unknown

/-- Whether a query reads a row: its condition, if it has one, is true there. -/
def Query.Selects (comparing : Comparing) (query : Query) (row : Row) : Prop :=
  ∀ condition ∈ query.condition,
    (condition.truth fun leaf => comparing.truthAt row leaf.comparison) = .true

/-! ### Texts that go on -/

/-- The text adds these tokens to those of any text in front of it. -/
def Continues (text : List Char) (tokens : List Token) : Prop :=
  ∀ (front : List Char) (frontTokens : List Token), Spells front frontTokens →
    Spells (front ++ text) (frontTokens ++ tokens)

namespace Continues

/-- No text adds no tokens. -/
theorem nil : Continues [] [] := by
  intro front frontTokens spells
  simpa using spells

/-- Behind a blank, a text adds the tokens that it spells. -/
theorem blank {text : List Char} {tokens : List Token} (spells : Spells text tokens) :
    Continues (' ' :: text) tokens :=
  fun _ _ front => front.blank spells

/-- One text after another adds the tokens of both. -/
theorem append {first second : List Char} {tokens tokens' : List Token}
    (continues : Continues first tokens) (continues' : Continues second tokens') :
    Continues (first ++ second) (tokens ++ tokens') := by
  intro front frontTokens spells
  have whole := continues' _ _ (continues front frontTokens spells)
  rwa [List.append_assoc, List.append_assoc] at whole

end Continues

/-! ### The tokens of a built query -/

/-- A star spells its token. -/
theorem Spells.star : Spells ['*'] [.star] := by
  intro rest _
  exact lexFrom_begin rfl rest

/-- A numeral spells one word. -/
theorem Spells.numeral (number : Nat) :
    Spells (Decimal.ofNat number).toList [.word (Decimal.ofNat number)] := by
  have inside : (Decimal.digits number).all isWordChar = true := by
    rw [List.all_eq_true]
    intro c member
    simp [isWordChar, Char.isAlphanum, Decimal.isDigit_of_mem_digits member]
  rw [Decimal.ofNat, String.toList_ofList]
  cases digits : Decimal.digits number with
  | nil => exact absurd digits (Decimal.digits_ne_nil number)
  | cons c rest =>
      rw [digits] at inside
      exact .word inside

namespace Query

/-- The tokens of the clause that states a condition. -/
def conditionTokens : Option Predicate → List Token
  | none => []
  | some predicate => .word "WHERE" :: (predicate.terms 1).flatMap (Term.tokens .parameter)

/-- The tokens of the clause that orders rows. -/
def orderTokens : Option (String × SortOrder) → List Token
  | none => []
  | some (column, direction) =>
      [.word "ORDER", .word "BY", .name column, .word direction.sql]

/-- The tokens of a clause that is a number. -/
def numberTokens (keyword : String) : Option Nat → List Token
  | none => []
  | some number => [.word keyword, .word (Decimal.ofNat number)]

/-- The tokens behind the condition of a query. -/
def tailTokens (order : Option (String × SortOrder)) (limit offset : Option Nat) : List Token :=
  orderTokens order ++ (numberTokens "LIMIT" limit ++ numberTokens "OFFSET" offset)

/-- The most rows that a query asks for, if it is limited. -/
def limitOf (query : Select) : Option Nat :=
  if query.limit = 0 then none else some query.limit.toNat

/-- How many rows a query skips, if it does. -/
def offsetOf (query : Select) : Option Nat :=
  if query.limit = 0 ∨ query.offset = 0 then none else some query.offset.toNat

/-- The tokens of a query that selects expressions with these tokens. -/
def tokensOf (outputs : List Token) (query : Select) : List Token :=
  .word "SELECT" :: outputs ++ .word "FROM" :: .name query.table.name ::
    (conditionTokens query.condition ++ tailTokens query.order (limitOf query) (offsetOf query))

/-- The text of a condition adds the tokens of its clause. -/
theorem continues_condition (condition : Option Predicate) :
    Continues (Piece.render dollar 1 (Draft.conditionPieces condition))
      (conditionTokens condition) := by
  cases condition with
  | none => exact .nil
  | some predicate =>
      have keyword : Spells "WHERE".toList [.word "WHERE"] := .word rfl
      have inner := Predicate.spells_pieces Spells.parameter predicate 1
      exact .blank (keyword.blank inner)

/-- The text of an order adds the tokens of its clause. -/
theorem continues_order (order : Option (String × SortOrder)) :
    Continues (Select.orderText order).toList (orderTokens order) := by
  rcases order with _ | ⟨column, direction⟩
  · exact .nil
  · have first : Spells "ORDER".toList [.word "ORDER"] := .word rfl
    have second : Spells "BY".toList [.word "BY"] := .word rfl
    have way : Spells direction.sql.toList [.word direction.sql] := by
      cases direction <;> exact .word rfl
    have whole := Continues.blank (((first.blank second).blank (.name column)).blank way)
    simpa [Select.orderText, orderTokens] using whole

/-- The text of a page adds the tokens of its clauses. -/
theorem continues_page (query : Select) :
    Continues (Select.pageText query.limit query.offset).toList
      (numberTokens "LIMIT" (limitOf query) ++ numberTokens "OFFSET" (offsetOf query)) := by
  have limit : Spells "LIMIT".toList [.word "LIMIT"] := .word rfl
  have offset : Spells "OFFSET".toList [.word "OFFSET"] := .word rfl
  have limited := Continues.blank (limit.blank (.numeral query.limit.toNat))
  have skipped := Continues.blank (offset.blank (.numeral query.offset.toNat))
  by_cases all : query.limit = 0
  · simpa [Select.pageText, limitOf, offsetOf, all, numberTokens] using Continues.nil
  · by_cases start : query.offset = 0
    · simpa [Select.pageText, limitOf, offsetOf, all, start, numberTokens] using limited
    · simpa [Select.pageText, limitOf, offsetOf, all, start, numberTokens] using
        limited.append skipped

/-- The finished text of a query spells its tokens. -/
theorem spells_select (query : Select) {outputs : List Token}
    (spells : Spells (", ".intercalate query.outputs).toList outputs) :
    Spells (Piece.render dollar 1 (Draft.select query).pieces) (tokensOf outputs query) := by
  have select : Spells "SELECT".toList [.word "SELECT"] := .word rfl
  have source : Spells "FROM".toList [.word "FROM"] := .word rfl
  have front := ((select.blank spells).blank source).blank (.name query.table.name)
  have whole := (continues_condition query.condition).append
    ((continues_order query.order).append (continues_page query)) _ _ front
  rw [Draft.pieces]
  simpa [Piece.render, Piece.render_append, tokensOf, tailTokens] using whole

/-! ### Reading them back -/

/-- Nothing but a further clause follows. -/
def EndsClause (tokens : List Token) : Prop :=
  ∀ token ∈ tokens.head?, beginsClause token = true

/-- A clause reaches up to the next one. -/
theorem splitClause_append {inner rest : List Token}
    (plain : ∀ token ∈ inner, beginsClause token = false) (ends : EndsClause rest) :
    splitClause (inner ++ rest) = (inner, rest) := by
  have inside : ∀ token ∈ inner, (!beginsClause token) = true := by
    intro token member
    rw [plain token member]
    rfl
  rw [splitClause, List.takeWhile_append_of_pos inside, List.dropWhile_append_of_pos inside]
  cases rest with
  | nil => simp
  | cons token rest =>
      have begins := ends token rfl
      simp [begins]

/-- No token of a term begins a clause. -/
theorem beginsClause_of_mem_terms {predicate : Predicate} {next : Nat} {token : Token}
    (member : token ∈ (predicate.terms next).flatMap (Term.tokens .parameter)) :
    beginsClause token = false := by
  obtain ⟨term, _, inside⟩ := List.mem_flatMap.mp member
  cases term with
  | comparison leaf =>
      have cases : token = .name leaf.comparison.column ∨
          token = operatorToken leaf.comparison.operator ∨ token = .parameter leaf.place := by
        simpa [Term.tokens] using inside
      rcases cases with rfl | rfl | rfl
      · rfl
      · cases leaf.comparison.operator <;> rfl
      · rfl
  | conjunction joining =>
      have same : token = .word joining.sql := by simpa [Term.tokens] using inside
      rw [same]
      cases joining <;> rfl
  | opening =>
      have same : token = .opening := by simpa [Term.tokens] using inside
      rw [same]
      rfl
  | closing =>
      have same : token = .closing := by simpa [Term.tokens] using inside
      rw [same]
      rfl

/-- Behind the condition of a query there are further clauses only. -/
theorem endsClause_tailTokens (order : Option (String × SortOrder)) (limit offset : Option Nat) :
    EndsClause (tailTokens order limit offset) := by
  intro token first
  rcases order with _ | ⟨column, direction⟩
  · cases limit with
    | none =>
        cases offset with
        | none => cases first
        | some offset =>
            cases first
            rfl
    | some limit =>
        cases first
        rfl
  · cases first
    rfl

/-- The condition of a query is read as its group. -/
theorem readCondition?_tokens (condition : Option Predicate)
    (order : Option (String × SortOrder)) (limit offset : Option Nat) :
    readCondition? ((condition.map Predicate.params).getD [])
        (conditionTokens condition ++ tailTokens order limit offset) =
      some (condition.map fun predicate => (predicate.group 1).close,
        tailTokens order limit offset) := by
  cases condition with
  | none =>
      rcases order with _ | ⟨column, direction⟩
      · cases limit <;> cases offset <;> rfl
      · rfl
  | some predicate =>
      have inner : ∀ token ∈ (predicate.terms 1).flatMap (Term.tokens .parameter),
          beginsClause token = false := fun token member => beginsClause_of_mem_terms member
      have split := splitClause_append inner (endsClause_tailTokens order limit offset)
      have grouped := Predicate.ofTokens?_terms [] predicate
      rw [List.nil_append, List.length_nil, Nat.zero_add] at grouped
      rw [conditionTokens, List.cons_append, readCondition?, split]
      simp [grouped]

/-- The order of a query is read back. -/
theorem readOrder_tokens (order : Option (String × SortOrder)) (limit offset : Option Nat) :
    readOrder (tailTokens order limit offset) =
      (order, numberTokens "LIMIT" limit ++ numberTokens "OFFSET" offset) := by
  rcases order with _ | ⟨column, direction⟩
  · cases limit <;> cases offset <;> rfl
  · cases direction <;> rfl

/-- A number behind its keyword is read back. -/
theorem readNumber_some (keyword : String) (number : Nat) (rest : List Token) :
    readNumber keyword (numberTokens keyword (some number) ++ rest) = (some number, rest) := by
  simp [numberTokens, readNumber, Decimal.ofNat, Decimal.natural?_digits]

/-- The limit of a query is read back. -/
theorem readNumber_limit (limit offset : Option Nat) :
    readNumber "LIMIT" (numberTokens "LIMIT" limit ++ numberTokens "OFFSET" offset) =
      (limit, numberTokens "OFFSET" offset) := by
  cases limit with
  | some limit => exact readNumber_some "LIMIT" limit _
  | none => cases offset <;> rfl

/-- The offset of a query is read back, and nothing is left. -/
theorem readNumber_offset (offset : Option Nat) :
    readNumber "OFFSET" (numberTokens "OFFSET" offset) = (offset, []) := by
  cases offset with
  | some offset => exact readNumber_some "OFFSET" offset []
  | none => rfl

/-- What is read of a query that selects expressions with these tokens. -/
def reading (outputs : List Token) (query : Select) : Query where
  outputs
  table := query.table.name
  condition := query.condition.map fun predicate => (predicate.group 1).close
  order := query.order
  limit := limitOf query
  offset := offsetOf query

/-- The tokens of a query are read as what was asked for. -/
theorem ofTokens?_tokensOf (query : Select) {outputs : List Token}
    (plain : ∀ token ∈ outputs, beginsClause token = false) :
    ofTokens? query.params (tokensOf outputs query) = some (reading outputs query) := by
  have source (rest : List Token) : EndsClause (.word "FROM" :: rest) := by
    simp [EndsClause, beginsClause]
  have split := fun rest => splitClause_append plain (source rest)
  simp only [tokensOf, List.cons_append, ofTokens?, split, Select.params, readCondition?_tokens,
    Option.bind_some, readOrder_tokens, readNumber_limit, readNumber_offset, List.isEmpty_nil,
    if_true, reading]

/-- The text of a built query is read as what was asked for. -/
theorem ofText?_select (query : Select) {outputs : List Token}
    (spells : Spells (", ".intercalate query.outputs).toList outputs)
    (plain : ∀ token ∈ outputs, beginsClause token = false) :
    ofText? query.params (String.ofList (Piece.render dollar 1 (Draft.select query).pieces)) =
      some (reading outputs query) := by
  have lexed := (spells_select query spells).lexFrom_eq
  rw [ofText?, String.toList_ofList, lexed]
  exact ofTokens?_tokensOf query plain

end Query

end Notebook.Sql
