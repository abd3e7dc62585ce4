import Notebook.Proofs.Sql.Alignment
import Notebook.Repository.Notes

/-!
# What a listing sends

A listing whose filters name columns of notes is one query, followed by the decoding
of its rows. Nothing else is asked of the store.
-/

namespace Notebook

open Notebook.Sql Notebook.Sql.Piece

/-- The comparisons of a chain are those of its base and of its operands, in order. -/
theorem Predicate.comparisons_andAll (base : Predicate) (operands : List Predicate) :
    (base.andAll operands).comparisons = base.comparisons ++ operands.flatMap comparisons := by
  induction operands generalizing base with
  | nil => simp [andAll]
  | cons operand rest inductionHypothesis =>
      have step : base.andAll (operand :: rest) = (base.and operand).andAll rest := rfl
      rw [step, inductionHypothesis]
      simp [Predicate.and, comparisons]

/-- Reading what a query asks for is one question to the store. -/
theorem Job.read_run {α : Type} {query : Select} {statement : Statement}
    (built : query.statement = .ok statement) (read : Outcome → Except Error α) :
    (do
      let statement ← Job.ofExcept query.statement
      let outcome ← Job.execute statement
      Job.ofExcept (read outcome) : Job α).run =
        .ask (.store (.execute statement)) fun answer => .done (answer >>= read) := by
  rw [built]
  let decode (outcome : Outcome) : Job α := Job.ofExcept (read outcome)
  have asked (answer : Except Error Outcome) :
      (ExceptT.bindCont decode answer : Work (Except Error α)) = .done (answer >>= read) := by
    cases answer <;> rfl
  exact congrArg (Program.ask _) (funext asked)

namespace Notes

/-- Every column in the filters of a listing is one of notes. -/
def Listable (filters : List Predicate) : Prop :=
  ∀ filter ∈ filters, ∀ column ∈ filter.columns, Table.notes.declares column = true

/-- If the columns of the filters are declared, so are those of the whole condition. -/
theorem Listable.condition {listing : NoteListing} (listable : Listable listing.filters)
    (owner : Int64) :
    ∀ column ∈ (listingCondition owner listing).columns, Table.notes.declares column = true := by
  intro column member
  rw [listingCondition, Predicate.columns, Predicate.comparisons_andAll, List.map_append,
    List.mem_append] at member
  rcases member with scope | filtered
  · have same : column = "owner" := by
      simpa [Predicate.eq, Predicate.compare, Predicate.comparisons] using scope
    rw [same]
    rfl
  · rw [List.map_flatMap, List.mem_flatMap] at filtered
    obtain ⟨filter, inside, named⟩ := filtered
    exact listable filter inside column named

/-- The statement of one page of notes. -/
def pageStatement (limits : Limits) (condition : Predicate) (order : SortOrder)
    (offset : Option UInt64) : Statement :=
  let draft := Draft.select (pageQuery limits condition order offset)
  ⟨.query, .notes, String.ofList (render dollar 1 draft.pieces), condition.params⟩

/-- A page is built if its condition names columns of notes. -/
theorem pageQuery_statement {condition : Predicate}
    (declared : ∀ column ∈ condition.columns, Table.notes.declares column = true)
    (limits : Limits) (order : SortOrder) (offset : Option UInt64) :
    (pageQuery limits condition order offset).statement =
      .ok (pageStatement limits condition order offset) := by
  have built : (Draft.select (pageQuery limits condition order offset)).statement =
      .ok (pageStatement limits condition order offset) ↔ _ := Draft.statement_eq_ok_iff
  refine built.mpr ⟨Draft.check_eq_ok_iff.mpr ⟨trivial, ?_⟩, ?_, rfl⟩
  · intro column member
    rcases List.mem_append.mp member with named | ordered
    · exact declared column named
    · have same : column = "id" := by simpa [pageQuery] using ordered
      rw [same]
      rfl
  · intro output member
    have same : output = "*" := by simpa [Draft.outputs, pageQuery] using member
    rw [same]
    decide

/-- A listing sends its query and decodes the rows it gets. -/
theorem list_run {listing : NoteListing} (listable : Listable listing.filters)
    (limits : Limits) (owner : Int64) :
    (list limits owner listing).run =
      .ask (.store (.execute (pageStatement limits (listingCondition owner listing)
        listing.order listing.offset)))
        fun answer => .done (answer >>= fun outcome => outcome.readAll Note.ofRow) :=
  Job.read_run (pageQuery_statement (listable.condition owner) limits listing.order listing.offset)
    fun outcome => outcome.readAll Note.ofRow

end Notes

end Notebook
