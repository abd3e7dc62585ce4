import Notebook.Proofs.Listing.Sent
import Notebook.Proofs.Predicate.Truth
import Notebook.Proofs.Sql.Query

/-!
# The scope of a listing

A listing is asked for by the owner of the notes, but its filters come from outside.
Each is joined to the owner's scope as one operand, so no filter can widen it: what the
text that is sent selects are the owner's notes that meet every filter by itself.
-/

namespace Notebook.Notes

open Notebook.Sql

/-- The query that a listing is read as. -/
def listQuery (limits : Limits) (owner : Int64) (listing : NoteListing) : Query :=
  Query.reading [.star]
    (pageQuery limits (listingCondition owner listing) listing.order listing.offset)

/-- The statement that a listing sends is read as its query. -/
theorem ofText?_pageStatement (limits : Limits) (owner : Int64) (listing : NoteListing) :
    let statement := pageStatement limits (listingCondition owner listing) listing.order
      listing.offset
    Query.ofText? statement.params statement.text = some (listQuery limits owner listing) := by
  have star : Spells (", ".intercalate ["*"]).toList [.star] := by
    simpa using Spells.star
  have plain : ∀ token ∈ [Token.star], beginsClause token = false := by
    simp [beginsClause]
  exact Query.ofText?_select
    (pageQuery limits (listingCondition owner listing) listing.order listing.offset) star plain

/-- The rows that the query of a listing selects are the owner's that meet every filter. -/
theorem selects_listQuery (limits : Limits) (owner : Int64) (listing : NoteListing)
    (comparing : Comparing) {row : Row} {stored : Int64}
    (owned : row.get? "owner" = some (.int stored)) :
    (listQuery limits owner listing).Selects comparing row ↔
      stored = owner ∧
        ∀ filter ∈ listing.filters, filter.truth (comparing.truthAt row) = .true := by
  have scope : comparing.truthAt row ⟨"owner", .eq, .int owner⟩ = .true ↔ stored = owner := by
    rw [Comparing.truthAt, owned]
    exact comparing.int_eq_int stored owner
  have selected : (listQuery limits owner listing).Selects comparing row ↔
      (listingCondition owner listing).truth (comparing.truthAt row) = .true := by
    rw [← Predicate.truth_group _ _ 1]
    simp [Query.Selects, listQuery, Query.reading, pageQuery]
  rw [selected, listingCondition, Predicate.eq, Predicate.compare,
    Predicate.truth_andAll_eq_true_iff, scope]

/-- Whatever the filters, the order and the page of a listing are, it sends one query on
notes, and the text of that query selects exactly the rows of the owner that meet every
filter taken by itself. -/
theorem list_selects_owned_rows (limits : Limits) (owner : Int64) (listing : NoteListing)
    (listable : Listable listing.filters) :
    ∃ statement query,
      (list limits owner listing).run = .ask (.store (.execute statement))
        (fun answer => .done (answer >>= fun outcome => outcome.readAll Note.ofRow)) ∧
      Query.ofText? statement.params statement.text = some query ∧
      query.table = Table.notes.name ∧
      ∀ (comparing : Comparing) (row : Row) (stored : Int64),
        row.get? "owner" = some (.int stored) →
        (query.Selects comparing row ↔
          stored = owner ∧
            ∀ filter ∈ listing.filters, filter.truth (comparing.truthAt row) = .true) := by
  refine ⟨_, listQuery limits owner listing, list_run listable limits owner,
    ofText?_pageStatement limits owner listing, rfl, ?_⟩
  intro comparing row stored owned
  exact selects_listQuery limits owner listing comparing owned

/-- A way to compare integers only; all else is unknown. -/
def integers : Comparing where
  compare
    | operator, .int stored, .int given =>
        let holds := match operator with
          | .eq => decide (stored = given)
          | .notEq => decide (stored ≠ given)
          | .gt => decide (given < stored)
          | .lt => decide (stored < given)
          | .gtEq => decide (given ≤ stored)
          | .ltEq => decide (stored ≤ given)
          | .like => false
        if holds then .true else .false
    | _, _, _ => .unknown
  int_eq_int := by
    intro stored given
    by_cases same : stored = given <;> simp [same]

/-- A filter that asks for the notes of somebody else finds none of them. -/
theorem list_selects_owned_rows_or :
    ∃ statement query,
      (list {} 7 { filters := [(Predicate.eq "id" (.int 1)).or (.eq "owner" (.int 8))] }).run =
        .ask (.store (.execute statement))
          (fun answer => .done (answer >>= fun outcome => outcome.readAll Note.ofRow)) ∧
      Query.ofText? statement.params statement.text = some query ∧
      query.Selects integers ⟨[("id", .int 1), ("owner", .int 7)]⟩ ∧
      ¬ query.Selects integers ⟨[("id", .int 1), ("owner", .int 8)]⟩ := by
  have listable : Listable [(Predicate.eq "id" (.int 1)).or (.eq "owner" (.int 8))] := by
    unfold Listable
    decide
  obtain ⟨statement, query, sent, readable, _, selects⟩ := list_selects_owned_rows {} 7
    { filters := [(Predicate.eq "id" (.int 1)).or (.eq "owner" (.int 8))] } listable
  refine ⟨statement, query, sent, readable, ?_, ?_⟩
  · refine (selects integers _ 7 rfl).mpr ⟨rfl, ?_⟩
    intro filter member
    rw [List.mem_singleton.mp member]
    rfl
  · intro found
    have same := ((selects integers _ 8 rfl).mp found).1
    cases same

end Notebook.Notes
