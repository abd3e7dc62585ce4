import Mathlib.Data.List.Perm.Basic
import Notebook.Proofs.Listing.Scope
import Notebook.Proofs.Store.Things

/-!
# Things in order

SQL leaves open how rows with the same place in an order come. Ids are distinct, so a query
that orders by id has one answer only: what it reads is a page of the one list in which the ids
of the selected things go up, or down (`Sql.Query.Yields.page_of_arranged`), and it always has
this answer (`Sql.Query.yields_of_arranged`).
-/

namespace Notebook

open Notebook.Sql

/-! ### Orders -/

/-- How a store compares values if it orders integers as numbers. -/
structure OrderedCollation extends Collation where
  int_lt_int : ∀ stored given : Int64,
    compare .lt (.int stored) (.int given) = .true ↔ stored < given
  int_gt_int : ∀ stored given : Int64,
    compare .gt (.int stored) (.int given) = .true ↔ given < stored

/-- A store that orders integers, and knows of texts only whether they are the same. -/
def OrderedCollation.exact : OrderedCollation where
  compare
    | operator, .int stored, .int given =>
        Notes.integers.compare operator (.int stored) (.int given)
    | .eq, .text stored, .text given => if stored = given then .true else .false
    | _, _, _ => .unknown
  int_eq_int := Notes.integers.int_eq_int
  text_eq_text := by
    intro stored given
    by_cases same : stored = given <;> simp [same]
  int_lt_int := by
    intro stored given
    by_cases less : stored < given <;> simp [Notes.integers, less]
  int_gt_int := by
    intro stored given
    by_cases less : given < stored <;> simp [Notes.integers, less]

/-- The first id is in front of the second. -/
def SortOrder.Precedes : (order : SortOrder) → (first second : Int64) → Prop
  | .asc, first, second => first < second
  | .desc, first, second => second < first

namespace SortOrder

instance (order : SortOrder) (first second : Int64) : Decidable (order.Precedes first second) :=
  match order with
  | .asc => inferInstanceAs (Decidable (first < second))
  | .desc => inferInstanceAs (Decidable (second < first))

variable {order : SortOrder} {first second third : Int64}

/-- Of two ids one is in front of the other, unless they are the same. -/
theorem eq_of_not_precedes (behind : ¬ order.Precedes second first)
    (ahead : ¬ order.Precedes first second) : first = second := by
  rw [← Int64.toInt_inj]
  cases order <;> simp only [Precedes, Int64.lt_iff_toInt_lt] at behind ahead <;> omega

/-- What is not behind is in front if the ids differ. -/
theorem precedes_of_ne (behind : ¬ order.Precedes second first) (different : first ≠ second) :
    order.Precedes first second :=
  Decidable.byContradiction fun ahead => different (eq_of_not_precedes behind ahead)

/-- What is in front is not behind. -/
theorem Precedes.not_swap (ahead : order.Precedes first second) :
    ¬ order.Precedes second first := by
  cases order <;> simp only [Precedes, Int64.lt_iff_toInt_lt] at ahead ⊢ <;> omega

/-- What is in front of another is not the other. -/
theorem Precedes.ne (ahead : order.Precedes first second) : first ≠ second := by
  rintro rfl
  exact ahead.not_swap ahead

/-- What is not behind the next is not behind what follows that. -/
theorem not_precedes_trans (behind : ¬ order.Precedes second first)
    (behind' : ¬ order.Precedes third second) : ¬ order.Precedes third first := by
  cases order <;> simp only [Precedes, Int64.lt_iff_toInt_lt] at behind behind' ⊢ <;> omega

end SortOrder

/-! ### Things in order -/

namespace Belonging

/-- These are all of those things, each once, and their ids go in the order. -/
structure Arranged (kind : Belonging) (order : SortOrder) (found whole : List kind.Thing) :
    Prop where
  all : whole.Perm found
  inOrder : whole.Pairwise fun first second => order.Precedes (kind.id first) (kind.id second)

/-- Things are arranged when none is behind the next, if their ids are distinct. -/
theorem arranged_of_not_precedes {kind : Belonging} {order : SortOrder}
    {found whole : List kind.Thing} (distinct : (found.map kind.id).Nodup)
    (all : whole.Perm found)
    (sorted : whole.Pairwise fun first second =>
      ¬ order.Precedes (kind.id second) (kind.id first)) : kind.Arranged order found whole := by
  refine ⟨all, ?_⟩
  have apart : whole.Pairwise fun first second => kind.id first ≠ kind.id second :=
    List.pairwise_map.mp ((all.map kind.id).nodup_iff.mpr distinct)
  exact (sorted.and apart).imp fun both => SortOrder.precedes_of_ne both.1 both.2

/-- Arranged things have distinct ids. -/
theorem Arranged.distinct {kind : Belonging} {order : SortOrder} {found whole : List kind.Thing}
    (arranged : kind.Arranged order found whole) : (found.map kind.id).Nodup :=
  (arranged.all.map kind.id).nodup_iff.mp
    (List.pairwise_map.mpr (arranged.inOrder.imp fun ahead => ahead.ne))

/-- There is one arrangement of things. -/
theorem Arranged.unique {kind : Belonging} {order : SortOrder} {found whole other : List kind.Thing}
    (arranged : kind.Arranged order found whole) (arranged' : kind.Arranged order found other) :
    whole = other := by
  refine List.Perm.eq_of_pairwise ?_ arranged.inOrder arranged'.inOrder
    (arranged.all.trans arranged'.all.symm)
  intro first second _ _ ahead behind
  exact absurd behind ahead.not_swap

/-- Things with distinct ids can be arranged. -/
theorem exists_arranged {kind : Belonging} (order : SortOrder) {found : List kind.Thing}
    (distinct : (found.map kind.id).Nodup) : ∃ whole, kind.Arranged order found whole := by
  -- Sorting wants a total order, so it goes by what is not behind; ids make that strict.
  let before (first second : kind.Thing) : Bool :=
    !decide (order.Precedes (kind.id second) (kind.id first))
  have sorted : (found.mergeSort before).Pairwise fun first second =>
      before first second = true := by
    refine List.pairwise_mergeSort ?_ ?_ found
    · intro first second third ahead ahead'
      simp only [before, Bool.not_eq_true', decide_eq_false_iff_not] at ahead ahead' ⊢
      exact SortOrder.not_precedes_trans ahead ahead'
    · intro first second
      simp only [before, Bool.or_eq_true, Bool.not_eq_true', decide_eq_false_iff_not]
      exact Decidable.or_iff_not_imp_left.mpr fun behind =>
        (Decidable.not_not.mp behind).not_swap
  refine ⟨_, arranged_of_not_precedes distinct (List.mergeSort_perm found before) ?_⟩
  exact sorted.imp fun ahead => by simpa [before] using ahead

end Belonging

/-! ### What a query by id reads -/

namespace Sql.Query

variable {collation : OrderedCollation} {query : Query} {kind : Belonging} {order : SortOrder}
  {rows stored : List Row} {things found whole : List kind.Thing}

/-- Rows are sorted by id if none of their things is behind the next. -/
theorem sorted_iff (byId : query.order = some ("id", order)) (reads : kind.Reads rows things) :
    query.Sorted collation.toComparing rows ↔
      things.Pairwise fun first second => ¬ order.Precedes (kind.id second) (kind.id first) := by
  have ids (related : Option Value → Option Value → Prop) :
      (rows.Pairwise fun first second => related (first.get? "id") (second.get? "id")) ↔
        things.Pairwise fun first second =>
          related (some (.int (kind.id first))) (some (.int (kind.id second))) := by
    rw [← List.pairwise_map, reads.ids, List.pairwise_map]
  cases order with
  | asc =>
      have lower := ids fun first second =>
        ∀ value ∈ first, ∀ other ∈ second, collation.compare .lt other value ≠ .true
      simp only [SortOrder.Precedes, ← collation.int_lt_int]
      refine Iff.trans ⟨fun sorted => sorted "id" .asc byId, ?_⟩ (lower.trans (by simp))
      rintro sorted column direction ordered
      cases byId.symm.trans ordered
      exact sorted
  | desc =>
      have higher := ids fun first second =>
        ∀ value ∈ first, ∀ other ∈ second, collation.compare .gt other value ≠ .true
      simp only [SortOrder.Precedes, ← collation.int_gt_int]
      refine Iff.trans ⟨fun sorted => sorted "id" .desc byId, ?_⟩ (higher.trans (by simp))
      rintro sorted column direction ordered
      cases byId.symm.trans ordered
      exact sorted

/-- What a query by id reads are the things of a page of those it selects, arranged. -/
theorem Yields.page_of_arranged {limit : Nat}
    (yields : query.Yields collation.toComparing stored rows)
    (byId : query.order = some ("id", order)) (limited : query.limit = some limit)
    (readsFound : kind.Reads (stored.filter (query.selects collation.toComparing)) found)
    (arranged : kind.Arranged order found whole) :
    kind.Reads rows ((whole.drop (query.offset.getD 0)).take limit) := by
  obtain ⟨selected, same, sorted, rfl⟩ := yields
  -- However the rows came, their things are those that were found, in some order.
  obtain ⟨things, reads, all⟩ := List.perm_comp_forall₂ same readsFound
  have only : whole = things := arranged.unique
    (Belonging.arranged_of_not_precedes arranged.distinct all ((sorted_iff byId reads).mp sorted))
  rw [only, page, limited]
  exact List.forall₂_take _ (List.forall₂_drop _ reads)

/-- A query by id can read the things that it selects as they are arranged. -/
theorem yields_of_arranged (byId : query.order = some ("id", order))
    (readsFound : kind.Reads (stored.filter (query.selects collation.toComparing)) found)
    (arranged : kind.Arranged order found whole) :
    ∃ rows, query.Yields collation.toComparing stored rows := by
  obtain ⟨selected, reads, same⟩ := List.perm_comp_forall₂ arranged.all readsFound.flip
  have sorted : query.Sorted collation.toComparing selected :=
    (sorted_iff byId reads.flip).mpr (arranged.inOrder.imp fun ahead => ahead.not_swap)
  exact ⟨query.page selected, selected, same, sorted, rfl⟩

end Sql.Query

end Notebook
