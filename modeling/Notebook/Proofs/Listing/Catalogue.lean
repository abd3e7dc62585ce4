import Notebook.Proofs.Listing.Pages
import Notebook.Proofs.Sql.Acceptance

/-!
# Catalogues

The three listings, each as a catalogue: an owner's notes, an owner's sets, and the notes under
a set number. All of them go page by page through the rows that they list, in the order of the
ids (`Catalogue.pages_lose_and_repeat_nothing`). What one catalogue does in its own way is what
it lists (`Catalogue.Lists`) and which columns its filters name (`Catalogue.columns`); the rest
is said of all three at once.
-/

namespace Notebook

open Notebook.Sql

/-- What can be listed page by page. -/
inductive Catalogue where
  | notes (owner : Int64) (filters : List Predicate) (order : SortOrder)
  | sets (owner : Int64)
  | filed (set : Int64)

namespace Catalogue

/-- What kind of things is listed. -/
def kind : Catalogue → Belonging
  | notes _ _ _ => .note
  | sets _ => .set
  | filed _ => .note

/-- Whether ids go up or down. -/
def order : Catalogue → SortOrder
  | notes _ _ order => order
  | sets _ => .asc
  | filed _ => .asc

/-- The columns that filters name. -/
def columns : Catalogue → List String
  | notes _ filters _ => filters.flatMap Predicate.columns
  | sets _ => []
  | filed _ => []

/-- The row is one of those that are to be listed. -/
def Lists (comparing : Comparing) : Catalogue → Row → Prop
  | notes owner filters _, row => row.get? "owner" = some (.int owner) ∧
      ∀ filter ∈ filters, filter.truth (comparing.truthAt row) = .true
  | sets owner, row => row.get? "owner" = some (.int owner)
  | filed set, row => row.get? "set" = some (.int set)

instance (comparing : Comparing) (catalogue : Catalogue) (row : Row) :
    Decidable (catalogue.Lists comparing row) :=
  match catalogue with
  | notes owner filters _ => inferInstanceAs (Decidable (row.get? "owner" = some (.int owner) ∧
      ∀ filter ∈ filters, filter.truth (comparing.truthAt row) = .true))
  | sets owner => inferInstanceAs (Decidable (row.get? "owner" = some (.int owner)))
  | filed set => inferInstanceAs (Decidable (row.get? "set" = some (.int set)))

/-- One page, behind what an offset skips. -/
def page (limits : Limits) :
    (catalogue : Catalogue) → Option UInt64 → Job (List catalogue.kind.Thing)
  | notes owner filters order, offset => Notes.list limits owner { filters, offset, order }
  | sets owner, offset => Sets.list limits owner offset
  | filed set, offset => Sets.notes limits set offset

/-- The query for one page. -/
def query (limits : Limits) : Catalogue → Option UInt64 → Select
  | notes owner filters order, offset =>
      Notes.pageQuery limits (Notes.listingCondition owner { filters }) order offset
  | sets owner, offset => Sets.listQuery limits owner offset
  | filed set, offset => Notes.pageQuery limits (.eq "set" (.int set)) .asc offset

variable {comparing : Comparing} {limits : Limits} {catalogue : Catalogue}

/-- A page is read from what its query gives. -/
theorem page_eq (limits : Limits) (catalogue : Catalogue) (offset : Option UInt64) :
    catalogue.page limits offset = (do
      let statement ← Job.ofExcept (catalogue.query limits offset).statement
      let outcome ← Job.execute statement
      Job.ofExcept (outcome.readAll catalogue.kind.read)) := by
  cases catalogue <;> rfl

/-- Every query is for whole rows of the table of the kind, by id. -/
theorem query_shape (limits : Limits) (catalogue : Catalogue) (offset : Option UInt64) :
    (catalogue.query limits offset).table = catalogue.kind.table ∧
      (catalogue.query limits offset).outputs = ["*"] ∧
      (catalogue.query limits offset).order = some ("id", catalogue.order) ∧
      (catalogue.query limits offset).limit = limits.pageSize ∧
      (catalogue.query limits offset).offset = offset.getD 0 := by
  cases catalogue <;> exact ⟨rfl, rfl, rfl, rfl, rfl⟩

/-- If pages have a size, a query asks for one page behind the offset. -/
theorem query_window (paged : 0 < limits.pageSize) (catalogue : Catalogue) (offset : UInt64) :
    Query.limitOf (catalogue.query limits (some offset)) = some limits.pageSize.toNat ∧
      (Query.offsetOf (catalogue.query limits (some offset))).getD 0 = offset.toNat := by
  obtain ⟨_, _, _, limited, skips⟩ := catalogue.query_shape limits (some offset)
  have sized : limits.pageSize ≠ 0 := by
    rintro empty
    rw [empty] at paged
    exact absurd paged (by decide)
  unfold Query.limitOf Query.offsetOf
  rw [limited, skips, if_neg sized]
  refine ⟨rfl, ?_⟩
  by_cases first : offset = 0
  · simp [first]
  · simp [sized, first]

/-! ### What is refused -/

/-- The columns of a query are refused exactly if those of the filters are. -/
theorem check_query (limits : Limits) (catalogue : Catalogue) (offset : Option UInt64) :
    (Draft.select (catalogue.query limits offset)).check =
      catalogue.kind.table.checkColumns catalogue.columns := by
  cases catalogue with
  | notes owner filters order =>
      have named : (Draft.select (query limits (notes owner filters order) offset)).columns =
          ["owner"] ++ (filters.flatMap Predicate.columns ++ ["id"]) := by
        simp [Draft.columns, query, Notes.pageQuery, Notes.listingCondition, Predicate.columns,
          Predicate.comparisons_andAll, Predicate.eq, Predicate.compare, Predicate.comparisons,
          List.map_flatMap]
        rfl
      -- The columns around those of the filters are the program's own, and declared.
      have passing (checked : Except Error Unit) : (checked >>= fun _ => .ok ()) = checked := by
        cases checked <;> rfl
      rw [Draft.check_eq, named, Table.checkColumns_append, Table.checkColumns_append]
      exact passing _
  | sets owner => rfl
  | filed set => rfl

/-- If a filter names a column that is not declared, the first such column is refused, and
nothing is asked of the store. -/
theorem page_of_undeclared {column : String}
    (first : catalogue.kind.table.FirstUndeclared catalogue.columns column)
    (limits : Limits) (offset : Option UInt64) :
    (catalogue.page limits offset).run =
      .done (.error (.invalidInput (.unknownColumn column catalogue.kind.table))) := by
  have refused : (Draft.select (catalogue.query limits offset)).statement =
      .error (.invalidInput (.unknownColumn column catalogue.kind.table)) := by
    rw [Draft.statement_eq, check_query,
      Table.checkColumns_eq_error_iff.mpr ⟨column, first, rfl⟩]
    rfl
  have same : (catalogue.query limits offset).statement = _ := refused
  rw [page_eq, same]
  rfl

/-! ### What is listed -/

/-- The query selects the rows that are to be listed. -/
theorem selects_iff {row : Row} {thing : catalogue.kind.Thing}
    (readable : catalogue.kind.read row = .ok thing) (limits : Limits)
    (offset : Option UInt64) :
    (Query.reading [.star] (catalogue.query limits offset)).selects comparing row = true ↔
      catalogue.Lists comparing row := by
  cases catalogue with
  | notes owner filters order =>
      refine (Query.selects_reading_iff rfl).trans ?_
      have owned := (Belonging.get?_of_read readable).2
      rw [Notes.listingCondition, Predicate.eq, Predicate.compare,
        Predicate.truth_andAll_eq_true_iff, Comparing.truthAt_eq_iff owned]
      rfl
  | sets owner =>
      refine (Query.selects_reading_iff rfl).trans ?_
      exact Comparing.truthAt_eq_iff (Belonging.get?_of_read readable).2
  | filed set =>
      refine (Query.selects_reading_iff rfl).trans ?_
      obtain ⟨number, hasSet, _⟩ := Note.get?_set_of_ofRow readable
      exact Comparing.truthAt_eq_iff hasSet

/-- The notes that are listed under the id of a set are those in it. -/
theorem lists_filed_iff {row : Row} {note : Note} {set : Int64}
    (readable : Note.ofRow row = .ok note) (natural : 0 ≤ set) :
    (filed set).Lists comparing row ↔ note.set = some set :=
  (Note.set_eq_some_iff readable natural).symm

/-- Going through a catalogue page by page loses nothing and repeats nothing. If its table holds
things with distinct ids, there is one list of all that are to be listed, in the order of their
ids, and the pages are cut from it. A filter that names a column which is not declared makes
every page fail instead. -/
theorem pages_lose_and_repeat_nothing (collation : OrderedCollation) (limits : Limits)
    (paged : 0 < limits.pageSize) (catalogue : Catalogue) {database : Database}
    (readable : database.Readable catalogue.kind)
    (distinct : ((database.rows catalogue.kind.table).map fun row => row.get? "id").Nodup) :
    ((∀ column ∈ catalogue.columns, catalogue.kind.table.declares column = true) →
      ∃ found whole,
        catalogue.kind.Reads ((database.rows catalogue.kind.table).filter fun row =>
          catalogue.Lists collation.toComparing row) found ∧
        catalogue.kind.Arranged catalogue.order found whole ∧
        Paginates collation.toCollation database limits.pageSize.toNat (catalogue.page limits)
          whole) ∧
    ∀ column, catalogue.kind.table.FirstUndeclared catalogue.columns column → ∀ offset,
      (catalogue.page limits offset).run =
        .done (.error (.invalidInput (.unknownColumn column catalogue.kind.table))) := by
  refine ⟨fun declared => ?_, fun column first offset => page_of_undeclared first limits offset⟩
  obtain ⟨found, reads⟩ : ∃ found, catalogue.kind.Reads
      ((database.rows catalogue.kind.table).filter fun row =>
        catalogue.Lists collation.toComparing row) found :=
    Belonging.exists_reads fun row listed => readable row (List.mem_of_mem_filter listed)
  have apart : (found.map catalogue.kind.id).Nodup :=
    reads.nodup_ids (distinct.sublist (List.filter_sublist.map _))
  obtain ⟨whole, arranged⟩ := Belonging.exists_arranged catalogue.order apart
  refine ⟨found, whole, reads, arranged, ?_⟩
  have few : whole.length ≤ UInt64.size := by
    rw [arranged.all.length_eq, ← List.length_map catalogue.kind.id]
    exact length_le_of_nodup apart
  have start : catalogue.page limits none = catalogue.page limits (some 0) := by
    cases catalogue <;> rfl
  refine paginates_of_skip (UInt64.lt_iff_toNat_lt.mp paged) few start ?_
  intro offset
  obtain ⟨named, star, byId, _, _⟩ := catalogue.query_shape limits (some offset)
  obtain ⟨limited, skips⟩ := catalogue.query_window paged offset
  have selected : (database.rows (catalogue.query limits (some offset)).table).filter
      ((Query.reading [.star] (catalogue.query limits (some offset))).selects
        collation.toComparing) =
      (database.rows catalogue.kind.table).filter fun row =>
        catalogue.Lists collation.toComparing row := by
    rw [named]
    refine List.filter_congr fun row stored => ?_
    obtain ⟨thing, readable⟩ := readable row stored
    rw [Bool.eq_iff_iff, decide_eq_true_iff]
    exact selects_iff readable limits (some offset)
  have checked : (Draft.select (catalogue.query limits (some offset))).check = .ok () := by
    rw [check_query]
    exact Table.checkColumns_eq_ok_iff.mpr declared
  rw [page_eq, ← skips]
  exact Job.fetches_of_arranged checked star byId limited (selected ▸ reads) arranged

/-! ### A catalogue of two pages -/

/-- Notes of two users, in some order. -/
def leaflets : Database where
  rows
    | .notes => [Note.blankRow 4 7 Note.noSet, Note.blankRow 1 8 Note.noSet,
        Note.blankRow 9 7 Note.noSet, Note.blankRow 2 7 Note.noSet]
    | _ => []

/-- The newer notes of a user, the newest first. -/
def newer : Catalogue :=
  notes 7 [.compare "id" .gt (.int 2)] .desc

/-- Two notes of the user are newer, and they are shown one to a page. -/
theorem pages_of_leaflets :
    Paginates OrderedCollation.exact.toCollation leaflets 1 (newer.page { pageSize := 1 })
      [Note.blank 9 7 none, Note.blank 4 7 none] := by
  have readable : leaflets.Readable .note := by
    intro row member
    simp only [leaflets, Belonging.table, List.mem_cons, List.not_mem_nil, or_false] at member
    rcases member with rfl | rfl | rfl | rfl <;> exact ⟨_, Note.ofRow_blankRow _ _ _⟩
  obtain ⟨listed, _⟩ := pages_lose_and_repeat_nothing .exact { pageSize := 1 } (by decide) newer
    readable (by decide)
  obtain ⟨found, whole, reads, arranged, paginates⟩ := listed (by decide)
  have rows : ((leaflets.rows .notes).filter fun row =>
      newer.Lists OrderedCollation.exact.toComparing row) =
        [Note.blankRow 4 7 Note.noSet, Note.blankRow 9 7 Note.noSet] := by decide
  have listedRows : Belonging.note.Reads
      [Note.blankRow 4 7 Note.noSet, Note.blankRow 9 7 Note.noSet] found := rows ▸ reads
  have same : [Note.blank 4 7 none, Note.blank 9 7 none] = found :=
    Except.ok.inj (Belonging.mapM_read_eq_ok_iff.mpr listedRows)
  subst same
  have only : whole = [Note.blank 9 7 none, Note.blank 4 7 none] := by
    refine arranged.unique ⟨.swap _ _ _, ?_⟩
    change [Note.blank 9 7 none, Note.blank 4 7 none].Pairwise fun first second =>
      second.id < first.id
    decide
  exact only ▸ paginates

end Catalogue

end Notebook
