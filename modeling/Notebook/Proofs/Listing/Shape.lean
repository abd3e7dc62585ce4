import Notebook.Listing.Query
import Notebook.Proofs.Listing.Sent
import Notebook.Proofs.Sql.Erasure

/-!
# The shape of a listing

The texts of a listing say which fields are compared, by what operators and with what
values. The first two are its shape. Reading the texts gives filters whose erasure
depends on the shape alone, so the SQL of a listing does, too.
-/

namespace Notebook

open Notebook.Sql

/-- The operator of each field of a listing that counts. -/
structure ListingShape where
  id : Option Operator
  set : Option Operator
  timestamp : Option Operator
  marked : Option Operator
  search : Option Operator
deriving DecidableEq

namespace ListingShape

/-- The comparison of a column with any value, if there is an operator. -/
def filter (column : String) (operator : Option Operator) : Option Predicate :=
  operator.map fun operator => .compare column operator .null

/-- The filters of a shape, without values. -/
def filters (shape : ListingShape) : List Predicate :=
  (filter "id" shape.id).toList ++ (filter "set" shape.set).toList ++
    (filter "timestamp" shape.timestamp).toList ++ (filter "marked" shape.marked).toList ++
    (filter "body" shape.search).toList

/-- The filters of a shape are about columns of notes. -/
theorem listable (shape : ListingShape) : Notes.Listable shape.filters := by
  intro predicate member column named
  have declared {column : String} {operator : Option Operator}
      (known : Table.notes.declares column = true) (inside : predicate ∈ filter column operator) :
      ∀ column ∈ predicate.columns, Table.notes.declares column = true := by
    obtain ⟨operator, _, rfl⟩ := Option.map_eq_some_iff.mp inside
    simpa [Predicate.compare, Predicate.columns, Predicate.comparisons] using known
  simp only [filters, List.mem_append, Option.mem_toList] at member
  rcases member with (((inside | inside) | inside) | inside) | inside
  all_goals exact declared (by decide) inside column named

end ListingShape

/-- The shape of a listing, read off its texts. -/
def NotesQuery.shape (query : NotesQuery) : ListingShape where
  id := (Listing.given query.id).map fun text => (Operator.split text).1
  set := (Listing.given query.set).map fun text => (Operator.split text).1
  timestamp := (Listing.given query.timestamp).map fun text => (Operator.split text).1
  marked := (Listing.given query.marked).map fun _ => .eq
  search := (Listing.given query.search).map fun _ => .like

/-- A comparison has the operator in front of the value, whatever the value is. -/
theorem Listing.erase_comparison {field text : String}
    {read : String → String → Except Error Value} {predicate : Predicate}
    (made : Listing.comparison field read text = .ok predicate) :
    predicate.erase = .compare field (Operator.split text).1 .null := by
  have steps : (read field (Operator.split text).2 >>= fun value =>
      pure (Predicate.compare field (Operator.split text).1 value)) = .ok predicate := made
  obtain ⟨value, _, same⟩ := Except.bind_eq_ok_iff.mp steps
  cases same
  rfl

/-- A truth value is compared by equality, whatever it is. -/
theorem Listing.erase_boolean {field text : String} {predicate : Predicate}
    (made : (Listing.boolean field text >>= fun value => pure (Predicate.eq field value)) =
      .ok predicate) :
    predicate.erase = .compare field .eq .null := by
  obtain ⟨value, _, same⟩ := Except.bind_eq_ok_iff.mp made
  cases same
  rfl

/-- If the erasure of what is read of a text depends on an operator only, so does that of
what is read of a field. -/
theorem Listing.erase_mapM {column : String} {operator : String → Operator}
    {read : String → Except Error Predicate}
    (kept : ∀ {text predicate}, read text = .ok predicate →
      predicate.erase = .compare column (operator text) .null)
    {field : Option String} {found : Option Predicate} (made : field.mapM read = .ok found) :
    found.map Predicate.erase = ListingShape.filter column (field.map operator) := by
  cases Except.mapM_eq_ok_iff.mp made with
  | none => rfl
  | some readable =>
      rw [Option.map_some, kept readable]
      rfl

/-- What is read of the texts of a listing has the filters of its shape. -/
theorem NotesQuery.erase_filters {query : NotesQuery} {listing : NoteListing}
    (readable : query.listing = .ok listing) :
    listing.filters.map Predicate.erase = query.shape.filters := by
  obtain ⟨id, madeId, readable⟩ := Except.bind_eq_ok_iff.mp readable
  obtain ⟨set, madeSet, readable⟩ := Except.bind_eq_ok_iff.mp readable
  obtain ⟨timestamp, madeTimestamp, readable⟩ := Except.bind_eq_ok_iff.mp readable
  obtain ⟨marked, madeMarked, readable⟩ := Except.bind_eq_ok_iff.mp readable
  obtain ⟨order, _, readable⟩ := Except.bind_eq_ok_iff.mp readable
  obtain ⟨offset, _, readable⟩ := Except.bind_eq_ok_iff.mp readable
  cases readable
  have erasedId := Listing.erase_mapM Listing.erase_comparison madeId
  have erasedSet := Listing.erase_mapM Listing.erase_comparison madeSet
  have erasedTimestamp := Listing.erase_mapM Listing.erase_comparison madeTimestamp
  have erasedMarked : marked.map Predicate.erase =
      ListingShape.filter "marked" ((Listing.given query.marked).map fun _ => .eq) :=
    Listing.erase_mapM Listing.erase_boolean madeMarked
  have erasedSearch : ((Listing.given query.search).map fun text => Predicate.compare "body" .like
      (.text (LikePattern.containing text))).map Predicate.erase =
        ListingShape.filter "body" ((Listing.given query.search).map fun _ => .like) := by
    cases Listing.given query.search <;> rfl
  have listed (found : Option Predicate) :
      found.toList.map Predicate.erase = (found.map Predicate.erase).toList := by
    cases found <;> rfl
  simp only [List.map_append, listed, erasedId, erasedSet, erasedTimestamp, erasedMarked,
    erasedSearch]
  rfl

/-- Whatever the texts of a listing are, its filters are about columns of notes. -/
theorem NotesQuery.listable {query : NotesQuery} {listing : NoteListing}
    (readable : query.listing = .ok listing) : Notes.Listable listing.filters := by
  intro filter member column named
  have erased : filter.erase ∈ query.shape.filters :=
    erase_filters readable ▸ List.mem_map_of_mem member
  rw [← filter.columns_erase] at named
  exact query.shape.listable filter.erase erased column named

/-- The conditions of two listings of one shape have one shape, whoever the owners are. -/
theorem NotesQuery.erase_condition {first second : NotesQuery} {listing other : NoteListing}
    (readable : first.listing = .ok listing) (readable' : second.listing = .ok other)
    (shape : first.shape = second.shape) (owner owner' : Int64) :
    (Notes.listingCondition owner listing).erase =
      (Notes.listingCondition owner' other).erase := by
  rw [Notes.listingCondition, Notes.listingCondition, Predicate.erase_andAll,
    Predicate.erase_andAll, erase_filters readable, erase_filters readable', shape]
  rfl

/-- The statements of two pages differ in their values only if their conditions do. -/
theorem Notes.erase_pageStatement {condition other : Predicate}
    (declared : ∀ column ∈ condition.columns, Table.notes.declares column = true)
    (declared' : ∀ column ∈ other.columns, Table.notes.declares column = true)
    (same : condition.erase = other.erase) (limits : Limits) (order : SortOrder)
    (offset : Option UInt64) :
    (pageStatement limits condition order offset).erase =
      (pageStatement limits other order offset).erase := by
  have built := pageQuery_statement declared limits order offset
  have built' := pageQuery_statement declared' limits order offset
  have drafts : (Draft.select (pageQuery limits condition order offset)).erase =
      (Draft.select (pageQuery limits other order offset)).erase := by
    rw [Draft.erase, Draft.erase, pageQuery, pageQuery, Option.map_some, Option.map_some, same]
  rcases Draft.statement_of_erase_eq drafts with ⟨error, failed, _⟩ | ⟨statement, statement', made,
    made', erased, _⟩
  · cases built.symm.trans failed
  · rw [Except.ok.inj (built.symm.trans made), Except.ok.inj (built'.symm.trans made')]
    exact erased

/-- The values that drafts carry decide neither whether they are built nor into what text,
and each decides its own parameter only. So listings with the same fields, operators,
order and offset send the same text. -/
theorem values_never_shape_sql :
    (∀ first second : Draft, first.erase = second.erase →
      (∃ error, first.statement = .error error ∧ second.statement = .error error) ∨
      ∃ statement other, first.statement = .ok statement ∧ second.statement = .ok other ∧
        statement.text = other.text ∧ statement.kind = other.kind ∧
        statement.table = other.table ∧ statement.params.length = other.params.length ∧
        ∀ place : Nat, first.values[place]? = second.values[place]? →
          statement.params[place]? = other.params[place]?) ∧
    ∀ (limits : Limits) (owner : Int64) (first second : NotesQuery)
      (listing other : NoteListing),
      first.listing = .ok listing → second.listing = .ok other → first.shape = second.shape →
      listing.order = other.order → listing.offset = other.offset →
      ∃ statement statement' next next',
        (Notes.list limits owner listing).run = .ask (.store (.execute statement)) next ∧
        (Notes.list limits owner other).run = .ask (.store (.execute statement')) next' ∧
        statement.text = statement'.text := by
  constructor
  · intro first second same
    rcases Draft.statement_of_erase_eq same with failed | ⟨statement, other, built, built', erased,
      carried, carried'⟩
    · exact .inl failed
    · obtain ⟨text, kind, table, lengths⟩ := Statement.alike_of_erase_eq erased
      refine .inr ⟨statement, other, built, built', text, kind, table, lengths, ?_⟩
      intro place agree
      rw [carried, carried', agree]
  · intro limits owner first second listing other readable readable' shape order offset
    have condition := NotesQuery.erase_condition readable readable' shape owner owner
    have sent := Notes.list_run (NotesQuery.listable readable) limits owner
    have sent' := Notes.list_run (NotesQuery.listable readable') limits owner
    refine ⟨_, _, _, _, sent, sent', ?_⟩
    rw [order, offset]
    have erased := Notes.erase_pageStatement
      ((NotesQuery.listable readable).condition owner)
      ((NotesQuery.listable readable').condition owner) condition limits other.order other.offset
    exact (Statement.alike_of_erase_eq erased).1

/-- Removing one note or another, and searching for one text or another. -/
theorem values_never_shape_sql_search :
    (∃ statement other,
      (Draft.delete .notes (.eq "id" (.int 1))).statement = .ok statement ∧
      (Draft.delete .notes (.eq "id" (.text "1 OR 1"))).statement = .ok other ∧
      statement.text = other.text) ∧
    ∃ statement statement' next next',
      (Notes.list {} 3 { filters := [.compare "id" .gtEq (.int 5),
        .compare "body" .like (.text "%milk%")] }).run = .ask (.store (.execute statement)) next ∧
      (Notes.list {} 3 { filters := [.compare "id" .gtEq (.int (-7)),
        .compare "body" .like (.text "%$1%")] }).run = .ask (.store (.execute statement')) next' ∧
      statement.text = statement'.text := by
  constructor
  · rcases values_never_shape_sql.1 (.delete .notes (.eq "id" (.int 1)))
      (.delete .notes (.eq "id" (.text "1 OR 1"))) rfl with ⟨error, failed, _⟩ | built
    · cases failed
    · obtain ⟨statement, other, built, built', text, _⟩ := built
      exact ⟨statement, other, built, built', text⟩
  · exact values_never_shape_sql.2 {} 3 { id := some ">=5", search := some "milk" }
      { id := some ">= -7", search := some "$1" } _ _ (by rfl) (by rfl) (by rfl) rfl rfl

end Notebook
