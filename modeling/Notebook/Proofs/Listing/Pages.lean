import Notebook.Proofs.Listing.Sent
import Notebook.Proofs.Store.Answer
import Notebook.Proofs.Store.Order

/-!
# Pages

A list that is asked for page by page: what a job fetches from a database (`Job.Fetches`), how
a list is cut into pages of one size (`Paging.Cut`), and when jobs show a list page by page
(`Paginates`). Offsets are bounded numbers, so a list must not be too long for that; things with
distinct ids never are too many (`length_le_of_nodup`).
-/

namespace Notebook

open Notebook.Sql

/-! ### One page -/

/-- The job asks the store for one statement, which the database can answer. An answer changes
nothing, and it makes the job end: with this value, or with the error that the store gave. -/
def Job.Fetches {α : Type} (collation : Collation) (database : Database) (job : Job α)
    (value : α) : Prop :=
  ∃ statement next, job.run = .ask (.store (.execute statement)) next ∧
    (∃ outcome, (Request.execute statement).Answered collation database (.ok outcome) database) ∧
    ∀ answer after, (Request.execute statement).Answered collation database answer after →
      after = database ∧ next answer = .done (answer.map fun _ => value)

/-- A query by id fetches the things of its page, as they are arranged. -/
theorem Job.fetches_of_arranged {collation : OrderedCollation} {database : Database}
    {query : Select} {kind : Belonging} {order : SortOrder} {limit : Nat}
    {found whole : List kind.Thing} (checked : (Draft.select query).check = .ok ())
    (star : query.outputs = ["*"]) (byId : query.order = some ("id", order))
    (limited : Query.limitOf query = some limit)
    (readsFound : kind.Reads ((database.rows query.table).filter
      ((Query.reading [.star] query).selects collation.toComparing)) found)
    (arranged : kind.Arranged order found whole) :
    (do
      let statement ← Job.ofExcept query.statement
      let outcome ← Job.execute statement
      Job.ofExcept (outcome.readAll kind.read) : Job (List kind.Thing)).Fetches
        collation.toCollation database
        ((whole.drop ((Query.offsetOf query).getD 0)).take limit) := by
  obtain ⟨statement, built⟩ := Select.exists_statement checked (Select.lacks_of_star star)
  obtain ⟨rows, yields⟩ : ∃ rows, (Query.reading [.star] query).Yields collation.toComparing
      (database.rows query.table) rows := Query.yields_of_arranged byId readsFound arranged
  refine ⟨statement, _, Job.read_run built _, ⟨_, .of_query query built star yields⟩, ?_⟩
  intro answer after answered
  obtain ⟨kept, only⟩ := answered.yields built star
  refine ⟨kept, ?_⟩
  cases answer with
  | error error => rfl
  | ok outcome =>
      obtain ⟨rows, rfl, yields⟩ := only outcome rfl
      have reads := yields.page_of_arranged byId limited readsFound arranged
      exact congrArg Program.done (Belonging.mapM_read_eq_ok_iff.mpr reads)

/-! ### All pages -/

namespace Paging

variable {α : Type} {size index : Nat} {whole : List α}

/-- The page of a list with a number; that of the first page is zero. -/
def page (size : Nat) (whole : List α) (index : Nat) : List α :=
  (whole.drop (index * size)).take size

/-- How many pages a list has. -/
def count (size : Nat) (whole : List α) : Nat :=
  (whole.length + size - 1) / size

/-- All pages of a list. -/
def pages (size : Nat) (whole : List α) : List (List α) :=
  (List.range (count size whole)).map (page size whole)

/-- There is a page if the list goes on where the page begins. -/
theorem lt_count_iff (positive : 0 < size) :
    index < count size whole ↔ index * size < whole.length := by
  unfold count
  rw [← Nat.succ_le_iff, Nat.le_div_iff_mul_le positive, Nat.succ_mul]
  omega

/-- The first pages together are the front of the list. -/
theorem flatten_pages_front (size : Nat) (whole : List α) (number : Nat) :
    ((List.range number).map (page size whole)).flatten = whole.take (number * size) := by
  induction number with
  | zero => simp
  | succ number inductionHypothesis =>
      rw [List.range_succ, List.map_append, List.flatten_append, inductionHypothesis,
        Nat.succ_mul, List.take_add]
      simp [page]

/-- How long a page is. -/
theorem length_page (size : Nat) (whole : List α) (index : Nat) :
    (page size whole index).length = min size (whole.length - index * size) := by
  simp [page]

/-- The pages are the whole list, cut into pieces of one size; the last may be shorter. -/
structure Cut (size : Nat) (whole : List α) (pages : List (List α)) : Prop where
  joined : pages.flatten = whole
  inhabited : ∀ page ∈ pages, page ≠ []
  bounded : ∀ page ∈ pages, page.length ≤ size
  full : ∀ index, (next : index + 1 < pages.length) → pages[index].length = size

/-- All pages of a list are cut from it. -/
theorem cut_pages (positive : 0 < size) (whole : List α) : Cut size whole (pages size whole) where
  joined := by
    have enough : whole.length ≤ count size whole * size :=
      Nat.le_of_not_lt fun more => absurd ((lt_count_iff positive).mpr more) (Nat.lt_irrefl _)
    rw [pages, flatten_pages_front, List.take_of_length_le enough]
  inhabited := by
    simp only [pages, List.forall_mem_map, List.mem_range, lt_count_iff positive]
    intro index there empty
    have short := length_page size whole index
    rw [empty, List.length_nil] at short
    omega
  bounded := by
    simp only [pages, List.forall_mem_map, length_page]
    intro index _
    exact Nat.min_le_left _ _
  full := by
    intro index next
    have more : (index + 1) * size < whole.length := by
      rw [← lt_count_iff positive]
      simpa [pages] using next
    rw [Nat.succ_mul] at more
    simp only [pages, List.getElem_map, List.getElem_range, length_page]
    omega

/-- A page behind the last one is empty. -/
theorem getD_pages (positive : 0 < size) (whole : List α) (index : Nat) :
    (pages size whole).getD index [] = page size whole index := by
  by_cases there : index < count size whole
  · simp [pages, there]
  · have past : whole.length ≤ index * size :=
      Nat.le_of_not_lt fun more => there ((lt_count_iff positive).mpr more)
    simp [pages, there, page, past]

end Paging

open Paging

/-- The jobs show a list page by page. Whatever number of things is skipped, they fetch what
follows them, up to the size of a page; a missing offset skips nothing. At the multiples of that
size they fetch the pages into which the list is cut, and nothing behind the last of these. -/
structure Paginates {α : Type} (collation : Collation) (database : Database) (size : Nat)
    (ask : Option UInt64 → Job (List α)) (whole : List α) : Prop where
  start : ask none = ask (some 0)
  skip : ∀ offset : UInt64,
    (ask (some offset)).Fetches collation database ((whole.drop offset.toNat).take size)
  pages : ∃ pages, Cut size whole pages ∧
    (∀ index < pages.length, index * size < UInt64.size) ∧
    ∀ index, index * size < UInt64.size →
      (ask (some (.ofNat (index * size)))).Fetches collation database (pages.getD index [])

/-- A list is shown page by page if every offset skips as much as it says, and the list is not
too long for its last page to have an offset. -/
theorem paginates_of_skip {α : Type} {collation : Collation} {database : Database} {size : Nat}
    {ask : Option UInt64 → Job (List α)} {whole : List α} (positive : 0 < size)
    (reachable : whole.length ≤ UInt64.size) (start : ask none = ask (some 0))
    (skip : ∀ offset : UInt64,
      (ask (some offset)).Fetches collation database ((whole.drop offset.toNat).take size)) :
    Paginates collation database size ask whole where
  start := start
  skip := skip
  pages := by
    refine ⟨Paging.pages size whole, cut_pages positive whole, ?_, ?_⟩
    · intro index there
      -- A page that is there begins within the list, so its offset does not wrap around.
      have begins : index * size < whole.length := by
        rw [← lt_count_iff positive]
        simpa [Paging.pages] using there
      exact Nat.lt_of_lt_of_le begins reachable
    · intro index small
      have fetches := skip (.ofNat (index * size))
      rw [UInt64.toNat_ofNat_of_lt' small] at fetches
      rw [getD_pages positive]
      exact fetches

/-- There are no more distinct ids than offsets. -/
theorem length_le_of_nodup {ids : List Int64} (distinct : ids.Nodup) :
    ids.length ≤ UInt64.size := by
  let number (id : Int64) : Nat := id.toBitVec.toNat
  have injective : Function.Injective number := by
    intro first second same
    exact Int64.toBitVec_inj.mp (BitVec.toNat_inj.mp same)
  have within : ids.map number ⊆ List.range UInt64.size := by
    intro value member
    obtain ⟨id, _, rfl⟩ := List.mem_map.mp member
    exact List.mem_range.mpr id.toBitVec.isLt
  have fits := (List.subperm_of_subset (distinct.map injective) within).length_le
  rwa [List.length_map, List.length_range] at fits

end Notebook
