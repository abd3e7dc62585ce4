import Notebook.Proofs.Listing.Field
import Notebook.Proofs.Listing.Shape

/-!
# The language of a listing

The texts of a listing are read if each field that counts has a text it can have. Then there
is one filter for each filtering field that counts, in order, and its query can be sent for
any owner. Otherwise the first field that has another text decides the error
(`listing_reads_its_language`).
-/

namespace Notebook.NotesQuery

open Notebook.Listing (Field)

/-- The text of a field. -/
def text (query : NotesQuery) : Field → Option String
  | .id => query.id
  | .set => query.set
  | .timestamp => query.timestamp
  | .marked => query.marked
  | .search => query.search
  | .order => query.order
  | .offset => query.offset

/-- The field has the text, and the text is not empty. -/
def Gives (query : NotesQuery) (field : Field) (text : String) : Prop :=
  query.text field = some text ∧ text ≠ ""

/-- The filtering fields that count, with their texts, in order. -/
def asked (query : NotesQuery) : List (Field × String) :=
  Field.filtering.flatMap fun field =>
    (Listing.given (query.text field)).toList.map fun text => (field, text)

/-- Checks a field if it counts. -/
def check (query : NotesQuery) (field : Field) : Except Error Unit :=
  (Listing.given (query.text field)).elim (.ok ()) field.check

variable {query : NotesQuery} {field : Field} {error : Error}

/-- A field passes if the text that it gives is one it can have. -/
theorem check_eq_ok_iff :
    query.check field = .ok () ↔ ∀ text, query.Gives field text → field.Accepts text := by
  simp only [Gives, ← Listing.given_eq_some_iff, check]
  cases given : Listing.given (query.text field) with
  | none => simp
  | some text =>
      have nonempty := (Listing.given_eq_some_iff.mp given).2
      simp [Field.check_eq_ok_iff nonempty]

/-- A field fails if it gives a text that it cannot have. -/
theorem check_eq_error_iff :
    query.check field = .error error ↔ ∃ text fault, query.Gives field text ∧
      ¬ field.Accepts text ∧ field.Complains text fault ∧ error = .invalidInput fault := by
  simp only [Gives, ← Listing.given_eq_some_iff, check]
  cases given : Listing.given (query.text field) with
  | none => simp
  | some text =>
      have nonempty := (Listing.given_eq_some_iff.mp given).2
      simp [Field.check_eq_error_iff nonempty]

/-- Reading a listing fails as the checks of its fields do, one after the other. -/
theorem discard_listing (query : NotesQuery) :
    discard query.listing = Field.inOrder.forM query.check := by
  have marked (text : String) :
      discard (Listing.boolean "marked" text >>= fun value => pure (Predicate.eq "marked" value)) =
        Field.marked.check text := by
    rw [Field.check]
    cases Listing.boolean "marked" text <;> rfl
  have search (rest : Except Error Unit) : (query.check .search >>= fun _ => rest) = rest := by
    rw [check]
    cases Listing.given (query.text .search) <;> rfl
  have steps : Field.inOrder.forM query.check = (query.check .id >>= fun _ =>
      query.check .set >>= fun _ => query.check .timestamp >>= fun _ =>
      query.check .marked >>= fun _ => query.check .search >>= fun _ =>
      query.check .order >>= fun _ => query.check .offset >>= fun _ => .ok ()) := rfl
  rw [steps, search]
  unfold listing
  refine Except.discard_bind (Except.discard_mapM fun _ => rfl) fun id => ?_
  refine Except.discard_bind (Except.discard_mapM fun _ => rfl) fun set => ?_
  refine Except.discard_bind (Except.discard_mapM fun _ => rfl) fun timestamp => ?_
  refine Except.discard_bind (Except.discard_mapM marked) fun marked => ?_
  rw [Listing.order_eq_elim, Listing.offset_eq_elim]
  refine Except.discard_bind Except.discard_elim fun order => ?_
  exact Except.discard_bind Except.discard_elim fun offset => rfl

/-! ### What is asked for -/

/-- The filter of a field that counts is one that its text asks for. -/
theorem forall₂_asks_of_mapM {read : String → Except Error Predicate}
    (asks : ∀ {text filter}, read text = .ok filter → field.Asks text filter)
    {found : Option String} {made : Option Predicate} (readable : found.mapM read = .ok made) :
    List.Forall₂ (Function.uncurry Field.Asks) (found.toList.map fun text => (field, text))
      made.toList := by
  cases Except.mapM_eq_ok_iff.mp readable with
  | none => exact .nil
  | some read => exact .cons (asks read) .nil

/-- What is read of a listing is what its texts ask for, field by field. -/
theorem asks_of_listing {listing : NoteListing} (readable : query.listing = .ok listing) :
    List.Forall₂ (Function.uncurry Field.Asks) query.asked listing.filters ∧
      Listing.OrderedBy (Listing.given query.order) listing.order ∧
      Listing.StartsAt (Listing.given query.offset) listing.offset := by
  obtain ⟨id, madeId, readable⟩ := Except.bind_eq_ok_iff.mp readable
  obtain ⟨set, madeSet, readable⟩ := Except.bind_eq_ok_iff.mp readable
  obtain ⟨timestamp, madeTimestamp, readable⟩ := Except.bind_eq_ok_iff.mp readable
  obtain ⟨marked, madeMarked, readable⟩ := Except.bind_eq_ok_iff.mp readable
  obtain ⟨order, madeOrder, readable⟩ := Except.bind_eq_ok_iff.mp readable
  obtain ⟨offset, madeOffset, readable⟩ := Except.bind_eq_ok_iff.mp readable
  cases readable
  refine ⟨?_, Listing.orderedBy_of_order madeOrder, Listing.startsAt_of_offset madeOffset⟩
  have asksId := forall₂_asks_of_mapM Field.id_eq_ok_iff.mp madeId
  have asksSet := forall₂_asks_of_mapM Field.set_eq_ok_iff.mp madeSet
  have asksTimestamp := forall₂_asks_of_mapM Field.timestamp_eq_ok_iff.mp madeTimestamp
  have asksMarked := forall₂_asks_of_mapM Field.marked_eq_ok_iff.mp madeMarked
  have asksSearch : List.Forall₂ (Function.uncurry Field.Asks)
      ((Listing.given query.search).toList.map fun text => (Field.search, text))
      ((Listing.given query.search).map fun text => Predicate.compare "body" .like
        (.text (LikePattern.containing text))).toList := by
    cases Listing.given query.search with
    | none => exact .nil
    | some text => exact .cons (.search text) .nil
  simp only [asked, Field.filtering, List.flatMap_cons, List.flatMap_nil, List.append_nil,
    List.append_assoc]
  exact List.rel_append asksId (List.rel_append asksSet (List.rel_append asksTimestamp
    (List.rel_append asksMarked asksSearch)))

/-! ### Main statement -/

/-- The texts of a listing are read exactly if each field that counts has a text that it can
have. Then the listing has the filters that the filtering fields ask for, one each and in their
order, and its query can be built and is what is sent, whoever the owner is. Otherwise the
error is the complaint about the first field that has another text. -/
theorem listing_reads_its_language (query : NotesQuery) :
    ((∃ listing, query.listing = .ok listing) ↔
      ∀ field text, query.Gives field text → field.Accepts text) ∧
    (∀ listing, query.listing = .ok listing →
      List.Forall₂ (Function.uncurry Field.Asks) query.asked listing.filters ∧
      Listing.OrderedBy (Listing.given query.order) listing.order ∧
      Listing.StartsAt (Listing.given query.offset) listing.offset ∧
      ∀ limits owner, ∃ statement next,
        (Notes.pageQuery limits (Notes.listingCondition owner listing) listing.order
          listing.offset).statement = .ok statement ∧
        (Notes.list limits owner listing).run = .ask (.store (.execute statement)) next) ∧
    ∀ error, query.listing = .error error ↔ ∃ before field after text fault,
      Field.inOrder = before ++ field :: after ∧
      (∀ earlier ∈ before, ∀ text, query.Gives earlier text → earlier.Accepts text) ∧
      query.Gives field text ∧ ¬ field.Accepts text ∧ field.Complains text fault ∧
      error = .invalidInput fault := by
  refine ⟨?_, ?_, ?_⟩
  · rw [← Except.discard_eq_ok_iff, discard_listing, Except.forM_eq_ok_iff]
    simp only [check_eq_ok_iff]
    exact ⟨fun passed field => passed field field.mem_inOrder, fun passed field _ => passed field⟩
  · intro listing readable
    obtain ⟨asks, order, offset⟩ := asks_of_listing readable
    refine ⟨asks, order, offset, ?_⟩
    intro limits owner
    exact ⟨_, _, Notes.pageQuery_statement ((listable readable).condition owner) limits
      listing.order listing.offset, Notes.list_run (listable readable) limits owner⟩
  · intro error
    rw [← Except.discard_eq_error_iff, discard_listing, Except.forM_eq_error_iff]
    simp only [check_eq_ok_iff, check_eq_error_iff]
    constructor
    · rintro ⟨before, field, after, split, passed, text, fault, gives, refused⟩
      exact ⟨before, field, after, text, fault, split, passed, gives, refused⟩
    · rintro ⟨before, field, after, text, fault, split, passed, gives, refused⟩
      exact ⟨before, field, after, split, passed, text, fault, gives, refused⟩

/-- The mark is complained about before the offset. -/
example : listing { id := some ">= +7 ", marked := some "yes", offset := some "-1" } =
    .error (.invalidInput (.notABoolean "marked" "yes")) := by rfl

end Notebook.NotesQuery
