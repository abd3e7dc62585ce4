import Notebook.Entity.Note
import Notebook.Entity.NoteSet
import Notebook.Repository.Allocation
import Notebook.Repository.Limits

/-!
# Notes

Listing, posting, reading, editing and deleting notes. A listing of an owner's
notes joins every further filter to the owner's scope as one operand.
-/

namespace Notebook

/-- What to list of an owner's notes. -/
structure NoteListing where
  /-- Conditions that every listed note has to meet. -/
  filters : List Predicate := []
  /-- How many notes to skip; counts only if pages are limited. -/
  offset : Option UInt64 := none
  /-- The direction by id. -/
  order : SortOrder := .asc

namespace Notes

/-- The query for one page of notes that meet a condition, ordered by id. -/
def pageQuery (limits : Limits) (condition : Predicate) (order : SortOrder)
    (offset : Option UInt64) : Select :=
  { table := .notes
    outputs := ["*"]
    condition := some condition
    order := some ("id", order)
    limit := limits.pageSize
    offset := offset.getD 0 }

/-- One page of notes that meet a condition. -/
def page (limits : Limits) (condition : Predicate) (order : SortOrder)
    (offset : Option UInt64) : Job (List Note) := do
  let query ← Job.ofExcept (pageQuery limits condition order offset).statement
  let outcome ← Job.execute query
  Job.ofExcept (outcome.readAll Note.ofRow)

/-- The condition of a listing: the owner's notes that meet every filter. -/
def listingCondition (owner : Int64) (listing : NoteListing) : Predicate :=
  (Predicate.eq "owner" (.int owner)).andAll listing.filters

/-- One page of an owner's notes. -/
def list (limits : Limits) (owner : Int64) (listing : NoteListing) : Job (List Note) :=
  page limits (listingCondition owner listing) listing.order listing.offset

/-- Posts an unmarked note with the current time in whole microseconds, which is
what the store keeps. -/
def post (limits : Limits) (owner : Int64) (body : String) (set : Option NoteSet) :
    Job Note := do
  let time ← Job.now
  let noteWithId (id : Int64) : Note :=
    { id, owner, set := set.map NoteSet.id, timestamp := time.toMicroseconds, body,
      marked := false }
  let id ← Table.notes.insertWithNextId limits.attempts fun id => (noteWithId id).values
  return noteWithId id

/-- The note with an id. -/
def get (id : Int64) : Job (Option Note) := do
  let query ← Job.ofExcept <| Select.statement
    { table := .notes, outputs := ["*"], condition := some (.eq "id" (.int id)), limit := 1 }
  let outcome ← Job.execute query
  Job.ofExcept (outcome.readFirst Note.ofRow)

/-- Changes a note, which must exist. -/
def edit (id : Int64) (changes : NoteChanges) : Job Unit := do
  let statement ← Job.ofExcept
    (Table.notes.updateStatement (.eq "id" (.int id)) changes.assignments)
  let outcome ← Job.execute statement
  if outcome.count = 0 then
    throw (.notFound (.note id))

/-- Deletes a note, if it exists. -/
def delete (id : Int64) : Job Unit := do
  let statement ← Job.ofExcept (Table.notes.deleteStatement (.eq "id" (.int id)))
  let _ ← Job.execute statement

/-- The id that the next note would get. -/
def nextId : Job Int64 :=
  Table.notes.nextId

end Notes

end Notebook
