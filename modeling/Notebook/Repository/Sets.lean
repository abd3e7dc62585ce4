import Notebook.Repository.Notes

/-!
# Note sets

Listing, creating, reading, editing and deleting sets. Deleting a set deletes
the notes filed in it first, in the same transaction.
-/

namespace Notebook.Sets

/-- The query for one page of an owner's sets, ordered by id. -/
def listQuery (limits : Limits) (owner : Int64) (offset : Option UInt64) : Select :=
  { table := .sets
    outputs := ["*"]
    condition := some (.eq "owner" (.int owner))
    order := some ("id", .asc)
    limit := limits.pageSize
    offset := offset.getD 0 }

/-- One page of an owner's sets. -/
def list (limits : Limits) (owner : Int64) (offset : Option UInt64) : Job (List NoteSet) := do
  let query ← Job.ofExcept (listQuery limits owner offset).statement
  let outcome ← Job.execute query
  Job.ofExcept (outcome.readAll NoteSet.ofRow)

/-- Creates a set. -/
def create (limits : Limits) (owner : Int64) (request : NewSet) : Job NoteSet := do
  let setWithId (id : Int64) : NoteSet :=
    { id, owner, name := request.name, type := request.type }
  let id ← Table.sets.insertWithNextId limits.attempts fun id => (setWithId id).values
  return setWithId id

/-- The set with an id. -/
def get (id : Int64) : Job (Option NoteSet) := do
  let query ← Job.ofExcept <| Select.statement
    { table := .sets, outputs := ["*"], condition := some (.eq "id" (.int id)), limit := 1 }
  let outcome ← Job.execute query
  Job.ofExcept (outcome.readFirst NoteSet.ofRow)

/-- One page of the notes filed under a set number. -/
def notes (limits : Limits) (id : Int64) (offset : Option UInt64) : Job (List Note) :=
  Notes.page limits (.eq "set" (.int id)) .asc offset

/-- Changes a set, which must exist. -/
def edit (id : Int64) (changes : NoteSetChanges) : Job Unit := do
  let statement ← Job.ofExcept
    (Table.sets.updateStatement (.eq "id" (.int id)) changes.assignments)
  let outcome ← Job.execute statement
  if outcome.count = 0 then
    throw (.notFound (.set id))

/-- Deletes a set together with the notes filed in it. -/
def delete (id : Int64) : Job Unit := do
  let notes ← Job.ofExcept (Table.notes.deleteStatement (.eq "set" (.int id)))
  let set ← Job.ofExcept (Table.sets.deleteStatement (.eq "id" (.int id)))
  let _ ← Job.executeAtomic [notes, set]

/-- The id that the next set would get. -/
def nextId : Job Int64 :=
  Table.sets.nextId

end Notebook.Sets
