import Notebook.Proofs.Entity.Rows
import Notebook.Proofs.Sql.Operation
import Notebook.Storage.Precision

/-!
# Edits

An edit assigns columns of the row of a thing. What is read from the row with these values is the
thing with the fields of the edit laid over its own (`Table.overlay`), whatever kind of thing it
is. The assignments follow the declared columns and leave out the id, the owner and the subject.
A store writes the values as it keeps them, which rounds timestamps (`Row.assign_eq_write`).
-/

namespace Notebook

open Notebook.Sql

/-! ### Writing into rows -/

/-- The value of a cell after assignments. -/
def Row.overwritten (assignments : List (String × Value)) (column : String) (value : Value) :
    Value :=
  (assignments.lookup column).getD value

/-- The row with new values in the assigned columns. -/
def Row.write (row : Row) (assignments : List (String × Value)) : Row :=
  ⟨row.cells.map fun cell => (cell.1, overwritten assignments cell.1 cell.2)⟩

/-- An assigned column has its new value, and all others keep theirs. -/
theorem Row.get?_write (row : Row) (assignments : List (String × Value)) (column : String) :
    (row.write assignments).get? column =
      (row.get? column).map (overwritten assignments column) :=
  lookup_map row.cells (overwritten assignments) column

/-- What a row has is overwritten with the row. -/
theorem Row.Has.write {row : Row} {columns : List String} {values : List Value}
    (has : row.Has (columns.zip values)) (assignments : List (String × Value)) :
    (row.write assignments).Has
      (columns.zip (List.zipWith (overwritten assignments) columns values)) := by
  induction columns generalizing values with
  | nil => exact has_nil
  | cons column columns inductionHypothesis =>
      cases values with
      | nil => exact has_nil
      | cons value values =>
          obtain ⟨found, rest⟩ := has_cons_iff.mp has
          have written : (row.write assignments).get? column =
              some (overwritten assignments column value) := by
            rw [get?_write, found, Option.map_some]
          exact has_cons_iff.mpr ⟨written, inductionHypothesis rest⟩

/-! ### Edits laid over things -/

/-- The user with the given fields in place of its own. -/
def UserChanges.overlay (changes : UserChanges) (user : User) : User :=
  { user with
    name := changes.name.getD user.name
    email := changes.email.getD user.email }

/-- The set with the given fields in place of its own. -/
def NoteSetChanges.overlay (changes : NoteSetChanges) (set : NoteSet) : NoteSet :=
  { set with
    name := changes.name.getD set.name
    type := changes.type.getD set.type }

/-- The note with the given fields in place of its own. -/
def NoteChanges.overlay (changes : NoteChanges) (note : Note) : Note :=
  { note with
    set := changes.set.getD note.set
    timestamp := changes.timestamp.getD note.timestamp
    body := changes.body.getD note.body
    marked := changes.marked.getD note.marked }

namespace Table

/-- The edits of a kind of thing. -/
@[reducible]
def Changes : Table → Type
  | .users => UserChanges
  | .sets => NoteSetChanges
  | .notes => NoteChanges

/-- Holds of an edit that gives no field. -/
def isEmpty : (table : Table) → table.Changes → Bool
  | .users => UserChanges.isEmpty
  | .sets => NoteSetChanges.isEmpty
  | .notes => NoteChanges.isEmpty

/-- The columns that an edit assigns. -/
def assignments : (table : Table) → table.Changes → List (String × Value)
  | .users => UserChanges.assignments
  | .sets => NoteSetChanges.assignments
  | .notes => NoteChanges.assignments

/-- The thing with the fields of an edit in place of its own. -/
def overlay : (table : Table) → table.Changes → table.Thing → table.Thing
  | .users => UserChanges.overlay
  | .sets => NoteSetChanges.overlay
  | .notes => NoteChanges.overlay

/-- The fields of an edit: under each column the value that is given for it, if any. -/
def given : (table : Table) → table.Changes → List (String × Option Value)
  | .users, changes => [("name", changes.name.map .text), ("email", changes.email.map .text)]
  | .sets, changes =>
      [("name", changes.name.map .text), ("type", changes.type.map fun type => .text type.name)]
  | .notes, changes =>
      [("set", (changes.set.map Note.setNumber).map .int),
        ("timestamp", changes.timestamp.map .timestamp), ("body", changes.body.map .text),
        ("marked", changes.marked.map .bool)]

/-- What an edit may assign: the declared columns but the id, the owner and the subject. -/
def editable (table : Table) : List String :=
  table.columns.filter fun column => column ∉ ["id", "owner", "gid"]

/-- The id of a set that an edit files a note in is not negative. -/
def Proper : (table : Table) → table.Changes → Prop
  | .notes, changes => ∀ id, changes.set = some (some id) → 0 ≤ id
  | _, _ => True

/-- The fields that are given a value, with that value. -/
def assigned {α : Type} (fields : List (String × Option α)) : List (String × α) :=
  fields.flatMap fun field => (field.2.map fun value => (field.1, value)).toList

/-- The columns of the fields that are given a value are among those of all fields, in the same
order. -/
theorem assigned_sublist {α : Type} (fields : List (String × Option α)) :
    ((assigned fields).map Prod.fst).Sublist (fields.map Prod.fst) := by
  induction fields with
  | nil => exact .slnil
  | cons field rest inductionHypothesis =>
      obtain ⟨column, value⟩ := field
      cases value with
      | none => exact inductionHypothesis.cons _
      | some value => exact inductionHypothesis.cons_cons _

/-- No value is given exactly if each field is without one. -/
theorem assigned_eq_nil_iff {α : Type} {fields : List (String × Option α)} :
    assigned fields = [] ↔ ∀ field ∈ fields, field.2 = none := by
  simp [assigned, List.flatMap_eq_nil_iff]

/-- If no column has two fields, the value of a column is the one that is given for it. -/
theorem lookup_assigned {α : Type} {fields : List (String × Option α)}
    (distinct : (fields.map Prod.fst).Nodup) (column : String) :
    (assigned fields).lookup column = (fields.lookup column).join := by
  induction fields with
  | nil => rfl
  | cons field rest inductionHypothesis =>
      obtain ⟨name, value⟩ := field
      obtain ⟨once, distinct⟩ := List.nodup_cons.mp distinct
      have later := inductionHypothesis distinct
      by_cases same : column = name
      · subst same
        have absent : rest.lookup column = none := Row.lookup_eq_none once
        cases value with
        | none => simpa [assigned, absent] using later
        | some value => simp [assigned]
      · have other : (column == name) = false := by simpa using same
        cases value <;> simpa [assigned, List.lookup_cons, other] using later

variable {table : Table}

/-- Every editable column has a field. -/
theorem map_fst_given (changes : table.Changes) :
    (table.given changes).map Prod.fst = table.editable := by
  cases table <;> rfl

/-- An edit assigns the columns of the fields that are given a value. -/
theorem assignments_eq (changes : table.Changes) :
    table.assignments changes = assigned (table.given changes) := by
  cases table <;>
    simp [assignments, UserChanges.assignments, NoteSetChanges.assignments,
      NoteChanges.assignments, given, assigned, Function.comp_def]

/-- An edit gives no field exactly if it assigns no column. -/
theorem isEmpty_iff {changes : table.Changes} :
    table.isEmpty changes = true ↔ table.assignments changes = [] := by
  rw [assignments_eq, assigned_eq_nil_iff]
  cases table <;>
    simp [isEmpty, UserChanges.isEmpty, NoteSetChanges.isEmpty, NoteChanges.isEmpty, given,
      and_assoc]

/-- No column has two fields. -/
theorem editable_nodup (table : Table) : table.editable.Nodup :=
  table.columns_nodup.filter _

/-- A column is assigned the value that is given for it. -/
theorem lookup_assignments (changes : table.Changes) (column : String) :
    (table.assignments changes).lookup column = ((table.given changes).lookup column).join := by
  rw [assignments_eq, lookup_assigned]
  rw [map_fst_given]
  exact table.editable_nodup

/-- The values that stand for a thing stand for the edited thing once they are overwritten. -/
theorem Stands.overlay {thing : table.Thing} {values : List Value}
    (stands : table.Stands thing values) {changes : table.Changes}
    (proper : table.Proper changes) :
    table.Stands (table.overlay changes thing)
      (List.zipWith (Row.overwritten (table.assignments changes)) table.columns values) := by
  cases stands with
  | user user =>
      have values : List.zipWith (Row.overwritten (assignments .users changes)) (columns .users)
          user.values = (UserChanges.overlay changes user).values := by
        simp [columns, User.values, Row.overwritten, lookup_assignments, given,
          UserChanges.overlay, List.lookup_cons]
      rw [values]
      exact .user _
  | set set =>
      have values : List.zipWith (Row.overwritten (assignments .sets changes)) (columns .sets)
          set.values = (NoteSetChanges.overlay changes set).values := by
        simp [columns, NoteSet.values, Row.overwritten, lookup_assignments, given,
          NoteSetChanges.overlay, List.lookup_cons]
      rw [values]
      exact .set _
  | note note number filed =>
      -- An edit that gives no set leaves the number as it is, and it need not be `noSet`.
      let next := (changes.set.map Note.setNumber).getD number
      have values : List.zipWith (Row.overwritten (assignments .notes changes)) (columns .notes)
          (note.valuesWith number) = (NoteChanges.overlay changes note).valuesWith next := by
        simp [columns, Note.valuesWith, Row.overwritten, lookup_assignments, given,
          NoteChanges.overlay, List.lookup_cons, next, -Option.map_map]
      have files : changes.set.getD note.set = Note.setOfNumber next := by
        cases given : changes.set with
        | none => simpa [next, given] using filed
        | some set =>
            have valid : ∀ id ∈ set, 0 ≤ id := by
              rintro id rfl
              exact proper id given
            simpa [next, given] using (Note.setOfNumber_setNumber valid).symm
      rw [values]
      exact .note _ _ files

/-- An update that assigns declared columns is built, and is read as what was asked for. -/
theorem exists_updateStatement {condition : Predicate} {assignments : List (String × Value)}
    (declared : ∀ column ∈ condition.columns, table.declares column = true)
    (nonempty : assignments ≠ [])
    (within : ∀ column ∈ assignments.map Prod.fst, column ∈ table.columns) :
    ∃ statement, table.updateStatement condition assignments = .ok statement ∧
      Operation.ofStatement? statement =
        some (.update table assignments (condition.group (assignments.length + 1)).close) := by
  have checked : (Draft.update table condition assignments).check = .ok () := by
    refine Draft.check_eq_ok_iff.mpr ⟨nonempty, fun column member => ?_⟩
    rcases List.mem_append.mp member with tested | assigned
    · exact declared column tested
    · exact List.contains_iff_mem.mpr (within column assigned)
  have built := Draft.statement_eq_ok_iff.mpr ⟨checked, (fun _ member => nomatch member), rfl⟩
  exact ⟨_, built, Operation.ofStatement?_update built⟩

/-- Writing the assignments of an edit into the row of a thing lays the edit over the thing,
whether it is a user, a set or a note. An edit is empty exactly if it assigns no column. If it is
not, its update is built under any condition on declared columns. From the row with the assigned
values is read the thing with exactly the given fields replaced; all other columns keep their
values. The assigned columns are different, in declared order, and never the id, the owner or the
subject. -/
theorem edit_is_overlay {row : Row} {thing : table.Thing} {changes : table.Changes}
    (readable : table.read row = .ok thing) (proper : table.Proper changes) :
    (table.isEmpty changes = true ↔ table.assignments changes = []) ∧
    (table.isEmpty changes = false → ∀ condition : Predicate,
      (∀ column ∈ condition.columns, table.declares column = true) →
      ∃ statement, table.updateStatement condition (table.assignments changes) = .ok statement ∧
        Operation.ofStatement? statement = some (.update table (table.assignments changes)
          (condition.group ((table.assignments changes).length + 1)).close)) ∧
    table.read (row.write (table.assignments changes)) = .ok (table.overlay changes thing) ∧
    (∀ column ∉ (table.assignments changes).map Prod.fst,
      (row.write (table.assignments changes)).get? column = row.get? column) ∧
    ((table.assignments changes).map Prod.fst).Nodup ∧
    ((table.assignments changes).map Prod.fst).Sublist table.columns ∧
    ∀ column ∈ (table.assignments changes).map Prod.fst, column ∉ ["id", "owner", "gid"] := by
  have editable : ((table.assignments changes).map Prod.fst).Sublist table.editable := by
    rw [assignments_eq, ← map_fst_given changes]
    exact assigned_sublist _
  have ordered : ((table.assignments changes).map Prod.fst).Sublist table.columns :=
    editable.trans List.filter_sublist
  refine ⟨isEmpty_iff, fun nonempty condition declared => ?_, ?_, ?_, ?_, ordered, ?_⟩
  · refine exists_updateStatement declared (fun empty => ?_) ordered.subset
    rw [isEmpty_iff.mpr empty] at nonempty
    cases nonempty
  · obtain ⟨values, stands, has⟩ := read_eq_ok_iff.mp readable
    exact read_eq_ok_iff.mpr ⟨_, stands.overlay proper, has.write _⟩
  · intro column unassigned
    have same : Row.overwritten (table.assignments changes) column = id := by
      funext value
      rw [Row.overwritten, Row.lookup_eq_none unassigned, Option.getD_none, id]
    rw [Row.get?_write, same, Option.map_id, id]
  · exact table.editable_nodup.sublist editable
  · intro column member
    exact of_decide_eq_true (List.mem_filter.mp (editable.subset member)).2

/-- Midnight of a leap day. -/
def midnight : Timestamp :=
  .ofMicrosecondOfDay ⟨2024, 2, 29, by decide⟩ 0

/-- The row of a note in a set, with the columns in another order and one more among them. -/
def filedRow : Row :=
  ⟨[("body", .text "milk"), ("set", .int 3), ("colour", .text "red"), ("marked", .bool false),
    ("id", .int 1), ("owner", .int 2), ("timestamp", .timestamp midnight)]⟩

/-- A note is taken out of its set and marked. -/
theorem edit_is_overlay_unfile :
    let changes : NoteChanges := { set := some none, marked := some true }
    Table.notes.read filedRow = .ok ⟨1, 2, some 3, midnight, "milk", false⟩ ∧
      Table.notes.Proper changes ∧
      Table.notes.assignments changes = [("set", .int (-1)), ("marked", .bool true)] ∧
      Table.notes.read (filedRow.write (Table.notes.assignments changes)) =
        .ok ⟨1, 2, none, midnight, "milk", true⟩ := by
  intro changes
  have readable : Table.notes.read filedRow = .ok ⟨1, 2, some 3, midnight, "milk", false⟩ := rfl
  have proper : Table.notes.Proper changes := fun _ files => nomatch files
  exact ⟨readable, proper, rfl, (edit_is_overlay readable proper).2.2.1⟩

end Table

end Notebook
