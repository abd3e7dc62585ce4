import Mathlib.Data.List.Nodup
import Mathlib.Data.List.Perm.Basic
import Notebook.Entity.Note
import Notebook.Entity.NoteSet
import Notebook.Entity.User
import Notebook.Proofs.Except
import Notebook.Table

/-!
# Entities read from their rows

What is read from a row is decided by the values in the declared columns of the table, and by
nothing else: neither the order of the columns nor further columns matter. `Table.Stands` lists
the values that stand for an entity, and `Table.read_eq_ok_iff` says that an entity is read
exactly from the rows with such values.
-/

namespace Notebook

/-! ### Rows -/

namespace Row

variable {row : Row} {column : String}

/-- A value is got from a column exactly if it is there. -/
theorem get_eq_ok_iff {value : Value} :
    row.get column = .ok value ↔ row.get? column = some value := by
  unfold get
  cases row.get? column <;> simp

/-- What is picked from one value only is picked from a column exactly if that value is there. -/
theorem get_bind_eq_ok_iff {α : Type} {pick : Value → Except Error α} {scalar : α} {value : Value}
    (picked : pick value = .ok scalar) (only : ∀ given, pick given = .ok scalar → given = value) :
    (row.get column >>= pick) = .ok scalar ↔ row.get? column = some value := by
  rw [Except.bind_eq_ok_iff, ← get_eq_ok_iff]
  constructor
  · rintro ⟨given, got, isScalar⟩
    rwa [only given isScalar] at got
  · exact fun got => ⟨value, got, picked⟩

/-- An integer is read from a column exactly if it is there. -/
theorem int_eq_ok_iff {number : Int64} :
    row.int column = .ok number ↔ row.get? column = some (.int number) :=
  get_bind_eq_ok_iff rfl fun given picked => by cases given <;> cases picked; rfl

/-- A truth value is read from a column exactly if it is there. -/
theorem bool_eq_ok_iff {truth : Bool} :
    row.bool column = .ok truth ↔ row.get? column = some (.bool truth) :=
  get_bind_eq_ok_iff rfl fun given picked => by cases given <;> cases picked; rfl

/-- A text is read from a column exactly if it is there. -/
theorem text_eq_ok_iff {text : String} :
    row.text column = .ok text ↔ row.get? column = some (.text text) :=
  get_bind_eq_ok_iff rfl fun given picked => by cases given <;> cases picked; rfl

/-- A timestamp is read from a column exactly if it is there. -/
theorem timestamp_eq_ok_iff {time : Timestamp} :
    row.timestamp column = .ok time ↔ row.get? column = some (.timestamp time) :=
  get_bind_eq_ok_iff rfl fun given picked => by cases given <;> cases picked; rfl

/-- Nothing is looked up under a name that no cell has. -/
theorem lookup_eq_none {α : Type} {cells : List (String × α)}
    (absent : column ∉ cells.map Prod.fst) : cells.lookup column = none := by
  refine List.lookup_eq_none_iff.mpr fun cell member => bne_iff_ne.mpr fun same => ?_
  rw [same] at absent
  exact absent (List.mem_map_of_mem member)

/-- If the values of cells change with their columns, so do those that are looked up. -/
theorem lookup_map {α β : Type} (cells : List (String × α)) (change : String → α → β)
    (column : String) :
    (cells.map fun cell => (cell.1, change cell.1 cell.2)).lookup column =
      (cells.lookup column).map (change column) := by
  induction cells with
  | nil => rfl
  | cons cell rest inductionHypothesis =>
      obtain ⟨name, value⟩ := cell
      by_cases same : column = name
      · subst same
        simp
      · have other : (column == name) = false := by simpa using same
        simpa [List.lookup_cons, other] using inductionHypothesis

/-- The row has these values in these columns. -/
def Has (row : Row) (cells : List (String × Value)) : Prop :=
  ∀ cell ∈ cells, row.get? cell.1 = some cell.2

/-- A value is found in its column if it is the only one there. -/
theorem get?_eq_some_of_only {value : Value} (present : (column, value) ∈ row.cells)
    (only : ∀ other, (column, other) ∈ row.cells → other = value) :
    row.get? column = some value := by
  obtain ⟨other, found⟩ : ∃ other, row.get? column = some other := by
    refine Option.ne_none_iff_exists'.mp fun missing => ?_
    have absent := List.lookup_eq_none_iff.mp missing _ present
    simp at absent
  obtain ⟨before, after, cells, _⟩ := List.lookup_eq_some_iff.mp found
  have member : (column, other) ∈ row.cells := by simp [cells]
  rw [found, only other member]

/-- A row has the values of different columns in whatever order these stand, and whatever other
columns stand between them. -/
theorem has_of_perm {cells others : List (String × Value)}
    (distinct : (cells.map Prod.fst).Nodup)
    (apart : ∀ cell ∈ others, cell.1 ∉ cells.map Prod.fst)
    (arranged : row.cells.Perm (cells ++ others)) : row.Has cells := by
  intro cell member
  refine get?_eq_some_of_only (arranged.mem_iff.mpr (List.mem_append_left _ member)) ?_
  intro other present
  rcases List.mem_append.mp (arranged.mem_iff.mp present) with declared | further
  · exact congrArg Prod.snd (List.inj_on_of_nodup_map distinct declared member rfl)
  · exact absurd (List.mem_map_of_mem member) (apart (cell.1, other) further)

/-- There is nothing to have of no cells. -/
@[simp]
theorem has_nil : row.Has [] := fun _ member => nomatch member

/-- A row has the values of several columns if it has each of them. -/
@[simp]
theorem has_cons_iff {value : Value} {cells : List (String × Value)} :
    row.Has ((column, value) :: cells) ↔ row.get? column = some value ∧ row.Has cells :=
  List.forall_mem_cons

end Row

/-! ### Entities -/

/-- A set type is read from its name only. -/
theorem SetType.ofText_eq_ok_iff {text : String} {type : SetType} :
    ofText text = .ok type ↔ text = type.name := by
  constructor
  · intro read
    unfold ofText at read
    split at read
    next found present =>
      cases read
      have named := List.find?_some present
      exact (of_decide_eq_true named).symm
    next => cases read
  · rintro rfl
    exact ofText_name type

/-- A user is read from the rows with its values. -/
theorem User.ofRow_eq_ok_iff {row : Row} {user : User} :
    ofRow row = .ok user ↔ row.Has (Table.users.columns.zip user.values) := by
  simp only [ofRow, Except.bind_eq_ok_iff, Row.int_eq_ok_iff, Row.text_eq_ok_iff, Table.columns,
    values, List.zip_cons_cons, List.zip_nil_right, Row.has_cons_iff, Row.has_nil, and_true]
  constructor
  · rintro ⟨id, hasId, name, hasName, email, hasEmail, gid, hasGid, same⟩
    cases same
    exact ⟨hasId, hasName, hasEmail, hasGid⟩
  · rintro ⟨hasId, hasName, hasEmail, hasGid⟩
    exact ⟨_, hasId, _, hasName, _, hasEmail, _, hasGid, rfl⟩

/-- A set is read from the rows with its values. -/
theorem NoteSet.ofRow_eq_ok_iff {row : Row} {set : NoteSet} :
    ofRow row = .ok set ↔ row.Has (Table.sets.columns.zip set.values) := by
  simp only [ofRow, Except.bind_eq_ok_iff, Row.int_eq_ok_iff, Row.text_eq_ok_iff,
    SetType.ofText_eq_ok_iff, Table.columns, values, List.zip_cons_cons, List.zip_nil_right,
    Row.has_cons_iff, Row.has_nil, and_true]
  constructor
  · rintro ⟨id, hasId, owner, hasOwner, name, hasName, text, hasType, type, rfl, same⟩
    cases same
    exact ⟨hasId, hasOwner, hasName, hasType⟩
  · rintro ⟨hasId, hasOwner, hasName, hasType⟩
    exact ⟨_, hasId, _, hasOwner, _, hasName, _, hasType, _, rfl, rfl⟩

namespace Note

/-- The values of a note with this number for its set. -/
def valuesWith (note : Note) (number : Int64) : List Value :=
  [.int note.id, .int note.owner, .int number, .timestamp note.timestamp, .text note.body,
    .bool note.marked]

/-- A note is read from the rows with its values and a number that stands for its set. -/
theorem ofRow_eq_ok_iff {row : Row} {note : Note} :
    ofRow row = .ok note ↔ ∃ number, note.set = setOfNumber number ∧
      row.Has (Table.notes.columns.zip (note.valuesWith number)) := by
  simp only [ofRow, Except.bind_eq_ok_iff, Row.int_eq_ok_iff, Row.text_eq_ok_iff,
    Row.bool_eq_ok_iff, Row.timestamp_eq_ok_iff, Table.columns, valuesWith, List.zip_cons_cons,
    List.zip_nil_right, Row.has_cons_iff, Row.has_nil, and_true]
  constructor
  · rintro ⟨number, hasSet, id, hasId, owner, hasOwner, timestamp, hasTimestamp, body, hasBody,
      marked, hasMarked, same⟩
    cases same
    exact ⟨number, rfl, hasId, hasOwner, hasSet, hasTimestamp, hasBody, hasMarked⟩
  · rintro ⟨number, filed, hasId, hasOwner, hasSet, hasTimestamp, hasBody, hasMarked⟩
    obtain ⟨id, owner, set, timestamp, body, marked⟩ := note
    cases filed
    exact ⟨number, hasSet, id, hasId, owner, hasOwner, timestamp, hasTimestamp, body, hasBody,
      marked, hasMarked, rfl⟩

end Note

namespace Table

/-- What the rows of a table are read as. -/
@[reducible]
def Thing : Table → Type
  | .users => User
  | .sets => NoteSet
  | .notes => Note

/-- How a row of a table is read. -/
def read : (table : Table) → Row → Except Error table.Thing
  | .users => User.ofRow
  | .sets => NoteSet.ofRow
  | .notes => Note.ofRow

/-- The values for the declared columns that stand for a thing. A note in no set may have any
negative number for it. -/
inductive Stands : (table : Table) → table.Thing → List Value → Prop
  | user (user : User) : Stands .users user user.values
  | set (set : NoteSet) : Stands .sets set set.values
  | note (note : Note) (number : Int64) (filed : note.set = Note.setOfNumber number) :
      Stands .notes note (note.valuesWith number)

/-- A thing is read exactly from the rows with values that stand for it in the declared
columns. -/
theorem read_eq_ok_iff {table : Table} {row : Row} {thing : table.Thing} :
    table.read row = .ok thing ↔
      ∃ values, table.Stands thing values ∧ row.Has (table.columns.zip values) := by
  cases table with
  | users =>
      refine User.ofRow_eq_ok_iff.trans ⟨fun has => ⟨_, .user thing, has⟩, ?_⟩
      rintro ⟨values, stands, has⟩
      cases stands
      exact has
  | sets =>
      refine NoteSet.ofRow_eq_ok_iff.trans ⟨fun has => ⟨_, .set thing, has⟩, ?_⟩
      rintro ⟨values, stands, has⟩
      cases stands
      exact has
  | notes =>
      refine Note.ofRow_eq_ok_iff.trans ⟨?_, ?_⟩
      · rintro ⟨number, filed, has⟩
        exact ⟨_, .note thing number filed, has⟩
      · rintro ⟨values, stands, has⟩
        cases stands with
        | note _ number filed => exact ⟨number, filed, has⟩

/-- There is a value for every declared column. -/
theorem Stands.length_eq {table : Table} {thing : table.Thing} {values : List Value}
    (stands : table.Stands thing values) : values.length = table.columns.length := by
  cases stands <;> rfl

/-- No column is declared twice. -/
theorem columns_nodup (table : Table) : table.columns.Nodup := by
  cases table <;> decide

/-- A thing is read from its values in whatever order the columns stand, and whatever other
columns stand between them. -/
theorem Stands.read_of_perm {table : Table} {thing : table.Thing} {values : List Value}
    (stands : table.Stands thing values) {row : Row} {others : List (String × Value)}
    (apart : ∀ cell ∈ others, cell.1 ∉ table.columns)
    (arranged : row.cells.Perm (table.columns.zip values ++ others)) :
    table.read row = .ok thing := by
  have names : (table.columns.zip values).map Prod.fst = table.columns :=
    List.map_fst_zip (Nat.le_of_eq stands.length_eq.symm)
  refine read_eq_ok_iff.mpr ⟨values, stands, Row.has_of_perm ?_ ?_ arranged⟩
  · rw [names]
    exact table.columns_nodup
  · rwa [names]

end Table

end Notebook
