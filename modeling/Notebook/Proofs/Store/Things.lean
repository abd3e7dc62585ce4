import Mathlib.Data.List.Forall2
import Mathlib.Data.List.Nodup
import Notebook.Proofs.Ownership.Deed

/-!
# Things and their rows

What it means that things are read from rows (`Belonging.Reads`), and that a table holds
nothing else (`Database.Readable`). The row of a note keeps a number for its set, which is that
of the set unless it is negative (`Note.set_eq_some_iff`).
-/

namespace Notebook

namespace Belonging

/-- The things are read from the rows, one from each. -/
def Reads (kind : Belonging) : List Row → List kind.Thing → Prop :=
  List.Forall₂ fun row thing => kind.read row = .ok thing

/-- Rows can be read all together exactly if each of them can. -/
theorem mapM_read_eq_ok_iff {kind : Belonging} {rows : List Row} {things : List kind.Thing} :
    rows.mapM kind.read = .ok things ↔ kind.Reads rows things := by
  induction rows generalizing things with
  | nil =>
      constructor
      · intro read
        cases read
        exact .nil
      · intro reads
        cases reads
        rfl
  | cons row rest inductionHypothesis =>
      rw [List.mapM_cons, Except.bind_eq_ok_iff]
      constructor
      · rintro ⟨thing, read, onward⟩
        obtain ⟨later, readLater, same⟩ := Except.bind_eq_ok_iff.mp onward
        cases same
        exact .cons read (inductionHypothesis.mp readLater)
      · intro reads
        cases reads with
        | cons read later =>
            exact ⟨_, read, Except.bind_eq_ok_iff.mpr ⟨_, inductionHypothesis.mpr later, rfl⟩⟩

/-- Things have the ids of their rows. -/
theorem Reads.ids {kind : Belonging} {rows : List Row} {things : List kind.Thing}
    (reads : kind.Reads rows things) :
    rows.map (fun row => row.get? "id") = things.map fun thing => some (.int (kind.id thing)) := by
  induction reads with
  | nil => rfl
  | cons read _ inductionHypothesis =>
      rw [List.map_cons, List.map_cons, inductionHypothesis, (get?_of_read read).1]

/-- Rows of things with distinct ids have distinct ids. -/
theorem Reads.nodup_ids {kind : Belonging} {rows : List Row} {things : List kind.Thing}
    (reads : kind.Reads rows things) (distinct : (rows.map fun row => row.get? "id").Nodup) :
    (things.map kind.id).Nodup := by
  have mapped : (things.map fun thing => some (Value.int (kind.id thing))) =
      (things.map kind.id).map fun id => some (Value.int id) := by
    rw [List.map_map]
    rfl
  rw [reads.ids, mapped] at distinct
  exact distinct.of_map _

/-- If each of the rows can be read, all of them can. -/
theorem exists_reads {kind : Belonging} {rows : List Row}
    (readable : ∀ row ∈ rows, ∃ thing, kind.read row = .ok thing) :
    ∃ things, kind.Reads rows things := by
  induction rows with
  | nil => exact ⟨[], .nil⟩
  | cons row rest inductionHypothesis =>
      rw [List.forall_mem_cons] at readable
      obtain ⟨thing, read⟩ := readable.1
      obtain ⟨later, reads⟩ := inductionHypothesis readable.2
      exact ⟨thing :: later, .cons read reads⟩

end Belonging

/-! ### Tables of things -/

/-- Every row in the table of a kind can be read. -/
def Database.Readable (database : Database) (kind : Belonging) : Prop :=
  ∀ row ∈ database.rows kind.table, ∃ thing, kind.read row = .ok thing

/-! ### The set of a note -/

namespace Note

variable {row : Row} {note : Note} {id : Int64}

/-- The row of a note keeps a number for its set. -/
theorem get?_set_of_ofRow (readable : ofRow row = .ok note) :
    ∃ number, row.get? "set" = some (.int number) ∧ note.set = setOfNumber number := by
  obtain ⟨number, filed, has⟩ := ofRow_eq_ok_iff.mp readable
  simp only [Table.columns, valuesWith, List.zip_cons_cons, Row.has_cons_iff] at has
  exact ⟨number, has.2.2.1, filed⟩

/-- A note is in a set if its row has the number of that set, unless the number is negative. -/
theorem set_eq_some_iff (readable : ofRow row = .ok note) (natural : 0 ≤ id) :
    note.set = some id ↔ row.get? "set" = some (.int id) := by
  obtain ⟨number, hasSet, filed⟩ := get?_set_of_ofRow readable
  rw [filed, hasSet, setOfNumber]
  split
  next => simp
  next negative =>
    simp only [reduceCtorEq, Option.some.injEq, Value.int.injEq, false_iff]
    rintro rfl
    exact negative natural

end Note

/-! ### Blank things -/

/-- A note without text. -/
def Note.blank (id owner : Int64) (set : Option Int64) : Note :=
  ⟨id, owner, set, noon, "", false⟩

/-- The row of a note without text. -/
def Note.blankRow (id owner number : Int64) : Row :=
  ⟨[("id", .int id), ("owner", .int owner), ("set", .int number), ("timestamp", .timestamp noon),
    ("body", .text ""), ("marked", .bool false)]⟩

/-- The row of a set without a name. -/
def NoteSet.blankRow (id owner : Int64) : Row :=
  ⟨[("id", .int id), ("owner", .int owner), ("name", .text ""), ("type", .text "daily")]⟩

/-- The row of a note without text is read as that note. -/
theorem Note.ofRow_blankRow (id owner number : Int64) :
    ofRow (blankRow id owner number) = .ok (blank id owner (setOfNumber number)) := rfl

/-- The row of a set without a name is read as that set. -/
theorem NoteSet.ofRow_blankRow (id owner : Int64) :
    ofRow (blankRow id owner) = .ok ⟨id, owner, "", .daily⟩ := rfl

end Notebook
