import Notebook.Proofs.Store.Order
import Notebook.Proofs.Work.Success

/-!
# Deleting a set

A set is deleted with all notes that are filed in it, by two statements in one request. So the
deletion of a set either fails and leaves everything as it was, or it takes away exactly the set
and its notes (`Database.Cascades`); a second deletion finds nothing left to take away
(`Sets.delete_cascades`).
-/

namespace Notebook

open Notebook.Sql

/-! ### What rows are of -/

/-- The row is of a thing with a property. -/
def Row.IsOf (row : Row) (kind : Belonging) (property : kind.Thing → Prop) : Prop :=
  ∃ thing, kind.read row = .ok thing ∧ property thing

namespace Row.IsOf

variable {row : Row} {kind : Belonging} {property : kind.Thing → Prop} {thing : kind.Thing}

/-- A row that is read as a thing is of a thing with a property exactly if that has it. -/
theorem iff_of_read (readable : kind.read row = .ok thing) :
    row.IsOf kind property ↔ property thing := by
  constructor
  · rintro ⟨other, same, holds⟩
    cases readable.symm.trans same
    exact holds
  · exact fun holds => ⟨thing, readable, holds⟩

instance [DecidablePred property] : Decidable (row.IsOf kind property) :=
  match readable : kind.read row with
  | .ok _ => decidable_of_iff _ (iff_of_read readable).symm
  | .error _ => .isFalse fun ⟨_, same, _⟩ => nomatch readable.symm.trans same

end Row.IsOf

/-- The row is that of the set with an id. -/
abbrev Row.IsSet (row : Row) (id : Int64) : Prop :=
  row.IsOf .set fun set => set.id = id

/-- The row is that of a note which is in a set, or in none. -/
abbrev Row.IsFiledIn (row : Row) (set : Option Int64) : Prop :=
  row.IsOf .note fun note => note.set = set

/-- The row of a set is selected by the id of the set. -/
theorem Sql.Condition.selects_iff_isSet {comparing : Comparing} {row : Row} {set : NoteSet}
    (readable : Belonging.set.read row = .ok set) (place : Nat) (id : Int64) :
    (equals place "id" (.int id)).selects comparing row = true ↔ row.IsSet id := by
  have isSet : row.IsSet id ↔ set.id = id := Row.IsOf.iff_of_read readable
  rw [isSet, selects_int_iff (Belonging.get?_of_read readable).1]
  rfl

/-- The row of a note is selected by the id of the set that the note is in. -/
theorem Sql.Condition.selects_iff_isFiledIn {comparing : Comparing} {row : Row} {note : Note}
    {id : Int64} (readable : Belonging.note.read row = .ok note) (natural : 0 ≤ id) (place : Nat) :
    (equals place "set" (.int id)).selects comparing row = true ↔ row.IsFiledIn (some id) := by
  have isFiledIn : row.IsFiledIn (some id) ↔ note.set = some id := Row.IsOf.iff_of_read readable
  obtain ⟨number, hasSet, _⟩ := Note.get?_set_of_ofRow readable
  rw [isFiledIn, Note.set_eq_some_iff readable natural, selects_iff_get? hasSet]

/-! ### What a deletion does -/

/-- The second database is the first one without the set with an id and without the notes that
are filed in it. -/
structure Database.Cascades (id : Int64) (before after : Database) : Prop where
  gone : ∀ row ∈ after.rows .sets, ¬ row.IsSet id
  cleared : ∀ row ∈ after.rows .notes, ¬ row.IsFiledIn (some id)
  sets : ((after.rows .sets).filter fun row => ¬ row.IsSet id) =
    (before.rows .sets).filter fun row => ¬ row.IsSet id
  notes : ((after.rows .notes).filter fun row => ¬ row.IsFiledIn (some id)) =
    (before.rows .notes).filter fun row => ¬ row.IsFiledIn (some id)
  users : after.rows .users = before.rows .users

namespace Database

variable {collation : Collation} {before after : Database} {id : Int64}

/-- What is left are the rows of the other sets. -/
theorem Cascades.rows_sets (cascades : before.Cascades id after) :
    after.rows .sets = (before.rows .sets).filter fun row => ¬ row.IsSet id := by
  rw [← cascades.sets, List.filter_eq_self.mpr]
  exact fun row member => decide_eq_true (cascades.gone row member)

/-- What is left are the rows of the notes that are not filed in the set. -/
theorem Cascades.rows_notes (cascades : before.Cascades id after) :
    after.rows .notes = (before.rows .notes).filter fun row => ¬ row.IsFiledIn (some id) := by
  rw [← cascades.notes, List.filter_eq_self.mpr]
  exact fun row member => decide_eq_true (cascades.cleared row member)

/-- The database without a set and without the notes that have its number. -/
def withoutSet (collation : Collation) (database : Database) (id : Int64) : Database :=
  (database.without collation .notes "set" id).without collation .sets "id" id

/-- The rows of a table without those that are taken away. -/
theorem rows_without (collation : Collation) (database : Database) (table : Table)
    (column : String) (id : Int64) :
    (database.without collation table column id).rows table =
      (database.rows table).filter fun row =>
        !(Condition.equals 1 column (.int id)).selects collation.toComparing row :=
  rows_replace_self _ _ _

/-- Nothing is taken away from other tables. -/
theorem rows_without_ne (collation : Collation) (database : Database) {table other : Table}
    (different : other ≠ table) (column : String) (id : Int64) :
    (database.without collation table column id).rows other = database.rows other :=
  rows_replace_ne _ _ different

/-- What is left of the tables without a set. -/
theorem rows_withoutSet (collation : Collation) (database : Database) (id : Int64) :
    (database.withoutSet collation id).rows .sets = ((database.rows .sets).filter fun row =>
        !(Condition.equals 1 "id" (.int id)).selects collation.toComparing row) ∧
      (database.withoutSet collation id).rows .notes = ((database.rows .notes).filter fun row =>
        !(Condition.equals 1 "set" (.int id)).selects collation.toComparing row) ∧
      (database.withoutSet collation id).rows .users = database.rows .users := by
  unfold withoutSet
  refine ⟨?_, ?_, ?_⟩
  · rw [rows_without, rows_without_ne _ _ (by decide)]
  · rw [rows_without_ne _ _ (by decide), rows_without]
  · rw [rows_without_ne _ _ (by decide), rows_without_ne _ _ (by decide)]

/-- What was taken away is not there to be taken away again. -/
theorem withoutSet_withoutSet (collation : Collation) (database : Database) (id : Int64) :
    (database.withoutSet collation id).withoutSet collation id =
      database.withoutSet collation id := by
  obtain ⟨sets, notes, users⟩ := database.rows_withoutSet collation id
  obtain ⟨sets', notes', users'⟩ := (database.withoutSet collation id).rows_withoutSet collation id
  refine ext_rows fun table => ?_
  cases table with
  | users => exact users'
  | sets => simp only [sets', sets, List.filter_filter, Bool.and_self]
  | notes => simp only [notes', notes, List.filter_filter, Bool.and_self]

/-- Rows that are chosen by a condition may as well be chosen by what they are of. -/
theorem filter_unchosen {rows : List Row} {chosen : Row → Bool} {property : Row → Prop}
    [DecidablePred property] (same : ∀ row ∈ rows, chosen row = true ↔ property row) :
    (rows.filter fun row => !chosen row) = rows.filter fun row => ¬ property row := by
  refine List.filter_congr fun row member => ?_
  rw [Bool.eq_iff_iff, decide_eq_true_iff, ← same row member]
  simp

/-- Where all rows are those of sets and notes, exactly the set and its notes are taken away. -/
theorem cascades_withoutSet (collation : Collation) (natural : 0 ≤ id)
    (sets : before.Readable .set) (notes : before.Readable .note) :
    before.Cascades id (before.withoutSet collation id) := by
  obtain ⟨keptSets, keptNotes, keptUsers⟩ := before.rows_withoutSet collation id
  have chosenSets : ∀ row ∈ before.rows .sets,
      (Condition.equals 1 "id" (.int id)).selects collation.toComparing row = true ↔
        row.IsSet id := fun row member =>
    (sets row member).elim fun _ readable => Condition.selects_iff_isSet readable 1 id
  have chosenNotes : ∀ row ∈ before.rows .notes,
      (Condition.equals 1 "set" (.int id)).selects collation.toComparing row = true ↔
        row.IsFiledIn (some id) := fun row member =>
    (notes row member).elim fun _ readable => Condition.selects_iff_isFiledIn readable natural 1
  rw [filter_unchosen chosenSets] at keptSets
  rw [filter_unchosen chosenNotes] at keptNotes
  constructor
  · simp [keptSets]
  · simp [keptNotes]
  · simp [keptSets, List.filter_filter]
  · simp [keptNotes, List.filter_filter]
  · exact keptUsers

end Database

/-! ### The deletion -/

namespace Sets

variable {collation : Collation} {world later : World Database} {id : Int64}
  {result : Except Error Unit}

/-- The statements that delete a set: first one for its notes, and then one for itself. -/
def Deletes (id : Int64) (statements : List Statement) : Prop :=
  ∃ filed itself, Table.notes.deleteStatement (.eq "set" (.int id)) = .ok filed ∧
    Table.sets.deleteStatement (.eq "id" (.int id)) = .ok itself ∧ statements = [filed, itself]

/-- Deleting a set is one request for all its statements, whose error is passed on. -/
theorem delete_run (id : Int64) : ∃ statements, Deletes id statements ∧
    (delete id).run = .ask (.store (.executeAtomic statements))
      fun answer => .done (answer.map fun _ => ()) := by
  obtain ⟨filed, builtNotes⟩ : ∃ filed, Table.notes.deleteStatement (.eq "set" (.int id)) =
      .ok filed := Table.exists_deleteStatement rfl
  obtain ⟨itself, builtSet⟩ : ∃ itself, Table.sets.deleteStatement (.eq "id" (.int id)) =
      .ok itself := Table.exists_deleteStatement rfl
  refine ⟨_, ⟨filed, itself, builtNotes, builtSet, rfl⟩, ?_⟩
  unfold delete
  rw [builtNotes, builtSet]
  have asked (answer : Except Error (List Outcome)) :
      (ExceptT.bindCont (fun _ => pure ()) answer : Work (Except Error Unit)) =
        .done (answer.map fun _ => ()) := by
    cases answer <;> rfl
  exact congrArg (Program.ask _) (funext asked)

variable {statements : List Statement} {before after : Database}

/-- A database takes the set away with its notes, or it fails and does nothing. -/
theorem Deletes.withoutSet_of_answered {answer : Except Error (List Outcome)}
    (deletes : Deletes id statements)
    (answered : (Request.executeAtomic statements).Answered collation before answer after) :
    (∃ error, answer = .error error) ∧ after = before ∨
      (∃ outcomes, answer = .ok outcomes) ∧ after = before.withoutSet collation id := by
  obtain ⟨filed, itself, builtNotes, builtSet, rfl⟩ := deletes
  cases answered with
  | refused _ error => exact .inl ⟨⟨error, rfl⟩, rfl⟩
  | atomic ran =>
      cases ran with
      | cons first later =>
          cases later with
          | cons second last =>
              cases last
              refine .inr ⟨⟨_, rfl⟩, ?_⟩
              rw [second.delete builtSet, first.delete builtNotes]
              rfl

/-- A deletion that has ended has taken the set away with its notes, or it has failed and done
nothing. -/
theorem delete_ends (runs : Work.Runs collation (delete id).run world (.done result) later) :
    (∃ error, result = .error error) ∧ later = world ∨
      result = .ok () ∧ later = { world with store := world.store.withoutSet collation id } := by
  obtain ⟨statements, deletes, asks⟩ := delete_run id
  rw [asks] at runs
  obtain ⟨answer, answered, rfl⟩ := runs.answered
  cases answered with
  | store answered =>
      rcases deletes.withoutSet_of_answered answered with ⟨⟨error, rfl⟩, rfl⟩ | ⟨⟨_, rfl⟩, rfl⟩
      · exact .inl ⟨⟨error, rfl⟩, rfl⟩
      · exact .inr ⟨rfl, rfl⟩

/-- A deletion can succeed. -/
theorem delete_succeeds (collation : Collation) (world : World Database) (id : Int64) :
    Succeeds collation (delete id) world ()
      { world with store := world.store.withoutSet collation id } := by
  obtain ⟨statements, ⟨filed, itself, builtNotes, builtSet, rfl⟩, asks⟩ := delete_run id
  obtain ⟨outcomes, answered⟩ : ∃ outcomes, (Request.executeAtomic [filed, itself]).Answered
      collation world.store (.ok outcomes) (world.store.withoutSet collation id) :=
    Request.Answered.of_deleteBoth builtNotes builtSet
  unfold Succeeds
  rw [asks]
  exact .ask (.store answered) (.refl _ _)

/-- The deletion of a set is one request to the store, which can succeed, and whose error is
passed on. If it fails, nothing has happened; if it succeeds, the set is gone with its notes,
and all else is as it was. Then it may be deleted again, which changes nothing. -/
theorem delete_cascades (collation : Collation) (natural : 0 ≤ id) {world : World Database}
    (sets : world.store.Readable .set) (notes : world.store.Readable .note) :
    (∃ statements, (delete id).run = .ask (.store (.executeAtomic statements))
      fun answer => .done (answer.map fun _ => ())) ∧
    (∃ later, Succeeds collation (delete id) world () later) ∧
    ∀ result later, Work.Runs collation (delete id).run world (.done result) later →
      (∃ error, result = .error error) ∧ later = world ∨
      result = .ok () ∧ world.store.Cascades id later.store ∧
        later = { world with store := later.store } ∧
        Succeeds collation (delete id) later () later ∧
        ∀ again final, Work.Runs collation (delete id).run later (.done again) final →
          final = later := by
  obtain ⟨statements, _, asks⟩ := delete_run id
  refine ⟨⟨statements, asks⟩, ⟨_, delete_succeeds collation world id⟩, ?_⟩
  intro result later runs
  rcases delete_ends runs with failed | ⟨rfl, rfl⟩
  · exact .inl failed
  · have unchanged : (world.store.withoutSet collation id).withoutSet collation id =
        world.store.withoutSet collation id := Database.withoutSet_withoutSet _ _ _
    refine .inr ⟨rfl, Database.cascades_withoutSet collation natural sets notes, rfl, ?_, ?_⟩
    · have succeeds := delete_succeeds collation
        { world with store := world.store.withoutSet collation id } id
      dsimp only at succeeds
      rwa [unchanged] at succeeds
    · intro again final runs
      rcases delete_ends runs with ⟨_, rfl⟩ | ⟨_, rfl⟩
      · rfl
      · dsimp only
        rw [unchanged]

/-! ### A deletion among others -/

/-- Two sets, a note in each of them, and a note in no set. -/
def shelves : World Database where
  store :=
    { rows := fun
        | .sets => [NoteSet.blankRow 0 7, NoteSet.blankRow 1 7]
        | .notes => [Note.blankRow 0 7 0, Note.blankRow 1 7 1, Note.blankRow 2 7 Note.noSet]
        | .users => [] }
  cache := .empty
  clock := noon

/-- Only sets are on the shelves. -/
theorem readable_shelves_set : shelves.store.Readable .set := by
  intro row member
  simp only [shelves, Belonging.table, List.mem_cons, List.not_mem_nil, or_false] at member
  rcases member with rfl | rfl <;> exact ⟨_, NoteSet.ofRow_blankRow _ _⟩

/-- Only notes are in the sets on the shelves. -/
theorem readable_shelves_note : shelves.store.Readable .note := by
  intro row member
  simp only [shelves, Belonging.table, List.mem_cons, List.not_mem_nil, or_false] at member
  rcases member with rfl | rfl | rfl <;> exact ⟨_, Note.ofRow_blankRow _ _ _⟩

/-- One set is deleted with its note. The other set stays with its own, and so does the note in
no set. -/
theorem delete_cascades_shelves :
    ∃ later, Succeeds OrderedCollation.exact.toCollation (delete 0) shelves () later ∧
      later.store.rows .sets = [NoteSet.blankRow 1 7] ∧
      later.store.rows .notes = [Note.blankRow 1 7 1, Note.blankRow 2 7 Note.noSet] := by
  obtain ⟨_, ⟨later, succeeds⟩, ends⟩ := delete_cascades OrderedCollation.exact.toCollation
    (by decide : (0 : Int64) ≤ 0) readable_shelves_set readable_shelves_note
  rcases ends (.ok ()) later succeeds with ⟨⟨_, failed⟩, _⟩ | ⟨_, cascades, _⟩
  · cases failed
  · refine ⟨later, succeeds, ?_, ?_⟩
    · rw [cascades.rows_sets]
      decide
    · rw [cascades.rows_notes]
      decide

end Sets

end Notebook
