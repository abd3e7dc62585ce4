import Notebook.Proofs.Listing.Sent
import Notebook.Proofs.Ownership.Secure
import Notebook.Proofs.Store.Cascade

/-!
# Notes in no set

A note in no set has a negative number in the column of its set, and the operations on a set
compare that column with the number they are given. As long as this is no negative number, they
stay apart from the notes in no set (`Sets.unfiled_stay_apart`). They do not check it: the notes
of set -1 are notes in no set, and its deletion takes them away (`Sets.unfiled_under_noSet`).
-/

namespace Notebook.Sets

open Notebook.Sql

variable {collation : Collation} {limits : Limits} {id : Int64} {offset : Option UInt64}
  {world later : World Database} {found : List Note} {result : Except Error Unit}

/-- The notes that are read under a number are in the set that the number stands for. -/
theorem set_of_notes
    (runs : Work.Runs collation (notes limits id offset).run world (.done (.ok found)) later) :
    later = world ∧ ∀ note ∈ found, note.set = Note.setOfNumber id := by
  let page := Notes.pageQuery limits (.eq "set" (.int id)) .asc offset
  obtain ⟨statement, built⟩ : ∃ statement, page.statement = .ok statement :=
    Select.exists_statement rfl (Select.lacks_of_star rfl)
  have asks : (notes limits id offset).run = .ask (.store (.execute statement))
      fun answer => .done (answer >>= fun outcome => outcome.readAll Note.ofRow) :=
    Job.read_run built fun outcome => outcome.readAll Note.ofRow
  rw [asks] at runs
  obtain ⟨answer, answered, readAll⟩ := runs.answered
  cases answered with
  | store answered =>
      obtain ⟨kept, reads⟩ := answered.query built rfl
      obtain ⟨outcome, rfl, readable⟩ := Except.bind_eq_ok_iff.mp readAll
      refine ⟨by rw [kept], fun note member => ?_⟩
      obtain ⟨row, given, isNote⟩ := Outcome.mem_of_readAll readable member
      obtain ⟨number, hasSet, filed⟩ := Note.get?_set_of_ofRow isNote
      have selected : collation.truthAt row ⟨"set", .eq, .int id⟩ = .true :=
        (reads outcome rfl row given).2 _ rfl
      rw [Comparing.truthAt_eq_iff hasSet, hasSet] at selected
      cases selected
      exact filed

/-- Taking a set away leaves the rows of the notes that are in no set as they are. -/
theorem unfiled_withoutSet (collation : Collation) (database : Database) (natural : 0 ≤ id) :
    (((database.withoutSet collation id).rows .notes).filter fun row => row.IsFiledIn none) =
      (database.rows .notes).filter fun row => row.IsFiledIn none := by
  obtain ⟨_, keptNotes, _⟩ := database.rows_withoutSet collation id
  rw [keptNotes, List.filter_filter]
  refine List.filter_congr fun row _ => ?_
  by_cases unfiled : row.IsFiledIn none
  · obtain ⟨note, readable, inNone⟩ := unfiled
    -- Here the id has to be no negative number: a note is never in such a set and in none.
    have unselected : (Condition.equals 1 "set" (.int id)).selects collation.toComparing row =
        false := by
      refine Bool.eq_false_iff.mpr fun selected => ?_
      have filed := (Condition.selects_iff_isFiledIn readable natural 1).mp selected
      have inSet : note.set = some id := (Row.IsOf.iff_of_read readable).mp filed
      rw [inNone] at inSet
      cases inSet
    simp [unselected]
  · simp [unfiled]

/-- No operation on a set with an id that is no negative number touches a note in no set: the
notes that are read for it are all in it, and when it is deleted, the notes in no set stay as
they are. -/
theorem unfiled_stay_apart (collation : Collation) (natural : 0 ≤ id)
    (world : World Database) :
    (∀ limits offset found later,
      Work.Runs collation (notes limits id offset).run world (.done (.ok found)) later →
        ∀ note ∈ found, note.set = some id) ∧
    ∀ result later, Work.Runs collation (delete id).run world (.done result) later →
      ((later.store.rows .notes).filter fun row => row.IsFiledIn none) =
        (world.store.rows .notes).filter fun row => row.IsFiledIn none := by
  constructor
  · intro limits offset found later runs note member
    rw [(set_of_notes runs).2 note member, Note.setOfNumber, if_pos natural]
  · intro result later runs
    rcases delete_ends runs with ⟨_, rfl⟩ | ⟨_, rfl⟩
    · rfl
    · exact unfiled_withoutSet collation world.store natural

/-- The notes of a set on the shelves are read, and those in no set survive its deletion. -/
theorem unfiled_stay_apart_shelves :
    Succeeds OrderedCollation.exact.toCollation (notes {} 0 none) shelves
        [Note.blank 0 7 (some 0)] shelves ∧
      (∀ note ∈ [Note.blank 0 7 (some 0)], note.set = some 0) ∧
      ∃ later, Succeeds OrderedCollation.exact.toCollation (delete 0) shelves () later ∧
        ((later.store.rows .notes).filter fun row => row.IsFiledIn none) =
          [Note.blankRow 2 7 Note.noSet] := by
  obtain ⟨shown, kept⟩ := unfiled_stay_apart OrderedCollation.exact.toCollation
    (by decide : (0 : Int64) ≤ 0) shelves
  have listed : Succeeds OrderedCollation.exact.toCollation (notes {} 0 none) shelves
      [Note.blank 0 7 (some 0)] shelves :=
    .query rfl rfl (Query.yields_of_length_le_one (by decide)) rfl
  have deleted := delete_succeeds OrderedCollation.exact.toCollation shelves 0
  refine ⟨listed, shown _ _ _ _ listed, _, deleted, ?_⟩
  rw [kept _ _ deleted]
  decide

/-- The number for no set is one that the operations on a set take for the id of a set. The
note in no set is listed for it, and is taken away when it is deleted. -/
theorem unfiled_under_noSet :
    Succeeds OrderedCollation.exact.toCollation (notes {} Note.noSet none) shelves
        [Note.blank 2 7 none] shelves ∧
      (shelves.store.rows .notes).filter (fun row => row.IsFiledIn none) =
        [Note.blankRow 2 7 Note.noSet] ∧
      ∃ later, Succeeds OrderedCollation.exact.toCollation (delete Note.noSet) shelves () later ∧
        (later.store.rows .notes).filter (fun row => row.IsFiledIn none) = [] := by
  have listed : Succeeds OrderedCollation.exact.toCollation (notes {} Note.noSet none) shelves
      [Note.blank 2 7 none] shelves :=
    .query rfl rfl (Query.yields_of_length_le_one (by decide)) rfl
  refine ⟨listed, by decide, _, delete_succeeds OrderedCollation.exact.toCollation shelves _, ?_⟩
  dsimp only
  rw [(shelves.store.rows_withoutSet OrderedCollation.exact.toCollation Note.noSet).2.1]
  decide

end Notebook.Sets
