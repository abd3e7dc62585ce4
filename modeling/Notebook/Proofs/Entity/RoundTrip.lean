import Notebook.Entity.Note
import Notebook.Entity.NoteSet
import Notebook.Entity.User
import Notebook.Proofs.Except
import Notebook.Proofs.Json.Record

/-!
# Entities read back from their JSON

The text that an entity is written as is read as the entity. Its fields are
written under their names and in declared order; each is read back on its own,
and the entity from what was read.

The one exception is the timestamp of a note in a leap second that is not at the
end of a minute (`Note.not_read_back_of_stray_leap`): the note is read with the
second after it.
-/

namespace Notebook

namespace User

/-- The tree of a written user is read as the user. -/
theorem ofScan_scanned (user : User) : ofScan user.toJson.scanned = .ok user := by
  have id : idField.read (Json.int user.id.toInt).scanned = .ok user.id :=
    Json.Scan.int64_scanned user.id
  have name : nameField.read (Json.text user.name).scanned = .ok user.name :=
    Json.Scan.string_scanned user.name
  have email : emailField.read (Json.text user.email).scanned = .ok user.email :=
    Json.Scan.string_scanned user.email
  have gid : gidField.read (Json.text user.gid).scanned = .ok user.gid :=
    Json.Scan.string_scanned user.gid
  refine Except.bind_eq_ok_iff.mpr ⟨_, Json.Scan.record_scanned ?fit ?once, ?fields⟩
  case fit =>
    simp only [List.forall_mem_cons]
    exact ⟨Json.Field.check_read id, Json.Field.check_read name, Json.Field.check_read email,
      Json.Field.check_read gid, by simp⟩
  case once =>
    change ["id", "name", "email", "gid"].Nodup
    decide
  case fields =>
    refine Except.bind_eq_ok_iff.mpr ⟨_, Json.Given.required_eq rfl id, ?_⟩
    refine Except.bind_eq_ok_iff.mpr ⟨_, Json.Given.required_eq rfl name, ?_⟩
    refine Except.bind_eq_ok_iff.mpr ⟨_, Json.Given.required_eq rfl email, ?_⟩
    exact Except.bind_eq_ok_iff.mpr ⟨_, Json.Given.required_eq rfl gid, rfl⟩

/-- A user is read back from the text of its JSON. -/
theorem readWhole_toJson (user : User) :
    Json.readWhole ofScan user.toJson.render = .ok user := by
  rw [Json.readWhole_render, ofScan_scanned]
  apply Json.Moderate.object
  simp only [List.forall_mem_cons]
  exact ⟨.int64 user.id, .text _, .text _, .text _, by simp⟩

end User

/-- The name of a set type is read as the type. -/
theorem SetType.ofScan_scanned (type : SetType) :
    SetType.ofScan (Json.text type.name).scanned = .ok type := by
  cases type <;> rfl

namespace NoteSet

/-- The tree of a written set is read as the set. -/
theorem ofScan_scanned (set : NoteSet) : ofScan set.toJson.scanned = .ok set := by
  have id : idField.read (Json.int set.id.toInt).scanned = .ok set.id :=
    Json.Scan.int64_scanned set.id
  have owner : ownerField.read (Json.int set.owner.toInt).scanned = .ok set.owner :=
    Json.Scan.int64_scanned set.owner
  have name : nameField.read (Json.text set.name).scanned = .ok set.name :=
    Json.Scan.string_scanned set.name
  have type : typeField.read (Json.text set.type.name).scanned = .ok set.type :=
    SetType.ofScan_scanned set.type
  refine Except.bind_eq_ok_iff.mpr ⟨_, Json.Scan.record_scanned ?fit ?once, ?fields⟩
  case fit =>
    simp only [List.forall_mem_cons]
    exact ⟨Json.Field.check_read id, Json.Field.check_read owner, Json.Field.check_read name,
      Json.Field.check_read type, by simp⟩
  case once =>
    change ["id", "owner", "name", "type"].Nodup
    decide
  case fields =>
    refine Except.bind_eq_ok_iff.mpr ⟨_, Json.Given.required_eq rfl id, ?_⟩
    refine Except.bind_eq_ok_iff.mpr ⟨_, Json.Given.required_eq rfl owner, ?_⟩
    refine Except.bind_eq_ok_iff.mpr ⟨_, Json.Given.required_eq rfl name, ?_⟩
    exact Except.bind_eq_ok_iff.mpr ⟨_, Json.Given.required_eq rfl type, rfl⟩

/-- A set is read back from the text of its JSON. -/
theorem readWhole_toJson (set : NoteSet) :
    Json.readWhole ofScan set.toJson.render = .ok set := by
  rw [Json.readWhole_render, ofScan_scanned]
  apply Json.Moderate.object
  simp only [List.forall_mem_cons]
  exact ⟨.int64 set.id, .int64 set.owner, .text _, .text _, by simp⟩

end NoteSet

namespace Note

/-- The note with its timestamp settled. -/
def settled (note : Note) : Note :=
  { note with timestamp := note.timestamp.settled }

/-- A note stays as it is if its timestamp is in no leap second but one at the end of a minute. -/
theorem settled_eq_self_iff {note : Note} :
    note.settled = note ↔ note.timestamp.LeapsAtMinuteEnd := by
  rw [← Timestamp.settled_eq_self_iff]
  constructor
  · exact fun same => congrArg Note.timestamp same
  · intro same
    rw [settled, same]

/-- The tree of a written note is read as the note settled. -/
theorem ofScan_scanned (note : Note) : ofScan note.toJson.scanned = .ok note.settled := by
  have id : idField.read (Json.int note.id.toInt).scanned = .ok note.id :=
    Json.Scan.int64_scanned note.id
  have owner : ownerField.read (Json.int note.owner.toInt).scanned = .ok note.owner :=
    Json.Scan.int64_scanned note.owner
  have set : setField.read ((note.set.map fun set => Json.int set.toInt).getD .null).scanned =
      .ok note.set :=
    Json.Scan.optional_int64_scanned note.set
  have timestamp : timestampField.read (Json.text note.timestamp.text).scanned =
      .ok note.timestamp.settled :=
    Json.Scan.timestamp_scanned note.timestamp
  have body : bodyField.read (Json.text note.body).scanned = .ok note.body :=
    Json.Scan.string_scanned note.body
  have marked : markedField.read (Json.bool note.marked).scanned = .ok note.marked :=
    Json.Scan.boolean_scanned note.marked
  refine Except.bind_eq_ok_iff.mpr ⟨_, Json.Scan.record_scanned ?fit ?once, ?fields⟩
  case fit =>
    simp only [List.forall_mem_cons]
    exact ⟨Json.Field.check_read id, Json.Field.check_read owner, Json.Field.check_read set,
      Json.Field.check_read timestamp, Json.Field.check_read body,
      Json.Field.check_read marked, by simp⟩
  case once =>
    change ["id", "owner", "set", "timestamp", "body", "marked"].Nodup
    decide
  case fields =>
    refine Except.bind_eq_ok_iff.mpr ⟨_, Json.Given.required_eq rfl id, ?_⟩
    refine Except.bind_eq_ok_iff.mpr ⟨_, Json.Given.required_eq rfl owner, ?_⟩
    refine Except.bind_eq_ok_iff.mpr ⟨_, Json.Given.nullable_eq rfl set, ?_⟩
    refine Except.bind_eq_ok_iff.mpr ⟨_, Json.Given.required_eq rfl timestamp, ?_⟩
    refine Except.bind_eq_ok_iff.mpr ⟨_, Json.Given.required_eq rfl body, ?_⟩
    exact Except.bind_eq_ok_iff.mpr ⟨_, Json.Given.required_eq rfl marked, rfl⟩

/-- What is read from the text of the JSON of a note is the note settled. -/
theorem readWhole_toJson (note : Note) :
    Json.readWhole ofScan note.toJson.render = .ok note.settled := by
  have set : Json.Moderate ((note.set.map fun set => Json.int set.toInt).getD .null).written := by
    cases note.set with
    | none => exact .cons (by simp) .nil
    | some set => exact .int64 set
  rw [Json.readWhole_render, ofScan_scanned]
  apply Json.Moderate.object
  simp only [List.forall_mem_cons]
  exact ⟨.int64 note.id, .int64 note.owner, set, .text _, .text _, .cons (by simp) .nil, by simp⟩

end Note

/-- Users and sets are read back from the text of their JSON, whatever their ids and texts are.
Notes are, too, with any set or none, exactly if their timestamp is in no leap second but one at
the end of a minute. -/
theorem entities_round_trip :
    (∀ user : User, Json.readWhole User.ofScan user.toJson.render = .ok user) ∧
      (∀ set : NoteSet, Json.readWhole NoteSet.ofScan set.toJson.render = .ok set) ∧
      ∀ note : Note, Json.readWhole Note.ofScan note.toJson.render = .ok note ↔
        note.timestamp.LeapsAtMinuteEnd := by
  refine ⟨User.readWhole_toJson, NoteSet.readWhole_toJson, fun note => ?_⟩
  rw [Note.readWhole_toJson, Except.ok.injEq, Note.settled_eq_self_iff]

/-- A note of a leap second in the middle of a minute is read back as another one, of the second
after it. -/
theorem Note.not_read_back_of_stray_leap :
    let note : Note := ⟨1, 2, none, .strayLeap, "milk", false⟩
    Json.readWhole Note.ofScan note.toJson.render =
        .ok ⟨1, 2, none, ⟨⟨2024, 5, 6, by decide⟩, 7, 8, 31, 500000000⟩, "milk", false⟩ ∧
      Json.readWhole Note.ofScan note.toJson.render ≠ .ok note := by
  intro note
  rw [Note.readWhole_toJson]
  refine ⟨congrArg Except.ok (by decide), fun same => ?_⟩
  have settled : note.settled = note := Except.ok.inj same
  exact absurd (Note.settled_eq_self_iff.mp settled) (by decide)

end Notebook
