import Notebook.Proofs.Entity.Edit
import Notebook.Proofs.Ownership.Gate
import Notebook.Proofs.Ownership.SignIn

/-!
# Deeds

Everything that an endpoint may ask for a signed-in user is one of ten deeds, each with what
was found before it. As long as what was found is still so (`Conversation.Stands`), a deed
changes the database as the user may (`Deed.change`), touches only rows of the user
(`Deed.owner_of_touched`), and what it finds is so as well (`Deed.stands`).

What was found stays so until a thing of the user is removed, which is the last deed of the
request that removes it.
-/

namespace Notebook

open Notebook.Sql

/-! ### What was found -/

namespace Belonging

/-- The id of a thing. -/
def id : (kind : Belonging) → kind.Thing → Int64
  | .note => Note.id
  | .set => NoteSet.id

/-- A thing has the id and the owner of its row. -/
theorem get?_of_read {kind : Belonging} {row : Row} {thing : kind.Thing}
    (readable : kind.read row = .ok thing) :
    row.get? "id" = some (.int (kind.id thing)) ∧
      row.get? "owner" = some (.int (kind.owner thing)) := by
  cases kind with
  | note =>
      obtain ⟨number, _, has⟩ := Note.ofRow_eq_ok_iff.mp readable
      simp only [Table.columns, Note.valuesWith, List.zip_cons_cons, Row.has_cons_iff] at has
      exact ⟨has.1, has.2.1⟩
  | set =>
      have has := NoteSet.ofRow_eq_ok_iff.mp readable
      simp only [Table.columns, NoteSet.values, List.zip_cons_cons, Row.has_cons_iff] at has
      exact ⟨has.1, has.2.1⟩

end Belonging

/-- What was found for a user is so: the user is there, all that was found to be the user's
is, and all pages of notes were the user's. -/
structure Conversation.Stands (said : Conversation) (identity : NewUser) (user : User)
    (database : Database) : Prop where
  account : database.IsAccount user.id identity.gid
  found : ∀ kind id thing, said.Saw kind id thing → kind.owner thing = user.id →
    kind.id thing = id ∧ database.Owns kind user.id id
  pages : ∀ query outcome, said.Got query outcome → query.outputs = ["*"] →
    query.table = .notes → query.order ≠ none →
      ∀ row ∈ outcome.rows, row.get? "owner" = some (.int user.id)

namespace Conversation.Stands

variable {said : Conversation} {identity : NewUser} {user : User} {database later : Database}

/-- Nothing was found before anything was said. -/
theorem nil (account : database.IsAccount user.id identity.gid) :
    Conversation.Stands [] identity user database where
  account := account
  found := fun _ _ _ ⟨_, ⟨_, _, member⟩, _⟩ => nomatch member
  pages := fun _ _ ⟨_, _, member⟩ => nomatch member

/-- What was found to be the user's is. -/
theorem owns (stands : said.Stands identity user database) {kind : Belonging} {id : Int64}
    (saw : said.SawOwned kind user.id id) : database.Owns kind user.id id := by
  obtain ⟨thing, seen, own⟩ := saw
  exact (stands.found kind id thing seen own).2

/-- As long as accounts and the things of the user stay, what was found is so. -/
theorem mono (stands : said.Stands identity user database)
    (accounts : ∀ id subject, database.IsAccount id subject → later.IsAccount id subject)
    (things : ∀ kind id, database.Owns kind user.id id → later.Owns kind user.id id) :
    said.Stands identity user later where
  account := accounts _ _ stands.account
  found := fun kind id thing saw own =>
    ⟨(stands.found kind id thing saw own).1, things _ _ (stands.found kind id thing saw own).2⟩
  pages := stands.pages

end Conversation.Stands

/-! ### Deeds -/

/-- What may be done for a user after what was said. Only a deletion removes something. -/
inductive Deed (limits : Limits) (user : User) (said : Conversation) :
    (removes : Bool) → Action → Prop
  | look {kind : Belonging} {id : Int64} {action : Action} (looks : action.LooksUp kind id) :
      Deed limits user said false action
  | clock : Deed limits user said false .now
  | listNotes {listing : NoteListing} {action : Action}
      (queries : action.Queries (Notes.pageQuery limits
        (Notes.listingCondition user.id listing) listing.order listing.offset)) :
      Deed limits user said false action
  | listSets {offset : Option UInt64} {action : Action}
      (queries : action.Queries (Sets.listQuery limits user.id offset)) :
      Deed limits user said false action
  | listSetNotes {id : Int64} {offset : Option UInt64} {action : Action}
      (saw : said.SawOwned .set user.id id)
      (queries : action.Queries (Notes.pageQuery limits (.eq "set" (.int id)) .asc offset)) :
      Deed limits user said false action
  | postNote {note : Note} {action : Action} (own : note.owner = user.id)
      (files : ∀ id, note.set = some id → ∃ requested set,
        said.Saw .set requested set ∧ set.owner = user.id ∧ id = set.id)
      (allocates : action.Allocates .notes fun id => { note with id }.values) :
      Deed limits user said false action
  | createSet {set : NoteSet} {action : Action} (own : set.owner = user.id)
      (allocates : action.Allocates .sets fun id => { set with id }.values) :
      Deed limits user said false action
  | edit {kind : Belonging} {id : Int64} {assignments : List (String × Value)}
      {action : Action} (saw : said.SawOwned kind user.id id)
      (keepsId : assignments.lookup "id" = none)
      (keepsOwner : assignments.lookup "owner" = none)
      (files : kind = .note → ∀ value, assignments.lookup "set" = some value →
        ∃ number, value = .int number ∧
          (number = Note.noSet ∨ said.SawOwned .set user.id number))
      (updates : action.Updates kind.table id assignments) :
      Deed limits user said false action
  | deleteNote {id : Int64} {action : Action} (saw : said.SawOwned .note user.id id)
      (deletes : action.DeletesNote id) : Deed limits user said true action
  | deleteSet {id : Int64} {action : Action} (saw : said.SawOwned .set user.id id)
      (deletes : action.DeletesSet id) : Deed limits user said true action

/-- Whether an endpoint removes something. -/
def Endpoint.removes : Endpoint → Bool
  | .deleteNote _ => true
  | .deleteSet _ => true
  | _ => false

/-- Changes of a note assign neither its id nor its owner, and assign the number of the set
that they name. -/
theorem NoteChanges.lookup_assignments (changes : NoteChanges) :
    changes.assignments.lookup "id" = none ∧ changes.assignments.lookup "owner" = none ∧
      changes.assignments.lookup "set" =
        changes.set.map fun set => .int (Note.setNumber set) := by
  have given := @Table.lookup_assignments .notes changes
  refine ⟨given "id", given "owner", (given "set").trans ?_⟩
  exact Option.map_map _ _ changes.set

/-- Changes of a set assign neither its id nor its owner. -/
theorem NoteSetChanges.lookup_assignments (changes : NoteSetChanges) :
    changes.assignments.lookup "id" = none ∧ changes.assignments.lookup "owner" = none :=
  have given := @Table.lookup_assignments .sets changes
  ⟨given "id", given "owner"⟩

section Permitted

variable {limits : Limits} {request : HttpRequest} {user : User} {said : Conversation}
  {endpoint : Endpoint} {action : Action}

/-- Changes of a note move it out of its set or into one that was found to be the user's. -/
theorem Fileable.files {changes : NoteChanges} (fileable : Fileable user said changes)
    {value : Value} (assigned : changes.assignments.lookup "set" = some value) :
    ∃ number, value = .int number ∧
      (number = Note.noSet ∨ said.SawOwned .set user.id number) := by
  rw [changes.lookup_assignments.2.2] at assigned
  obtain ⟨set, named, rfl⟩ := Option.map_eq_some_iff.mp assigned
  cases set with
  | none => exact ⟨_, rfl, .inl rfl⟩
  | some id => exact ⟨_, rfl, .inr (fileable id named)⟩

/-- What is permitted is a deed, and a removal is the second thing that is asked. -/
theorem Permits.deed (permits : Permits limits request user said endpoint action) :
    ∃ removes, Deed limits user said removes action ∧
      (removes = true → endpoint.removes = true ∧ said.length = 1) := by
  have harmless (deed : Deed limits user said false action) :
      ∃ removes, Deed limits user said removes action ∧
        (removes = true → endpoint.removes = true ∧ said.length = 1) :=
    ⟨false, deed, fun removes => nomatch removes⟩
  cases endpoint with
  | ping => exact permits.elim
  | authStatus => exact permits.elim
  | listNotes =>
      obtain ⟨listing, queries⟩ := permits
      exact harmless (.listNotes queries)
  | postNote =>
      rcases permits with ⟨_, set, _, _, looks⟩ | rfl | ⟨note, ⟨own, files⟩, allocates⟩
      · exact harmless (.look looks)
      · exact harmless .clock
      · refine harmless (.postNote own (fun id filed => ?_) allocates)
        obtain ⟨_, requested, set, _, _, saw, owner, same⟩ := files id filed
        exact ⟨requested, set, saw, owner, same⟩
  | getNote =>
      obtain ⟨id, _, looks⟩ := permits
      exact harmless (.look looks)
  | updateNote =>
      rcases permits with
        ⟨id, _, looks | ⟨saw, changes, _, ⟨set, _, looks⟩ | ⟨fileable, updates⟩⟩⟩
      · exact harmless (.look looks)
      · exact harmless (.look looks)
      · obtain ⟨keepsId, keepsOwner, _⟩ := changes.lookup_assignments
        exact harmless (.edit saw keepsId keepsOwner (fun _ _ => fileable.files) updates)
  | deleteNote =>
      rcases permits with ⟨id, _, ⟨_, looks⟩ | ⟨second, saw, deletes⟩⟩
      · exact harmless (.look looks)
      · exact ⟨true, .deleteNote saw deletes, fun _ => ⟨rfl, second⟩⟩
  | listSets =>
      obtain ⟨offset, queries⟩ := permits
      exact harmless (.listSets queries)
  | createSet =>
      obtain ⟨set, own, allocates⟩ := permits
      exact harmless (.createSet own allocates)
  | getSet =>
      obtain ⟨id, _, looks⟩ := permits
      exact harmless (.look looks)
  | updateSet =>
      rcases permits with ⟨id, _, looks | ⟨saw, changes, _, updates⟩⟩
      · exact harmless (.look looks)
      · obtain ⟨keepsId, keepsOwner⟩ := changes.lookup_assignments
        exact harmless (.edit saw keepsId keepsOwner (fun isNote => nomatch isNote) updates)
  | deleteSet =>
      rcases permits with ⟨id, _, ⟨_, looks⟩ | ⟨second, saw, deletes⟩⟩
      · exact harmless (.look looks)
      · exact ⟨true, .deleteSet saw deletes, fun _ => ⟨rfl, second⟩⟩
  | listSetNotes =>
      rcases permits with ⟨id, _, looks | ⟨saw, offset, queries⟩⟩
      · exact harmless (.look looks)
      · exact harmless (.listSetNotes saw queries)

/-- Where something is removed, nothing is asked after the second exchange. -/
theorem not_permits_of_removes (removes : endpoint.removes = true)
    (exhausted : said.length = 2) : ¬ Permits limits request user said endpoint action := by
  cases endpoint with
  | deleteNote =>
      rintro ⟨id, _, ⟨rfl, _⟩ | ⟨second, _⟩⟩
      · cases exhausted
      · omega
  | deleteSet =>
      rintro ⟨id, _, ⟨rfl, _⟩ | ⟨second, _⟩⟩
      · cases exhausted
      · omega
  | _ => cases removes

end Permitted

/-! ### What deeds do -/

/-- The next id of sets is no negative number. -/
theorem Database.Filed.natural_of_isNextId {database : Database} (filed : database.Filed)
    {id : Int64} (next : Database.IsNextId (database.rows .sets) id) : 0 ≤ id := by
  have greatest (number : Int)
      (maximal : ((database.rows .sets).filterMap idNumber?).max? = some number) : 0 ≤ number := by
    have member := List.max?_mem maximal
    obtain ⟨row, stored, named⟩ := List.mem_filterMap.mp member
    obtain ⟨own, _, natural, hasId, _⟩ := filed.sets row stored
    rw [idNumber?, hasId] at named
    cases named
    exact Int64.le_iff_toInt_le.mp natural
  rw [Int64.le_iff_toInt_le]
  unfold Database.IsNextId at next
  cases maximal : ((database.rows .sets).filterMap idNumber?).max? with
  | none =>
      rw [maximal] at next
      simp only [Option.getD_none] at next
      rw [next]
      decide
  | some number =>
      rw [maximal] at next
      have positive := greatest number maximal
      have zero : (0 : Int64).toInt = 0 := rfl
      simp only [Option.getD_some] at next
      omega

section Deeds

variable {collation : Collation} {limits : Limits} {identity : NewUser} {user : User}
  {said : Conversation} {world later : World Database} {action : Action}
  {answer : action.Answer} {removes : Bool}

/-- A column with an integer equals an integer exactly if that is what it has. -/
theorem Sql.Condition.selects_iff_get? {comparing : Comparing} {row : Row} {place : Nat}
    {column : String} {stored given : Int64} (found : row.get? column = some (.int stored)) :
    (equals place column (.int given)).selects comparing row = true ↔
      row.get? column = some (.int given) := by
  rw [selects_int_iff found, found]
  simp

/-- The row of a thing is selected by an id exactly if it has it. -/
theorem Database.Filed.selects_id_iff {database : Database} (filed : database.Filed)
    {comparing : Comparing} {kind : Belonging} {place : Nat} {id : Int64} {row : Row}
    (member : row ∈ database.rows kind.table) :
    (Condition.equals place "id" (.int id)).selects comparing row = true ↔
      row.get? "id" = some (.int id) := by
  cases kind with
  | note =>
      obtain ⟨_, _, _, _, hasId, _⟩ := filed.notes row member
      exact Condition.selects_iff_get? hasId
  | set =>
      obtain ⟨_, _, _, hasId, _⟩ := filed.sets row member
      exact Condition.selects_iff_get? hasId

/-- The row of a note is selected by a set exactly if it is filed in it. -/
theorem Database.Filed.selects_set_iff {database : Database} (filed : database.Filed)
    {comparing : Comparing} {place : Nat} {id : Int64} {row : Row}
    (member : row ∈ database.rows .notes) :
    (Condition.equals place "set" (.int id)).selects comparing row = true ↔
      row.get? "set" = some (.int id) := by
  obtain ⟨_, _, _, _, _, _, hasSet, _⟩ := filed.notes row member
  exact Condition.selects_iff_get? hasSet

/-- A column that is not assigned keeps its value. -/
theorem Row.get?_assign_of_lookup_eq_none (row : Row) {assignments : List (String × Value)}
    {column : String} (unassigned : assignments.lookup column = none) :
    (row.assign assignments).get? column = row.get? column := by
  rw [Row.get?_assign, unassigned]
  simp

/-- A set that a new note is filed in may hold it. -/
theorem Conversation.Stands.mayHold {database : Database}
    (stands : said.Stands identity user database) {note : Note}
    (files : ∀ id, note.set = some id → ∃ requested set,
      said.Saw .set requested set ∧ set.owner = user.id ∧ id = set.id) :
    database.MayHold user.id (Note.setNumber note.set) := by
  cases named : note.set with
  | none => exact .inl rfl
  | some number =>
      obtain ⟨requested, set, saw, owner, rfl⟩ := files number named
      obtain ⟨same, owns⟩ := stands.found .set requested set saw owner
      have filedIn : Note.setNumber (some set.id) = requested := same
      exact .inr (filedIn ▸ owns)

/-- Changes leave a note in its set or move it to one that may hold it. -/
theorem Conversation.Stands.moves {database : Database}
    (stands : said.Stands identity user database) {assignments : List (String × Value)}
    (files : ∀ value, assignments.lookup "set" = some value →
      ∃ number, value = .int number ∧ (number = Note.noSet ∨ said.SawOwned .set user.id number))
    (row : Row) {set : Int64} (hasSet : row.get? "set" = some (.int set)) :
    ∃ other, (row.assign assignments).get? "set" = some (.int other) ∧
      (other = set ∨ database.MayHold user.id other) := by
  cases assigned : assignments.lookup "set" with
  | none => exact ⟨set, (row.get?_assign_of_lookup_eq_none assigned).trans hasSet, .inl rfl⟩
  | some value =>
      obtain ⟨into, rfl, allowed⟩ := files value assigned
      refine ⟨into, ?_, .inr (allowed.imp_right stands.owns)⟩
      rw [Row.get?_assign, assigned, hasSet]
      rfl

/-- A deed changes the database as the user may. -/
theorem Deed.change (deed : Deed limits user said removes action)
    (stands : said.Stands identity user world.store) (filed : world.store.Filed)
    (answered : action.Answered collation world answer later) :
    Change user.id world.store removes later.store := by
  have reads {query : Select} (star : query.outputs = ["*"]) (queries : action.Queries query) :
      later.store = world.store := by
    obtain ⟨statement, built, rfl⟩ := queries
    cases answered with
    | store answered => exact (answered.query built star).1
  have unchanged (same : later.store = world.store) :
      Change user.id world.store removes later.store := by
    rw [same]
    exact .none
  have byId (kind : Belonging) {place : Nat} {id : Int64} (row : Row)
      (member : row ∈ world.store.rows kind.table) :
      (Condition.equals place "id" (.int id)).selects collation.toComparing row = true ↔
        row.get? "id" = some (.int id) := filed.selects_id_iff member
  cases deed with
  | look looks => exact unchanged (reads rfl looks)
  | clock =>
      cases answered
      exact .none
  | listNotes queries => exact unchanged (reads rfl queries)
  | listSets queries => exact unchanged (reads rfl queries)
  | listSetNotes _ queries => exact unchanged (reads rfl queries)
  | @postNote note _ own files allocates =>
      obtain ⟨query, built, rfl⟩ := allocates
      cases answered with
      | store answered =>
          rcases answered.allocate built with ⟨same, _⟩ | ⟨id, _, _, _, _, _, added⟩
          · exact unchanged same
          · obtain ⟨hasId, hasOwner, hasSet⟩ := Note.get?_row { note with id }
            dsimp only
            rw [added]
            exact .postNote stands.account hasId (own ▸ hasOwner) hasSet (stands.mayHold files)
  | @createSet set _ own allocates =>
      obtain ⟨query, built, rfl⟩ := allocates
      cases answered with
      | store answered =>
          rcases answered.allocate built with ⟨same, _⟩ | ⟨id, _, _, _, next, _, added⟩
          · exact unchanged same
          · obtain ⟨hasId, hasOwner⟩ := NoteSet.get?_row { set with id }
            dsimp only
            rw [added]
            exact .createSet hasId (filed.natural_of_isNextId next) (own ▸ hasOwner)
  | @edit kind id assignments _ saw keepsId keepsOwner files updates =>
      obtain ⟨statement, built, rfl⟩ := updates
      cases answered with
      | store answered =>
          rcases answered.update built with same | ⟨_, changed⟩
          · exact unchanged same
          · dsimp only
            rw [changed]
            exact .edit (stands.owns saw) (byId kind)
              (fun row => row.get?_assign_of_lookup_eq_none keepsId)
              (fun row => row.get?_assign_of_lookup_eq_none keepsOwner)
              fun isNote row _ hasSet => stands.moves (files isNote) row hasSet
  | deleteNote saw deletes =>
      obtain ⟨statement, built, rfl⟩ := deletes
      cases answered with
      | store answered =>
          rcases answered.delete built with same | changed
          · exact unchanged same
          · dsimp only
            rw [changed]
            exact .deleteNote (stands.owns saw) (byId .note)
  | deleteSet saw deletes =>
      obtain ⟨notes, set, builtNotes, builtSet, rfl⟩ := deletes
      cases answered with
      | store answered =>
          rcases answered.deleteBoth builtNotes builtSet with same | ⟨between, first, changed⟩
          · exact unchanged same
          · dsimp only
            rw [changed, first, Database.rows_replace_ne _ _ (by decide)]
            exact .deleteSet (stands.owns saw) (fun row member => filed.selects_set_iff member)
              (byId .set)

/-- Deeds leave the cache as it is. -/
theorem Deed.cache_eq (deed : Deed limits user said removes action)
    (answered : action.Answered collation world answer later) : later.cache = world.cache := by
  cases answered with
  | store => rfl
  | now => rfl
  | cache call =>
      cases deed with
      | look looks => obtain ⟨_, _, same⟩ := looks; cases same
      | listNotes queries => obtain ⟨_, _, same⟩ := queries; cases same
      | listSets queries => obtain ⟨_, _, same⟩ := queries; cases same
      | listSetNotes _ queries => obtain ⟨_, _, same⟩ := queries; cases same
      | postNote _ _ allocates => obtain ⟨_, _, same⟩ := allocates; cases same
      | createSet _ allocates => obtain ⟨_, _, same⟩ := allocates; cases same
      | edit _ _ _ _ updates => obtain ⟨_, _, same⟩ := updates; cases same
      | deleteNote _ deletes => obtain ⟨_, _, same⟩ := deletes; cases same
      | deleteSet _ deletes => obtain ⟨_, _, _, _, same⟩ := deletes; cases same

/-- Every row that a deed rewrites or removes is the user's. -/
theorem Deed.owner_of_touched {database : Database}
    (deed : Deed limits user said removes action)
    (stands : said.Stands identity user database) (filed : database.Filed)
    {table : Table} {row : Row} (member : row ∈ database.rows table)
    (touches : action.Touches collation table row) : row.get? "owner" = some (.int user.id) := by
  obtain ⟨sent, statement, same, sends, touches⟩ := touches
  have reads {query : Select} (star : query.outputs = ["*"]) (queries : action.Queries query) :
      False := by
    obtain ⟨asked, built, rfl⟩ := queries
    cases same
    cases sends
    exact Statement.not_touches_of_query built star touches
  have adds {grown : Table} {values : Int64 → List Value}
      (allocates : action.Allocates grown values) : False := by
    obtain ⟨query, built, rfl⟩ := allocates
    cases same
    exact Request.not_touches_of_allocate built sends touches
  have byId (kind : Belonging) {place : Nat} {id : Int64}
      (saw : said.SawOwned kind user.id id) (table : table = kind.table)
      (chosen : (Condition.equals place "id" (.int id)).selects collation.toComparing row = true) :
      row.get? "owner" = some (.int user.id) := by
    subst table
    exact filed.keyed.owner_unique (stands.owns saw) member
      ((filed.selects_id_iff member).mp chosen)
  cases deed with
  | look looks => exact (reads rfl looks).elim
  | clock => cases same
  | listNotes queries => exact (reads rfl queries).elim
  | listSets queries => exact (reads rfl queries).elim
  | listSetNotes _ queries => exact (reads rfl queries).elim
  | postNote _ _ allocates => exact (adds allocates).elim
  | createSet _ allocates => exact (adds allocates).elim
  | edit saw _ _ _ updates =>
      obtain ⟨asked, built, rfl⟩ := updates
      cases same
      cases sends
      obtain ⟨same, chosen⟩ := touches.update built
      exact byId _ saw same chosen
  | deleteNote saw deletes =>
      obtain ⟨asked, built, rfl⟩ := deletes
      cases same
      cases sends
      obtain ⟨same, chosen⟩ := touches.delete built
      exact byId .note saw same chosen
  | deleteSet saw deletes =>
      obtain ⟨notes, set, builtNotes, builtSet, rfl⟩ := deletes
      cases same
      rcases List.mem_cons.mp sends with rfl | last
      · obtain ⟨rfl, chosen⟩ := touches.delete builtNotes
        exact Change.owner_of_filed filed (stands.owns saw) member
          ((filed.selects_set_iff member).mp chosen)
      · obtain rfl := List.mem_singleton.mp last
        obtain ⟨same, chosen⟩ := touches.delete builtSet
        exact byId .set saw same chosen

/-- A page of notes that a deed gets is the user's. -/
theorem Deed.page {statement : Statement} {outcome : Outcome} {query : Select}
    {before after : Database} (deed : Deed limits user said removes (.store (.execute statement)))
    (stands : said.Stands identity user before) (filed : before.Filed)
    (answered : (Request.execute statement).Answered collation before (.ok outcome) after)
    (built : query.statement = .ok statement) (star : query.outputs = ["*"])
    (notes : query.table = .notes) (ordered : query.order ≠ none) :
    ∀ row ∈ outcome.rows, row.get? "owner" = some (.int user.id) := by
  have asks {other : Select}
      (queries : (Action.store (.execute statement)).Queries other) :
      other.statement = .ok statement := by
    obtain ⟨asked, built, same⟩ := queries
    cases same
    exact built
  intro row member
  cases deed with
  | look looks =>
      exact absurd (Select.order_unique built star (asks looks) rfl) ordered
  | listNotes queries =>
      obtain ⟨stored, chosen⟩ := (answered.query (asks queries) rfl).2 outcome rfl row member
      obtain ⟨_, owner, _, _, _, hasOwner, _⟩ := filed.notes row stored
      have own : collation.truthAt row ⟨"owner", .eq, .int user.id⟩ = .true :=
        ((Predicate.truth_andAll_eq_true_iff _ _ _).mp (chosen _ rfl)).1
      rw [Comparing.truthAt, hasOwner] at own
      rw [hasOwner, (collation.int_eq_int _ _).mp own]
  | listSets queries =>
      have table := Select.table_unique built (asks queries)
      rw [notes] at table
      cases table
  | @listSetNotes id offset _ saw queries =>
      obtain ⟨stored, chosen⟩ := (answered.query (asks queries) rfl).2 outcome rfl row member
      obtain ⟨_, _, set, _, _, _, hasSet, _⟩ := filed.notes row stored
      have within : collation.truthAt row ⟨"set", .eq, .int id⟩ = .true := chosen _ rfl
      rw [Comparing.truthAt, hasSet] at within
      obtain rfl := (collation.int_eq_int _ _).mp within
      exact Change.owner_of_filed filed (stands.owns saw) stored hasSet
  | postNote _ _ allocates =>
      obtain ⟨_, _, same⟩ := allocates
      cases same
  | createSet _ allocates =>
      obtain ⟨_, _, same⟩ := allocates
      cases same
  | edit _ _ _ _ updates =>
      obtain ⟨asked, updates, same⟩ := updates
      cases same
      have drafted : (Draft.update _ _ _).statement = .ok statement := updates
      exact absurd built (Draft.ne_select drafted rfl)
  | deleteNote _ deletes =>
      obtain ⟨asked, deletes, same⟩ := deletes
      cases same
      have drafted : (Draft.delete _ _).statement = .ok statement := deletes
      exact absurd built (Draft.ne_select drafted rfl)
  | deleteSet _ deletes =>
      obtain ⟨_, _, _, _, same⟩ := deletes
      cases same

/-- As long as nothing is removed, a deed leaves all that was found as it is, and what it
finds is so. -/
theorem Deed.stands (deed : Deed limits user said false action)
    (stands : said.Stands identity user world.store) (filed : world.store.Filed)
    (answered : action.Answered collation world answer later) :
    Conversation.Stands (said ++ [⟨action, answer⟩]) identity user later.store := by
  have change := deed.change stands filed answered
  have old : said.Stands identity user later.store :=
    stands.mono (fun _ _ account => change.account_kept account)
      (fun _ _ owns => change.owns_kept filed (fun removes => nomatch removes) owns)
  refine ⟨old.account, ?_, ?_⟩
  · rintro kind id thing ⟨outcome, got, first⟩ own
    rcases got.of_append with before | ⟨statement, built, last⟩
    · exact old.found kind id thing ⟨outcome, before, first⟩ own
    · cases last
      cases answered with
      | store answered =>
          obtain ⟨row, member, readable⟩ := Outcome.mem_of_readFirst first
          obtain ⟨hasId, hasOwner⟩ := Belonging.get?_of_read readable
          obtain ⟨same, stored⟩ := answered.query built (kind.outputs_lookup id)
          obtain ⟨stored, chosen⟩ := stored outcome rfl row member
          have named : collation.truthAt row ⟨"id", .eq, .int id⟩ = .true := chosen _ rfl
          rw [Comparing.truthAt, hasId] at named
          have number : kind.id thing = id := (collation.int_eq_int _ _).mp named
          refine ⟨number, row, ?_, number ▸ hasId, own ▸ hasOwner⟩
          dsimp only
          rw [same]
          exact stored
  · intro query outcome got star notes ordered
    rcases got.of_append with before | ⟨statement, built, last⟩
    · exact old.pages query outcome before star notes ordered
    · cases last
      cases answered with
      | store answered => exact deed.page stands filed answered built star notes ordered

end Deeds

end Notebook
