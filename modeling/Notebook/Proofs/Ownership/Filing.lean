import Mathlib.Data.List.Nodup
import Notebook.Proofs.Ownership.Permission
import Notebook.Proofs.Store.Effect

/-!
# Filed databases

No key of the store says whose set a note is filed in; that every note is in no set or in a
set of its own owner is a property of the whole history (`Database.Filed`).

`Change` says once what one action for one owner can do to a database, and all that has to be
known of an action follows from it: accounts stay, things of others stay, filed databases
stay filed, and every row that is changed or removed was the owner's.
-/

namespace Notebook

namespace Database

/-! ### What is stored -/

/-- There is a user with this id and this subject. -/
def IsAccount (database : Database) (id : Int64) (subject : String) : Prop :=
  ∃ row ∈ database.rows .users,
    row.get? "id" = some (.int id) ∧ row.get? "gid" = some (.text subject)

/-- There is a thing with this id, and it has this owner. -/
def Owns (database : Database) (kind : Belonging) (owner id : Int64) : Prop :=
  ∃ row ∈ database.rows kind.table,
    row.get? "id" = some (.int id) ∧ row.get? "owner" = some (.int owner)

/-- The number stands for no set, or it is the id of a set of this owner. -/
def MayHold (database : Database) (owner set : Int64) : Prop :=
  set = Note.noSet ∨ database.Owns .set owner set

/-- The row is that of a note, which belongs to a user and is filed in no set or in one of the
same user. -/
def IsFiled (database : Database) (row : Row) : Prop :=
  ∃ id owner set subject, row.get? "id" = some (.int id) ∧
    row.get? "owner" = some (.int owner) ∧ row.get? "set" = some (.int set) ∧
    database.IsAccount owner subject ∧ database.MayHold owner set

/-- The rows are those of users, sets and notes, and every note is filed in no set or in a
set of its owner, who is a user. -/
structure Filed (database : Database) : Prop where
  keyed : database.Keyed
  /-- Every user has an id and a subject. -/
  users : ∀ row ∈ database.rows .users, ∃ id subject,
    row.get? "id" = some (.int id) ∧ row.get? "gid" = some (.text subject)
  /-- Every set has an id, which is no negative number, and an owner. -/
  sets : ∀ row ∈ database.rows .sets, ∃ id owner, 0 ≤ id ∧
    row.get? "id" = some (.int id) ∧ row.get? "owner" = some (.int owner)
  notes : ∀ row ∈ database.rows .notes, database.IsFiled row

/-- Nothing is filed wrongly where nothing is stored. -/
theorem filed_empty : empty.Filed where
  keyed := ⟨fun _ => List.nodup_nil, List.nodup_nil⟩
  users := fun _ member => nomatch member
  sets := fun _ member => nomatch member
  notes := fun _ member => nomatch member

variable {database later : Database}

/-- Where all sets stay, every set that may hold a note may still hold it. -/
theorem MayHold.mono {owner set : Int64} (mayHold : database.MayHold owner set)
    (sets : ∀ id, database.Owns .set owner id → later.Owns .set owner id) :
    later.MayHold owner set :=
  mayHold.imp id (sets set)

/-- A note is filed as long as accounts and sets stay. -/
theorem IsFiled.mono {row : Row} (isFiled : database.IsFiled row)
    (accounts : ∀ id subject, database.IsAccount id subject → later.IsAccount id subject)
    (sets : ∀ owner id, database.Owns .set owner id → later.Owns .set owner id) :
    later.IsFiled row := by
  obtain ⟨id, owner, set, subject, hasId, hasOwner, hasSet, account, mayHold⟩ := isFiled
  exact ⟨id, owner, set, subject, hasId, hasOwner, hasSet, accounts _ _ account,
    mayHold.mono (sets owner)⟩

/-- A table has one row of an id. -/
theorem Keyed.row_unique (keyed : database.Keyed) {table : Table} {row other : Row}
    (member : row ∈ database.rows table) (member' : other ∈ database.rows table)
    (same : row.get? "id" = other.get? "id") : row = other :=
  List.inj_on_of_nodup_map (keyed.ids table) member member' same

/-- There is one user of an id, so there is one subject. -/
theorem Keyed.subject_unique (keyed : database.Keyed) {id : Int64} {subject other : String}
    (account : database.IsAccount id subject) (account' : database.IsAccount id other) :
    subject = other := by
  obtain ⟨row, member, hasId, hasSubject⟩ := account
  obtain ⟨row', member', hasId', hasSubject'⟩ := account'
  obtain rfl := keyed.row_unique member member' (hasId.trans hasId'.symm)
  rw [hasSubject] at hasSubject'
  cases hasSubject'
  rfl

/-- A thing has one owner. -/
theorem Keyed.owner_unique (keyed : database.Keyed) {kind : Belonging} {owner id : Int64}
    {row : Row} (owns : database.Owns kind owner id) (member : row ∈ database.rows kind.table)
    (same : row.get? "id" = some (.int id)) : row.get? "owner" = some (.int owner) := by
  obtain ⟨own, stored, hasId, hasOwner⟩ := owns
  rwa [keyed.row_unique member stored (same.trans hasId.symm)]

end Database

/-! ### Changes -/

/-- What an action for an owner can do to a database. It can remove something only if
`removes` says so. -/
inductive Change (owner : Int64) (before : Database) : (removes : Bool) → Database → Prop
  | none {removes : Bool} : Change owner before removes before
  | signUp {row : Row} {id : Int64} {subject : String} (hasId : row.get? "id" = some (.int id))
      (hasSubject : row.get? "gid" = some (.text subject)) :
      Change owner before false (before.replace .users (row :: before.rows .users))
  | createSet {row : Row} {id : Int64} (hasId : row.get? "id" = some (.int id))
      (natural : 0 ≤ id) (hasOwner : row.get? "owner" = some (.int owner)) :
      Change owner before false (before.replace .sets (row :: before.rows .sets))
  | postNote {row : Row} {id set : Int64} {subject : String}
      (account : before.IsAccount owner subject) (hasId : row.get? "id" = some (.int id))
      (hasOwner : row.get? "owner" = some (.int owner))
      (hasSet : row.get? "set" = some (.int set)) (mayHold : before.MayHold owner set) :
      Change owner before false (before.replace .notes (row :: before.rows .notes))
  | edit {kind : Belonging} {id : Int64} {chosen : Row → Bool} {change : Row → Row}
      (owns : before.Owns kind owner id)
      (byId : ∀ row ∈ before.rows kind.table,
        chosen row = true ↔ row.get? "id" = some (.int id))
      (keepsId : ∀ row, (change row).get? "id" = row.get? "id")
      (keepsOwner : ∀ row, (change row).get? "owner" = row.get? "owner")
      (movesTo : kind = .note → ∀ row set, row.get? "set" = some (.int set) →
        ∃ other, (change row).get? "set" = some (.int other) ∧
          (other = set ∨ before.MayHold owner other)) :
      Change owner before false (before.replace kind.table
        ((before.rows kind.table).map fun row => if chosen row then change row else row))
  | deleteNote {id : Int64} {chosen : Row → Bool} (owns : before.Owns .note owner id)
      (byId : ∀ row ∈ before.rows .notes, chosen row = true ↔ row.get? "id" = some (.int id)) :
      Change owner before true (before.replace .notes
        ((before.rows .notes).filter fun row => !chosen row))
  | deleteSet {id : Int64} {filed chosen : Row → Bool} (owns : before.Owns .set owner id)
      (bySet : ∀ row ∈ before.rows .notes, filed row = true ↔ row.get? "set" = some (.int id))
      (byId : ∀ row ∈ before.rows .sets, chosen row = true ↔ row.get? "id" = some (.int id)) :
      Change owner before true
        ((before.replace .notes ((before.rows .notes).filter fun row => !filed row)).replace .sets
          ((before.rows .sets).filter fun row => !chosen row))

namespace Change

variable {owner : Int64} {before after : Database} {removes : Bool}

/-- Things are not users. -/
theorem table_ne_users (kind : Belonging) : Table.users ≠ kind.table := by
  cases kind <;> decide

/-- No user goes away. -/
theorem users_subset (change : Change owner before removes after) :
    before.rows .users ⊆ after.rows .users := by
  have other {database : Database} {table : Table} {rows : List Row}
      (different : Table.users ≠ table) :
      database.rows .users ⊆ (database.replace table rows).rows .users :=
    fun _ => (Database.mem_rows_replace_ne different).mpr
  cases change with
  | none => exact List.Subset.refl _
  | signUp =>
      rw [Database.rows_replace_self]
      exact List.subset_cons_self _ _
  | createSet => exact other (by decide)
  | postNote => exact other (by decide)
  | edit => exact other (table_ne_users _)
  | deleteNote => exact other (by decide)
  | deleteSet => exact List.Subset.trans (other (by decide)) (other (by decide))

/-- Accounts stay. -/
theorem account_kept {id : Int64} {subject : String} (account : before.IsAccount id subject)
    (change : Change owner before removes after) : after.IsAccount id subject := by
  obtain ⟨row, member, shown⟩ := account
  exact ⟨row, change.users_subset member, shown⟩

/-- A row that a set was deleted with had its owner. -/
theorem owner_of_filed (filed : before.Filed) {id : Int64} (owns : before.Owns .set owner id)
    {row : Row} (member : row ∈ before.rows .notes) (hasSet : row.get? "set" = some (.int id)) :
    row.get? "owner" = some (.int owner) := by
  obtain ⟨_, other, set, _, _, hasOwner, hasSet', _, mayHold⟩ := filed.notes row member
  rw [hasSet] at hasSet'
  cases hasSet'
  obtain ⟨own, stored, hasId, hasOwner'⟩ := owns
  obtain ⟨id', _, natural, hasId', _⟩ := filed.sets own stored
  rw [hasId] at hasId'
  cases hasId'
  rcases mayHold with rfl | owns'
  · exact absurd natural (by decide)
  · have same := filed.keyed.owner_unique owns' stored hasId
    rw [hasOwner'] at same
    cases same
    exact hasOwner

/-- Things of others stay whatever is done, and all things stay if nothing is removed. -/
theorem owns_kept (filed : before.Filed) (change : Change owner before removes after)
    {kind : Belonging} {other id : Int64} (apart : removes = true → other ≠ owner)
    (owns : before.Owns kind other id) : after.Owns kind other id := by
  obtain ⟨row, member, hasId, hasOwner⟩ := owns
  have foreign (removing : removes = true) (own : row.get? "owner" = some (.int owner)) :
      False := by
    rw [hasOwner] at own
    cases own
    exact apart removing rfl
  -- It is enough that some row with this id and this owner is there afterwards.
  suffices there : ∃ later ∈ after.rows kind.table,
      later.get? "id" = row.get? "id" ∧ later.get? "owner" = row.get? "owner" by
    obtain ⟨later, stored, sameId, sameOwner⟩ := there
    exact ⟨later, stored, sameId.trans hasId, sameOwner.trans hasOwner⟩
  cases change with
  | none => exact ⟨row, member, rfl, rfl⟩
  | signUp => exact ⟨row, Database.mem_replace_cons member _ _, rfl, rfl⟩
  | createSet => exact ⟨row, Database.mem_replace_cons member _ _, rfl, rfl⟩
  | postNote => exact ⟨row, Database.mem_replace_cons member _ _, rfl, rfl⟩
  | @edit edited _ chosen change _ _ keepsId keepsOwner =>
      by_cases same : kind.table = edited.table
      · rw [same, Database.rows_replace_self]
        refine ⟨_, List.mem_map_of_mem (same ▸ member), ?_, ?_⟩
        · split
          · exact keepsId row
          · rfl
        · split
          · exact keepsOwner row
          · rfl
      · exact ⟨row, (Database.mem_rows_replace_ne same).mpr member, rfl, rfl⟩
  | deleteNote owns byId =>
      refine ⟨row, Database.mem_replace_filter member fun same => ?_, rfl, rfl⟩
      refine Bool.eq_false_iff.mpr fun chosen => ?_
      have isNote : kind = .note := Belonging.table_injective same
      subst isNote
      have named := (byId row member).mp chosen
      exact foreign rfl (filed.keyed.owner_unique owns member named)
  | deleteSet owns bySet byId =>
      refine ⟨row, Database.mem_replace_filter (Database.mem_replace_filter member ?_) ?_, rfl, rfl⟩
      · refine fun same => Bool.eq_false_iff.mpr fun chosen => ?_
        have isNote : kind = .note := Belonging.table_injective same
        subst isNote
        exact foreign rfl (owner_of_filed filed owns member ((bySet row member).mp chosen))
      · refine fun same => Bool.eq_false_iff.mpr fun chosen => ?_
        have isSet : kind = .set := Belonging.table_injective same
        subst isSet
        have named := (byId row member).mp chosen
        exact foreign rfl (filed.keyed.owner_unique owns member named)

/-- A user who is there was there before, or has just signed up. -/
theorem mem_users (filed : before.Filed) (change : Change owner before removes after) {row : Row}
    (member : row ∈ after.rows .users) :
    ∃ id subject, row.get? "id" = some (.int id) ∧ row.get? "gid" = some (.text subject) := by
  cases change with
  | none => exact filed.users row member
  | signUp hasId hasSubject =>
      rw [Database.rows_replace_self] at member
      rcases List.mem_cons.mp member with rfl | old
      · exact ⟨_, _, hasId, hasSubject⟩
      · exact filed.users row old
  | createSet => exact filed.users row (Database.mem_of_mem_replace (by decide) member)
  | postNote => exact filed.users row (Database.mem_of_mem_replace (by decide) member)
  | edit => exact filed.users row (Database.mem_of_mem_replace (table_ne_users _) member)
  | deleteNote => exact filed.users row (Database.mem_of_mem_replace (by decide) member)
  | deleteSet => exact filed.users row (Database.mem_of_mem_replace (by decide)
      (Database.mem_of_mem_replace (by decide) member))

/-- A set that is there was there before, maybe under another name, or is new. -/
theorem mem_sets (filed : before.Filed) (change : Change owner before removes after) {row : Row}
    (member : row ∈ after.rows .sets) :
    ∃ id owner, 0 ≤ id ∧ row.get? "id" = some (.int id) ∧
      row.get? "owner" = some (.int owner) := by
  cases change with
  | none => exact filed.sets row member
  | signUp => exact filed.sets row (Database.mem_of_mem_replace (by decide) member)
  | createSet hasId natural hasOwner =>
      rw [Database.rows_replace_self] at member
      rcases List.mem_cons.mp member with rfl | old
      · exact ⟨_, _, natural, hasId, hasOwner⟩
      · exact filed.sets row old
  | postNote => exact filed.sets row (Database.mem_of_mem_replace (by decide) member)
  | @edit kind _ chosen change _ _ keepsId keepsOwner =>
      cases kind with
      | note => exact filed.sets row (Database.mem_of_mem_replace (by decide) member)
      | set =>
          rw [Belonging.table, Database.rows_replace_self] at member
          obtain ⟨old, stored, rfl⟩ := List.mem_map.mp member
          obtain ⟨id, owner, natural, hasId, hasOwner⟩ := filed.sets old stored
          refine ⟨id, owner, natural, ?_, ?_⟩
          · split
            · exact (keepsId old).trans hasId
            · exact hasId
          · split
            · exact (keepsOwner old).trans hasOwner
            · exact hasOwner
  | deleteNote => exact filed.sets row (Database.mem_of_mem_replace (by decide) member)
  | deleteSet =>
      rw [Database.rows_replace_self] at member
      exact filed.sets row (List.mem_of_mem_filter member)

/-- A note stays filed when it is moved to a set that may hold it. -/
theorem isFiled_of_edit (filed : before.Filed) {id : Int64} (owns : before.Owns .note owner id)
    {change : Row → Row} {note : Row} (stored : note ∈ before.rows .notes)
    (named : note.get? "id" = some (.int id))
    (keepsId : (change note).get? "id" = note.get? "id")
    (keepsOwner : (change note).get? "owner" = note.get? "owner")
    (movesTo : ∀ set, note.get? "set" = some (.int set) →
      ∃ other, (change note).get? "set" = some (.int other) ∧
        (other = set ∨ before.MayHold owner other)) :
    before.IsFiled (change note) := by
  obtain ⟨noteId, holder, set, subject, hasId, hasOwner, hasSet, account, mayHold⟩ :=
    filed.notes note stored
  have own := filed.keyed.owner_unique owns stored named
  rw [hasOwner] at own
  cases own
  obtain ⟨into, hasInto, moved⟩ := movesTo set hasSet
  have mayHoldInto : before.MayHold owner into := by
    rcases moved with rfl | allowed
    · exact mayHold
    · exact allowed
  exact ⟨noteId, owner, into, subject, keepsId.trans hasId, keepsOwner.trans hasOwner, hasInto,
    account, mayHoldInto⟩

/-- A note that is there belongs to a user and is in a set that may hold it. -/
theorem mem_notes (filed : before.Filed) (change : Change owner before removes after) {row : Row}
    (member : row ∈ after.rows .notes) : after.IsFiled row := by
  have accounts (id : Int64) (subject : String) (account : before.IsAccount id subject) :
      after.IsAccount id subject := change.account_kept account
  have old (harmless : removes = false) (isFiled : before.IsFiled row) : after.IsFiled row :=
    isFiled.mono accounts fun _ _ owns => change.owns_kept filed (by simp [harmless]) owns
  cases change with
  | none => exact filed.notes row member
  | signUp => exact old rfl (filed.notes row (Database.mem_of_mem_replace (by decide) member))
  | createSet => exact old rfl (filed.notes row (Database.mem_of_mem_replace (by decide) member))
  | postNote account hasId hasOwner hasSet mayHold =>
      rw [Database.rows_replace_self] at member
      rcases List.mem_cons.mp member with rfl | before
      · exact old rfl ⟨_, owner, _, _, hasId, hasOwner, hasSet, account, mayHold⟩
      · exact old rfl (filed.notes row before)
  | @edit kind id chosen change owns byId keepsId keepsOwner movesTo =>
      cases kind with
      | set => exact old rfl (filed.notes row (Database.mem_of_mem_replace (by decide) member))
      | note =>
          rw [Belonging.table, Database.rows_replace_self] at member
          obtain ⟨note, stored, rfl⟩ := List.mem_map.mp member
          apply old rfl
          cases named : chosen note with
          | false => exact filed.notes note stored
          | true =>
              exact isFiled_of_edit filed owns stored ((byId note stored).mp named) (keepsId note)
                (keepsOwner note) (movesTo rfl note)
  | deleteNote =>
      rw [Database.rows_replace_self] at member
      refine (filed.notes row (List.mem_of_mem_filter member)).mono accounts ?_
      rintro holder id ⟨set, stored, shown⟩
      exact ⟨set, (Database.mem_rows_replace_ne (by decide)).mpr stored, shown⟩
  | @deleteSet id filedIn chosen owns bySet byId =>
      have kept := Database.mem_of_mem_replace (by decide) member
      rw [Database.rows_replace_self] at kept
      obtain ⟨stored, unfiled⟩ := List.mem_filter.mp kept
      obtain ⟨noteId, holder, set, subject, hasId, hasOwner, hasSet, account, mayHold⟩ :=
        filed.notes row stored
      refine ⟨noteId, holder, set, subject, hasId, hasOwner, hasSet, accounts _ _ account,
        mayHold.imp_right ?_⟩
      -- The set of a note that stays is another than the one that is deleted.
      rintro ⟨own, storedSet, hasSetId, hasSetOwner⟩
      refine ⟨own, Database.mem_replace_filter (Database.mem_replace_filter storedSet ?_) ?_,
        hasSetId, hasSetOwner⟩
      · exact fun same => nomatch same
      · refine fun _ => Bool.eq_false_iff.mpr fun named => ?_
        have same := (byId own storedSet).mp named
        rw [hasSetId] at same
        cases same
        simp [(bySet row stored).mpr hasSet] at unfiled

/-- A change leaves a filed database filed, as long as the keys hold. -/
theorem filed (filed : before.Filed) (change : Change owner before removes after)
    (keyed : after.Keyed) :
    after.Filed where
  keyed := keyed
  users := fun _ member => change.mem_users filed member
  sets := fun _ member => change.mem_sets filed member
  notes := fun _ member => change.mem_notes filed member

end Change

end Notebook
