import Notebook.Proofs.Entity.Edit
import Notebook.Proofs.Identity.Freshness

/-!
# One account for each subject

However sign-ins, resolutions and edits overlap: a subject has one account at most, and whoever
signs in with the subject gets that account. Nothing that is asked for takes an account away
(`Users.Asks.isAccount`), so what was once true of an account stays true: it may be known from
the cache, even under a name that it has no longer, from reading it, or from creating it
(`Directory.Accounted`).
-/

namespace Notebook

open Users
open Service (plain)

/-! ### Accounts stay -/

namespace UserChanges

/-- Only names and addresses are assigned. -/
theorem lookup_assignments {changes : UserChanges} {column : String} (notName : column ≠ "name")
    (notEmail : column ≠ "email") : changes.assignments.lookup column = none := by
  have absent : (Table.given .users changes).lookup column = none :=
    Row.lookup_eq_none (by simp [Table.given, notName, notEmail])
  have given := @Table.lookup_assignments .users changes column
  rwa [absent] at given

end UserChanges

namespace Database

variable {database : Database}

/-- No two rows of users have one subject. -/
theorem Keyed.countP_subject_le_one (keyed : database.Keyed) (subject : String) :
    (database.rows .users).countP (fun row => row.get? "gid" = some (.text subject)) ≤ 1 := by
  have once := List.nodup_iff_count_le_one.mp keyed.subjects (some (.text subject))
  rw [List.count_eq_countP, List.countP_map] at once
  refine Nat.le_trans (Nat.le_of_eq (List.countP_congr fun row _ => ?_)) once
  simp

/-- A subject has one id. -/
theorem Keyed.id_unique (keyed : database.Keyed) {id other : Int64} {subject : String}
    (account : database.IsAccount id subject) (account' : database.IsAccount other subject) :
    id = other := by
  obtain ⟨row, member, hasId, hasSubject⟩ := account
  obtain ⟨row', member', hasId', hasSubject'⟩ := account'
  obtain rfl := List.inj_on_of_nodup_map keyed.subjects member member'
    (hasSubject.trans hasSubject'.symm)
  rw [hasId] at hasId'
  cases hasId'
  rfl

end Database

section Answers

variable {collation : Collation} {call : Call} {said : Conversation} {action : Action}
  {answer : action.Answer} {world later : World Database} {user : User}

/-- An account stays an account, whatever is answered to a call. -/
theorem Users.Asks.isAccount (asks : Asks call said action)
    (answered : action.Answered collation world answer later) {id : Int64} {subject : String}
    (account : world.store.IsAccount id subject) : later.store.IsAccount id subject := by
  cases asks with
  | useId => cases answered; exact account
  | useGid => cases answered; exact account
  | epoch => cases answered; exact account
  | keep => cases answered; exact account
  | insert => cases answered; exact account
  | invalidate => cases answered; exact account
  | look reads queries =>
      obtain ⟨statement, built, rfl⟩ := queries
      cases answered with
      | store answered =>
          rw [(answered.query built rfl).1]
          exact account
  | enroll allocates =>
      obtain ⟨query, built, rfl⟩ := allocates
      obtain ⟨row, member, shown⟩ := account
      cases answered with
      | store answered =>
          rcases answered.allocate built with ⟨same, _⟩ | ⟨_, _, _, _, _, _, added⟩
          · rw [same]
            exact ⟨row, member, shown⟩
          · rw [added]
            exact ⟨row, Database.mem_replace_cons member _ _, shown⟩
  | @update edited changes _ _ updates =>
      obtain ⟨statement, built, rfl⟩ := updates
      obtain ⟨row, member, hasId, hasSubject⟩ := account
      cases answered with
      | store answered =>
          rcases answered.update built with unchanged | ⟨_, changed⟩
          · rw [unchanged]
            exact ⟨row, member, hasId, hasSubject⟩
          · rw [changed]
            -- An edit may rewrite the row, but for its id and its subject.
            refine ⟨_, by rw [Database.rows_replace_self]; exact List.mem_map_of_mem member, ?_⟩
            have kept {column : String} (notName : column ≠ "name") (notEmail : column ≠ "email") :
                (row.assign changes.assignments).get? column = row.get? column :=
              row.get?_assign_of_lookup_eq_none
                (UserChanges.lookup_assignments notName notEmail)
            split
            · exact ⟨(kept (by decide) (by decide)).trans hasId,
                (kept (by decide) (by decide)).trans hasSubject⟩
            · exact ⟨hasId, hasSubject⟩

end Answers

/-! ### What is known of accounts -/

namespace IdentityCache

variable {cache later : IdentityCache} {database : Database}

/-- Whatever happens to a coherent cache, it stays coherent, if whoever is kept has an
account. -/
theorem Coherent.step {kept : Option User} (coherent : cache.Coherent database)
    (moves : cache.Moves kept later)
    (accounts : ∀ user, kept = some user → database.IsAccount user.id user.gid) :
    later.Coherent database := by
  cases moves with
  | reorder alike =>
      exact ⟨fun entry member => coherent.byId entry ((alike.byId entry).mp member),
        fun entry member => coherent.byGid entry ((alike.byGid entry).mp member)⟩
  | insert user => exact coherent.insert (accounts user rfl)
  | invalidate id =>
      exact ⟨fun entry member => coherent.byId entry (Recency.mem_erase_iff.mp member).1,
        fun entry member => coherent.byGid entry (Indexed.mem_byGid_invalidate.mp member).1⟩

/-- A user that is found by a subject has an account under the subject that it names. -/
theorem Coherent.isAccount_of_found (coherent : cache.Coherent database) {subject : String}
    {user : User} (found : (cache.useGid subject).1 = some user) :
    database.IsAccount user.id user.gid := by
  rw [useGid_fst] at found
  obtain ⟨id, _, known⟩ := Option.bind_eq_some_iff.mp found
  obtain ⟨same, account⟩ := coherent.byId _ (Recency.get?_eq_some_iff.mp known)
  dsimp only at same account
  rwa [same]

end IdentityCache

/-- The user was found in the cache by a subject, or was read. -/
def Conversation.Met (said : Conversation) (user : User) : Prop :=
  (∃ subject, said.Hit subject user) ∨ ∃ condition, said.Read (queryBy condition) user

section Answers

variable {collation : Collation} {said : Conversation} {action : Action}
  {answer : action.Answer} {world later : World Database} {user : User}

/-- Whoever was met was met before, or by the last action and has an account. -/
theorem Conversation.Met.of_append (met : Conversation.Met (said ++ [⟨action, answer⟩]) user)
    (coherent : world.cache.Coherent world.store)
    (answered : action.Answered collation world answer later) :
    said.Met user ∨ world.store.IsAccount user.id user.gid := by
  rcases met with ⟨subject, hit⟩ | ⟨condition, outcome, got, readable⟩
  · rcases List.mem_append.mp hit with before | last
    · exact .inl (.inl ⟨subject, before⟩)
    · cases List.mem_singleton.mp last
      generalize reply : some user = found at answered
      cases answered
      exact .inr (coherent.isAccount_of_found reply.symm)
  · rcases got.of_append with before | ⟨statement, built, last⟩
    · exact .inl (.inr ⟨condition, outcome, before, readable⟩)
    · cases last
      exact .inr (answered.hasUser_of_read built readable).2.isAccount

end Answers

namespace Directory

/-! ### The invariant -/

/-- All calls work as they should, and whoever is in the cache, was met or was created has the
account that the user names. -/
structure Accounted (directory : Directory) : Prop where
  works : ∀ task ∈ directory.tasks, task.Works
  coherent : directory.world.cache.Coherent directory.world.store
  met : ∀ task ∈ directory.tasks, ∀ user, task.said.Met user →
    directory.world.store.IsAccount user.id user.gid
  vouches : ∀ task ∈ directory.tasks, ∀ identity,
    task.said.Vouches identity directory.world.store

section Accounted

variable {collation : Collation} {limits : Limits} {admits : Directory → Action → Prop}
  {directory later : Directory} {world : World Database} {index : Nat} {call : Call}
  {said : Conversation} {action : Action}
  {next : action.Answer → Work (Except Error call.Result)} {answer : action.Answer}

/-- Whoever a call is to keep has an account. -/
theorem Accounted.isAccount_of_inserted? (accounted : directory.Accounted) {task : Task}
    (member : task ∈ directory.tasks) {use : IdentityCache.Call} {user : User}
    (asks : Asks task.call task.said (.cache use))
    (kept : directory.world.cache.inserted? use = some user) :
    directory.world.store.IsAccount user.id user.gid := by
  rcases asks.of_inserted? kept with ⟨_, condition, read⟩ | ⟨_, identity, id, enrolled, rfl⟩
  · exact accounted.met task member user (.inr ⟨condition, read.read⟩)
  · exact (accounted.vouches task member identity).enrolled id enrolled.enrolled

/-- The cache stays coherent when an action is answered. -/
theorem Accounted.coherent_replied (accounted : directory.Accounted)
    (acting : directory.tasks[index]? = some ⟨call, said, .ask action next⟩)
    (answered : action.Answered collation directory.world answer world) :
    world.cache.Coherent world.store := by
  have member := List.mem_of_getElem? acting
  have asks := (accounted.works _ member).asks
  have stays := answered
  cases answered with
  | store => exact accounted.coherent.mono fun _ _ account => asks.isAccount stays account
  | now => exact accounted.coherent
  | cache use =>
      exact accounted.coherent.step (directory.world.cache.moves use) fun user kept =>
        accounted.isAccount_of_inserted? member asks kept

/-- A directory stays accounted when an action is answered. -/
theorem Accounted.replied (accounted : directory.Accounted)
    (acting : directory.tasks[index]? = some ⟨call, said, .ask action next⟩)
    (answered : action.Answered collation directory.world answer world) :
    (directory.replied world index ⟨call, said ++ [⟨action, answer⟩], next answer⟩).Accounted := by
  have member := List.mem_of_getElem? acting
  have works := accounted.works _ member
  have stays (id : Int64) (subject : String)
      (account : directory.world.store.IsAccount id subject) : world.store.IsAccount id subject :=
    works.asks.isAccount answered account
  refine ⟨?_, accounted.coherent_replied acting answered, ?_, ?_⟩
  · intro task found
    rcases List.mem_or_eq_of_mem_set found with old | rfl
    · exact accounted.works task old
    · exact works.answered answer
  · intro task found user met
    refine stays _ _ ?_
    rcases List.mem_or_eq_of_mem_set found with old | rfl
    · exact accounted.met task old user met
    · exact (met.of_append accounted.coherent answered).elim (accounted.met _ member user) id
  · intro task found identity
    rcases List.mem_or_eq_of_mem_set found with old | rfl
    · exact (accounted.vouches task old identity).mono stays
    · exact (accounted.vouches _ member identity).append accounted.coherent answered stays

/-- A directory stays accounted when a call is made. -/
theorem Accounted.begin (accounted : directory.Accounted) (limits : Limits) (call : Call) :
    Accounted { directory with tasks := directory.tasks ++ [.begin limits call] } where
  works := List.forall_mem_append.mpr
    ⟨accounted.works, List.forall_mem_singleton.mpr (Task.works_begin limits call)⟩
  coherent := accounted.coherent
  met := List.forall_mem_append.mpr
    ⟨accounted.met, List.forall_mem_singleton.mpr fun user met => by
      rcases met with ⟨_, hit⟩ | ⟨_, _, ⟨_, _, read⟩, _⟩
      · cases hit
      · cases read⟩
  vouches := List.forall_mem_append.mpr
    ⟨accounted.vouches, List.forall_mem_singleton.mpr fun identity => .nil⟩

/-- A directory stays accounted with every step. -/
theorem Step.accounted (step : Step collation limits admits directory later)
    (accounted : directory.Accounted) : later.Accounted := by
  cases step with
  | begin call => exact accounted.begin limits call
  | act acting _ answered => exact accounted.replied acting answered

/-- A directory is always accounted. -/
theorem History.accounted {past : List Directory}
    (history : History collation limits admits (directory :: past)) : directory.Accounted := by
  generalize whole : directory :: past = directories at history
  induction history generalizing directory past with
  | start =>
      cases whole
      exact ⟨fun _ member => (nomatch member), IdentityCache.coherent_empty _ _,
        fun _ member => (nomatch member), fun _ member => (nomatch member)⟩
  | step history step inductionHypothesis =>
      cases whole
      exact step.accounted (inductionHypothesis rfl)

end Accounted

/-! ### The result -/

/-- Somebody signed up or in with an identity, and got this user. -/
def SignedIn (directory : Directory) (identity : NewUser) (user : User) : Prop :=
  ∃ said, ⟨.createOrGet identity, said, .done (.ok user)⟩ ∈ directory.tasks

section Result

variable {collation : Collation} {limits : Limits} {now : Directory} {past : List Directory}

/-- Whoever signed in got the account of the subject. -/
theorem Accounted.signedIn (accounted : now.Accounted) (keyed : now.world.store.Keyed)
    {identity : NewUser} {user : User} (signedIn : now.SignedIn identity user) :
    user.gid = identity.gid ∧ now.world.store.IsAccount user.id identity.gid := by
  obtain ⟨said, member⟩ := signedIn
  have resolves : said.Resolves identity user := Program.Meets.ended (accounted.works _ member)
  have vouches := accounted.vouches _ member identity
  refine ⟨?_, vouches.isAccount resolves⟩
  rcases resolves with hit | saw | ⟨id, _, rfl⟩
  · have named := accounted.met _ member user (.inl ⟨_, hit⟩)
    exact keyed.subject_unique named (vouches.hit user hit)
  · exact (vouches.saw user saw).2
  · rfl

/-- Whatever calls are made and in whatever order their steps are taken: no two rows of users
have one subject; whoever signed in with a subject got a user with the subject, under the id of
the one row with it; and so two sign-ins give one id exactly if they are of one subject. -/
theorem one_account_for_each_subject
    (history : History collation limits Anytime (now :: past)) :
    (∀ subject, (now.world.store.rows .users).countP
      (fun row => row.get? "gid" = some (.text subject)) ≤ 1) ∧
    (∀ identity user, now.SignedIn identity user → user.gid = identity.gid ∧
      ∃ row ∈ now.world.store.rows .users, row.get? "gid" = some (.text identity.gid) ∧
        row.get? "id" = some (.int user.id)) ∧
    ∀ identity identity' user user', now.SignedIn identity user → now.SignedIn identity' user' →
      (user.id = user'.id ↔ identity.gid = identity'.gid) := by
  have keyed := history.keyed
  have accounted := history.accounted
  refine ⟨keyed.countP_subject_le_one, fun identity user signedIn => ?_, ?_⟩
  · obtain ⟨same, row, member, hasId, hasSubject⟩ := accounted.signedIn keyed signedIn
    exact ⟨same, row, member, hasSubject, hasId⟩
  · intro identity identity' user user' signedIn signedIn'
    have account := (accounted.signedIn keyed signedIn).2
    have account' := (accounted.signedIn keyed signedIn').2
    exact ⟨fun same => keyed.subject_unique (same ▸ account) account',
      fun same => keyed.id_unique (same ▸ account) account'⟩

/-- Subject `g` signs up and is given another name before the creation keeps the user. Whoever
signs in with the subject after that is found in the cache, under the old name, and gets the id
of the row that has the new one. -/
theorem one_account_for_each_subject_outdated :
    ∃ now past, History plain {} Anytime (now :: past) ∧
      now.SignedIn newcomer outdated ∧ now.SignedIn ⟨"g", "newer", "n@x"⟩ outdated ∧
      ¬ now.world.store.HasUser outdated ∧ now.world.store.HasUser renamed ∧
      (now.world.store.rows .users).countP
        (fun row => row.get? "gid" = some (.text "g")) ≤ 1 ∧
      (∃ row ∈ now.world.store.rows .users, row.get? "gid" = some (.text "g") ∧
        row.get? "id" = some (.int 0)) ∧
      ∀ identity user, now.SignedIn identity user → (user.id = 0 ↔ identity.gid = "g") := by
  obtain ⟨_, signingUp⟩ := History.creating fun directory action _ => (trivial :
    Anytime directory action)
  obtain ⟨_, writing⟩ := signingUp.editing fun _ _ _ => trivial
  have keeps : [creating, editing][0]? = some creating := rfl
  have kept := writing.step (.act keeps trivial (.cache _ _))
  have reaches : (Call.job {} (.createOrGet ⟨"g", "newer", "n@x"⟩)).run.Reaches
      [⟨.cache (.useGid "g"), some outdated⟩] (.done (.ok outdated)) := .ask _ (.refl _)
  obtain ⟨_, signedIn, _⟩ := kept.call reaches (.cons (.cache _ _) (.nil _)) fun _ _ _ => trivial
  obtain ⟨rows, accounts, agree⟩ := one_account_for_each_subject signedIn
  refine ⟨_, _, signedIn, ⟨_, List.mem_cons_self⟩,
    ⟨_, List.mem_append_right _ (List.mem_singleton_self _)⟩, ?_,
    ⟨_, List.mem_singleton_self _, rfl⟩, rows "g",
    (accounts newcomer outdated ⟨_, List.mem_cons_self⟩).2, fun identity user signedIn =>
      agree identity newcomer user outdated signedIn ⟨_, List.mem_cons_self⟩⟩
  rintro ⟨row, member, readable⟩
  obtain rfl := List.mem_singleton.mp member
  have readsNew : User.ofRow (Table.users.row renamed.values) = .ok renamed := rfl
  rw [readsNew] at readable
  exact absurd (Except.ok.inj readable) (by decide)

end Result

end Directory

end Notebook
