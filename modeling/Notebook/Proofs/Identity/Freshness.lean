import Notebook.Proofs.Identity.Directory
import Notebook.Proofs.Ownership.Isolation

/-!
# Cached users are up to date

A user in the cache is the one that is stored, unless an edit of the user has written and not
yet returned. A reader keeps what it read only if nothing was invalidated since it took the
epoch, and an edit invalidates after its write, so whatever is kept was read behind the last
write (`Directory.Fresh`).

One way into the cache is not guarded: a call that created a user keeps it without looking at
the epoch. If the user is edited between the insertion of its row and that step, the cache
keeps what the user was before (`not_fresh_behind_creation`). So what is proved is that users
are up to date as long as no user is invalidated while an outdated version of its creation is
still to be kept (`Directory.CreationsKept`, `fresh_behind_kept_creations`).
-/

namespace Notebook

open Users
open Service (plain)

namespace Directory

/-! ### Fresh users -/

/-- The user is stored, or an edit of the user has written and not yet returned; and behind
each edit of the user that has returned, the user was stored at some time. -/
structure Fresh (now : Directory) (past : List Directory) (user : User) : Prop where
  stored : now.world.store.HasUser user ∨ ∃ task ∈ now.tasks, task.Overwrites user.id
  since : ∀ editor, now.Edited editor user.id → ∃ later ∈ now :: past,
    later.Edited editor user.id ∧ later.world.store.HasUser user

section Fresh

variable {collation : Collation} {limits : Limits} {now : Directory} {past : List Directory}
  {user : User} {world : World Database} {index : Nat} {call : Call} {said : Conversation}
  {action : Action} {next : action.Answer → Work (Except Error call.Result)}
  {answer : action.Answer}

/-- A user that is stored is fresh. -/
theorem Fresh.of_hasUser (stored : now.world.store.HasUser user) : Fresh now past user where
  stored := .inl stored
  since := fun _ edited => ⟨now, List.mem_cons_self, edited, stored⟩

/-- A user stays fresh when a call is made. -/
theorem Fresh.begin (fresh : Fresh now past user) (call : Call) :
    Fresh { now with tasks := now.tasks ++ [.begin limits call] } (now :: past) user where
  stored := by
    refine fresh.stored.imp_right ?_
    rintro ⟨task, member, overwrites⟩
    exact ⟨task, List.mem_append_left _ member, overwrites⟩
  since := by
    rintro editor ⟨task, called, edits, finished⟩
    have old : now.Edited editor user.id := by
      by_cases within : editor < now.tasks.length
      · rw [List.getElem?_append_left within] at called
        exact ⟨task, called, edits, finished⟩
      -- An edit that was just made has not invalidated yet.
      · rw [List.getElem?_append_right (by omega), List.getElem?_singleton] at called
        split at called
        next =>
          cases called
          obtain ⟨front, said⟩ := (Task.works_begin limits call).justInvalidated edits finished
          exact absurd said (by simp [Task.begin])
        next => cases called
    obtain ⟨later, member, edited, stored⟩ := fresh.since editor old
    exact ⟨later, List.mem_cons_of_mem _ member, edited, stored⟩

/-- An edit has not returned after an answer to anything but its invalidation. -/
theorem not_finished_of_ne {id : Int64} (works : Task.Works ⟨call, said, .ask action next⟩)
    (other : action ≠ .cache (.invalidate id))
    (edits : Task.Edits ⟨call, said ++ [⟨action, answer⟩], next answer⟩ id) :
    ¬ Task.Finished ⟨call, said ++ [⟨action, answer⟩], next answer⟩ :=
  fun finished => other ((works.answered answer).justInvalidated edits finished).action_eq

/-- When an action is answered, a user that was stored or overwritten is so again, unless it is
an invalidation of the user. -/
theorem Fresh.stored_replied (fresh : Fresh now past user)
    (acting : now.tasks[index]? = some ⟨call, said, .ask action next⟩)
    (works : Task.Works ⟨call, said, .ask action next⟩)
    (answered : action.Answered collation now.world answer world)
    (other : action ≠ .cache (.invalidate user.id)) :
    world.store.HasUser user ∨
      ∃ task ∈ (now.replied world index ⟨call, said ++ [⟨action, answer⟩], next answer⟩).tasks,
        task.Overwrites user.id := by
  have unfinished (edits : Task.Edits ⟨call, said ++ [⟨action, answer⟩], next answer⟩ user.id) :
      ¬ Task.Finished ⟨call, said ++ [⟨action, answer⟩], next answer⟩ :=
    not_finished_of_ne works other edits
  have within := (List.getElem?_eq_some_iff.mp acting).1
  have acted : (⟨call, said ++ [⟨action, answer⟩], next answer⟩ : Task) ∈
      now.tasks.set index ⟨call, said ++ [⟨action, answer⟩], next answer⟩ :=
    List.mem_set within _
  rcases fresh.stored with stored | ⟨task, member, edits, waits, statement, outcome, wrote⟩
  · rcases works.asks.hasUser answered stored with
      still | ⟨changes, statement, outcome, same, wrote⟩
    · exact .inl still
    · have edits : Task.Edits ⟨call, said ++ [⟨action, answer⟩], next answer⟩ user.id :=
        ⟨changes, same⟩
      refine .inr ⟨_, acted, edits, unfinished edits, statement, outcome, ?_⟩
      rw [← wrote]
      exact List.mem_append_right _ (List.mem_singleton_self _)
  · obtain ⟨place, called⟩ := List.mem_iff_getElem?.mp member
    by_cases same : index = place
    · subst same
      rw [acting] at called
      cases called
      exact .inr ⟨_, acted, edits, unfinished edits, statement, outcome,
        List.mem_append_left _ wrote⟩
    · have still : task ∈ now.tasks.set index ⟨call, said ++ [⟨action, answer⟩], next answer⟩ :=
        List.mem_iff_getElem?.mpr ⟨place, by rw [List.getElem?_set_ne same, called]⟩
      exact .inr ⟨task, still, edits, waits, statement, outcome, wrote⟩

/-- A user stays fresh when an action is answered, unless it is an invalidation of the user. -/
theorem Fresh.replied (fresh : Fresh now past user)
    (acting : now.tasks[index]? = some ⟨call, said, .ask action next⟩)
    (works : Task.Works ⟨call, said, .ask action next⟩)
    (answered : action.Answered collation now.world answer world)
    (other : action ≠ .cache (.invalidate user.id)) :
    Fresh (now.replied world index ⟨call, said ++ [⟨action, answer⟩], next answer⟩) (now :: past)
      user where
  stored := fresh.stored_replied acting works answered other
  since := by
    intro editor edited
    rcases edited_of_replied edited with old | ⟨edits, finished⟩
    · obtain ⟨later, member, edited, stored⟩ := fresh.since editor old
      exact ⟨later, List.mem_cons_of_mem _ member, edited, stored⟩
    · exact absurd finished (not_finished_of_ne works other edits)

end Fresh

/-! ### The invariant -/

/-- No user is invalidated while a call is about to keep the user as it was created and the
user is stored in another way. -/
def CreationsKept (directory : Directory) (action : Action) : Prop :=
  ∀ id, action = .cache (.invalidate id) → ∀ task ∈ directory.tasks, ∀ user,
    task.IsAbout (.insert user) → user.id = id → directory.world.store.HasUser user

/-- An action that invalidates nobody is admitted. -/
theorem creationsKept_of_not_invalidates {directory : Directory} {action : Action}
    (quiet : action.invalidates = false) : CreationsKept directory action := by
  rintro id rfl
  cases quiet

/-- All calls work as they should, the epoch is the number of invalidations, and whoever is
kept in the cache, or about to be kept, is fresh, as was whoever was found by an id. -/
structure Sound (now : Directory) (past : List Directory) : Prop where
  works : ∀ task ∈ now.tasks, task.Works
  epoch : now.world.cache.epoch = UInt64.ofNat now.invalidations
  /-- An epoch that was taken is a number of invalidations that there were. -/
  epochs : ∀ task ∈ now.tasks, ∀ epoch,
    (⟨.cache .epoch, epoch⟩ : Program.Exchange Action Action.Answer) ∈ task.said →
      ∃ count ≤ now.invalidations, epoch = UInt64.ofNat count
  cached : ∀ entry ∈ now.world.cache.byId.entries, entry.2.id = entry.1 ∧ Fresh now past entry.2
  pending : ∀ task ∈ now.tasks, ∀ use user, task.IsAbout use →
    now.world.cache.inserted? use = some user → Fresh now past user
  /-- Behind each edit that had returned when it was called, the user that a call found was
  stored at some time. -/
  resolved : ∀ reader task, now.tasks[reader]? = some task → ∀ id user, task.said.Found id user →
    ∀ earlier ∈ now :: past, earlier.tasks.length ≤ reader → ∀ editor, earlier.Edited editor id →
      ∃ later ∈ now :: past, later.Edited editor id ∧ later.world.store.HasUser user

section Sound

variable {collation : Collation} {limits : Limits} {now : Directory} {past : List Directory}
  {world : World Database} {index : Nat} {call : Call} {said : Conversation}
  {action : Action} {next : action.Answer → Work (Except Error call.Result)}
  {answer : action.Answer}

/-- A new repository is sound. -/
theorem sound_start (limits : Limits) (store : Database) (clock : Timestamp) :
    Sound (start limits store clock) [] where
  works := fun _ member => nomatch member
  epoch := rfl
  epochs := fun _ member => nomatch member
  cached := fun _ member => nomatch member
  pending := fun _ member => nomatch member
  resolved := fun _ _ called => nomatch called

/-- A directory stays sound when a call is made. -/
theorem Sound.begin (sound : Sound now past) (call : Call) :
    Sound { now with tasks := now.tasks ++ [.begin limits call] } (now :: past) where
  works := by
    intro task member
    rcases List.mem_append.mp member with old | new
    · exact sound.works task old
    · rw [List.mem_singleton.mp new]
      exact Task.works_begin limits call
  epoch := by rw [invalidations_begin, sound.epoch]
  epochs := by
    intro task member epoch taken
    rw [invalidations_begin]
    rcases List.mem_append.mp member with old | new
    · exact sound.epochs task old epoch taken
    · rw [List.mem_singleton.mp new] at taken
      cases taken
  cached := fun entry member =>
    ⟨(sound.cached entry member).1, (sound.cached entry member).2.begin call⟩
  pending := by
    intro task member use user isAbout kept
    rcases List.mem_append.mp member with old | new
    · exact (sound.pending task old use user isAbout kept).begin call
    -- Before anything was said, nobody was read or created who could be kept.
    · rw [List.mem_singleton.mp new] at isAbout
      have asks := (Task.works_begin limits call).asks_of_isAbout isAbout
      rcases asks.of_inserted? kept with
        ⟨_, _, _, _, _, _, _, said⟩ | ⟨_, _, _, ⟨_, _, _, _, _, said⟩, _⟩
      · exact absurd said (by simp [Task.begin])
      · exact absurd said (by simp [Task.begin])
  resolved := by
    intro reader task called id user found earlier member before editor edited
    by_cases within : reader < now.tasks.length
    · rw [List.getElem?_append_left within] at called
      rcases List.mem_cons.mp member with rfl | old
      · simp at before
        omega
      · obtain ⟨later, member, edited, stored⟩ :=
          sound.resolved reader task called id user found earlier old before editor edited
        exact ⟨later, List.mem_cons_of_mem _ member, edited, stored⟩
    -- A call that was just made has found nobody.
    · rw [List.getElem?_append_right (by omega), List.getElem?_singleton] at called
      split at called
      next =>
        cases called
        rcases found with hit | ⟨_, ⟨_, _, read⟩, _⟩
        · cases hit
        · cases read
      next => cases called

/-- All calls still work as they should when an action is answered. -/
theorem Sound.works_replied (sound : Sound now past)
    (acting : now.tasks[index]? = some ⟨call, said, .ask action next⟩) :
    ∀ task ∈ (now.replied world index ⟨call, said ++ [⟨action, answer⟩], next answer⟩).tasks,
      task.Works := by
  intro task member
  rcases List.mem_or_eq_of_mem_set member with old | rfl
  · exact sound.works task old
  · exact (sound.works _ (List.mem_of_getElem? acting)).answered answer

/-- The epoch is still the number of invalidations when an action is answered. -/
theorem Sound.epoch_replied (sound : Sound now past)
    (acting : now.tasks[index]? = some ⟨call, said, .ask action next⟩)
    (answered : action.Answered collation now.world answer world) :
    world.cache.epoch = UInt64.ofNat
      (now.replied world index ⟨call, said ++ [⟨action, answer⟩], next answer⟩).invalidations := by
  rw [invalidations_replied acting, answered.epoch_eq, sound.epoch]
  split <;> simp

/-- An epoch that was taken is still a number of invalidations that there were when an action
is answered. -/
theorem Sound.epochs_replied (sound : Sound now past)
    (acting : now.tasks[index]? = some ⟨call, said, .ask action next⟩)
    (answered : action.Answered collation now.world answer world) :
    ∀ task ∈ (now.replied world index ⟨call, said ++ [⟨action, answer⟩], next answer⟩).tasks,
      ∀ epoch, (⟨.cache .epoch, epoch⟩ : Program.Exchange Action Action.Answer) ∈ task.said →
      ∃ count ≤ (now.replied world index
        ⟨call, said ++ [⟨action, answer⟩], next answer⟩).invalidations,
        epoch = UInt64.ofNat count := by
  intro task member epoch taken
  rw [invalidations_replied acting]
  have earlier (old : ∃ count ≤ now.invalidations, epoch = UInt64.ofNat count) :
      ∃ count ≤ now.invalidations + (if action.invalidates then 1 else 0),
        epoch = UInt64.ofNat count := by
    obtain ⟨count, bound, same⟩ := old
    exact ⟨count, Nat.le_add_right_of_le bound, same⟩
  rcases List.mem_or_eq_of_mem_set member with old | rfl
  · exact earlier (sound.epochs task old epoch taken)
  rcases List.mem_append.mp taken with before | last
  · exact earlier (sound.epochs _ (List.mem_of_getElem? acting) epoch before)
  · cases List.mem_singleton.mp last
    cases answered
    exact ⟨now.invalidations, Nat.le_add_right _ _, sound.epoch⟩

/-- After an invalidation, the epoch is one that could not be taken before. -/
theorem Sound.not_invalidates (sound : Sound now past) {task : Task} (member : task ∈ now.tasks)
    (taken : (⟨.cache .epoch, world.cache.epoch⟩ : Program.Exchange Action Action.Answer) ∈
      task.said)
    (answered : action.Answered collation now.world answer world)
    (few : now.invalidations + (if action.invalidates then 1 else 0) < UInt64.size) :
    action.invalidates = false := by
  obtain ⟨count, bound, before⟩ := sound.epochs task member _ taken
  have epoch := answered.epoch_eq
  rw [before, sound.epoch] at epoch
  cases invalidates : action.invalidates with
  | false => rfl
  | true =>
      rw [if_pos invalidates] at epoch
      rw [if_pos invalidates, UInt64.size] at few
      have numbers := congrArg UInt64.toNat epoch
      simp only [UInt64.toNat_add, UInt64.toNat_ofNat', UInt64.toNat_one] at numbers
      omega

/-- Whoever is in the cache when an action was answered is fresh. -/
theorem Sound.cached_replied (sound : Sound now past)
    (acting : now.tasks[index]? = some ⟨call, said, .ask action next⟩)
    (answered : action.Answered collation now.world answer world) :
    ∀ entry ∈ world.cache.byId.entries, entry.2.id = entry.1 ∧
      Fresh (now.replied world index ⟨call, said ++ [⟨action, answer⟩], next answer⟩) (now :: past)
        entry.2 := by
  intro entry member
  have works := sound.works _ (List.mem_of_getElem? acting)
  have old (before : entry ∈ now.world.cache.byId.entries)
      (other : action ≠ .cache (.invalidate entry.1)) :
      entry.2.id = entry.1 ∧ Fresh (now.replied world index
        ⟨call, said ++ [⟨action, answer⟩], next answer⟩) (now :: past) entry.2 := by
    obtain ⟨same, fresh⟩ := sound.cached entry before
    exact ⟨same, fresh.replied acting works answered (by rwa [same])⟩
  have given := answered
  cases answered with
  | store => exact old member (by simp)
  | now => exact old member (by simp)
  | cache use =>
      rcases IdentityCache.mem_byId_perform member with ⟨kept, same⟩ | ⟨before, unlike, _⟩
      · have fresh := sound.pending _ (List.mem_of_getElem? acting) use entry.2 ⟨next, rfl⟩ kept
        refine ⟨same.symm, fresh.replied acting works given ?_⟩
        rintro ⟨⟩
        cases kept
      · exact old before (by simpa using unlike)

/-- Whoever a call is about to keep when an action was answered is fresh, as long as creations
are kept. -/
theorem Sound.pending_replied (sound : Sound now past)
    (acting : now.tasks[index]? = some ⟨call, said, .ask action next⟩)
    (creationsKept : CreationsKept now action)
    (answered : action.Answered collation now.world answer world)
    (few : (now.replied world index ⟨call, said ++ [⟨action, answer⟩], next answer⟩).invalidations <
      UInt64.size) :
    ∀ task ∈ (now.replied world index ⟨call, said ++ [⟨action, answer⟩], next answer⟩).tasks,
      ∀ use user, task.IsAbout use → world.cache.inserted? use = some user →
      Fresh (now.replied world index ⟨call, said ++ [⟨action, answer⟩], next answer⟩) (now :: past)
        user := by
  intro task member use user isAbout kept
  have works := sound.works _ (List.mem_of_getElem? acting)
  rw [invalidations_replied acting] at few
  rcases List.mem_or_eq_of_mem_set member with old | rfl
  · have waiting (kept : now.world.cache.inserted? use = some user)
        (other : action ≠ .cache (.invalidate user.id)) :
        Fresh (now.replied world index ⟨call, said ++ [⟨action, answer⟩], next answer⟩)
          (now :: past) user :=
      (sound.pending task old use user isAbout kept).replied acting works answered other
    have asks := (sound.works task old).asks_of_isAbout isAbout
    rcases asks.of_inserted? kept with ⟨rfl, condition, read⟩ | ⟨rfl, _⟩
    · have stays := sound.not_invalidates old read.epoch_mem answered few
      have epoch := answered.epoch_eq
      rw [if_neg (by simp [stays]), UInt64.add_zero] at epoch
      refine waiting (if_pos epoch.symm) ?_
      rintro rfl
      cases stays
    · by_cases gone : action = .cache (.invalidate user.id)
      · have stored := creationsKept user.id gone task old user isAbout rfl
        subst gone
        cases answered
        exact .of_hasUser stored
      · exact waiting rfl gone
  · have asks := (works.answered answer).asks_of_isAbout isAbout
    rcases asks.of_inserted? kept with ⟨_, _, read⟩ | ⟨_, _, _, enrolled, rfl⟩
    · exact .of_hasUser (read.hasUser answered)
    · exact .of_hasUser (enrolled.hasUser answered)

/-- Whoever was found when an action was answered was fresh. -/
theorem Sound.resolved_replied (sound : Sound now past)
    (lasts : ∀ earlier ∈ now :: past, ∀ editor id, earlier.Edited editor id → now.Edited editor id)
    (acting : now.tasks[index]? = some ⟨call, said, .ask action next⟩)
    (answered : action.Answered collation now.world answer world) {reader : Nat} {task : Task}
    (called : (now.replied world index
      ⟨call, said ++ [⟨action, answer⟩], next answer⟩).tasks[reader]? = some task)
    {id : Int64} {user : User} (found : task.said.Found id user) {earlier : Directory}
    (member : earlier ∈ now :: past) (before : earlier.tasks.length ≤ reader) {editor : Nat}
    (edited : earlier.Edited editor id) :
    ∃ later ∈ now :: past, later.Edited editor id ∧ later.world.store.HasUser user := by
  have length : (now.replied world index
      ⟨call, said ++ [⟨action, answer⟩], next answer⟩).tasks.length = now.tasks.length :=
    List.length_set
  have within := (List.getElem?_eq_some_iff.mp called).1
  by_cases same : index = reader
  · subst same
    rw [Directory.replied, List.getElem?_set_self (length ▸ within)] at called
    cases called
    have returned := lasts earlier member editor id edited
    rcases found.of_append answered with old | stored | stored
    · exact sound.resolved index _ acting id user old earlier member before editor edited
    · obtain ⟨same, fresh⟩ := sound.cached _ stored
      dsimp only at same
      obtain ⟨later, member, edited, stored⟩ := fresh.since editor (same.symm ▸ returned)
      exact ⟨later, member, same ▸ edited, stored⟩
    · exact ⟨now, List.mem_cons_self, returned, stored⟩
  · rw [Directory.replied, List.getElem?_set_ne same] at called
    exact sound.resolved reader task called id user found earlier member before editor edited

/-- A directory stays sound when an action is answered, as long as creations are kept. -/
theorem Sound.replied (sound : Sound now past)
    (lasts : ∀ earlier ∈ now :: past, ∀ editor id, earlier.Edited editor id → now.Edited editor id)
    (acting : now.tasks[index]? = some ⟨call, said, .ask action next⟩)
    (creationsKept : CreationsKept now action)
    (answered : action.Answered collation now.world answer world)
    (few : (now.replied world index ⟨call, said ++ [⟨action, answer⟩], next answer⟩).invalidations <
      UInt64.size) :
    Sound (now.replied world index ⟨call, said ++ [⟨action, answer⟩], next answer⟩)
      (now :: past) where
  works := sound.works_replied acting
  epoch := sound.epoch_replied acting answered
  epochs := sound.epochs_replied acting answered
  cached := sound.cached_replied acting answered
  pending := sound.pending_replied acting creationsKept answered few
  resolved := by
    intro reader task called id user found earlier member before editor edited
    have within := (List.getElem?_eq_some_iff.mp called).1
    rw [Directory.replied, List.length_set] at within
    rcases List.mem_cons.mp member with rfl | old
    · rw [Directory.replied, List.length_set] at before
      omega
    obtain ⟨later, member, edited, stored⟩ :=
      sound.resolved_replied lasts acting answered called found old before edited
    exact ⟨later, List.mem_cons_of_mem _ member, edited, stored⟩

/-- The number of invalidations never falls. -/
theorem Step.invalidations_le {admits : Directory → Action → Prop} {later : Directory}
    (step : Step collation limits admits now later) :
    now.invalidations ≤ later.invalidations := by
  cases step with
  | begin call => exact Nat.le_of_eq (invalidations_begin now limits call).symm
  | act acting =>
      rw [invalidations_replied acting]
      exact Nat.le_add_right _ _

/-- A directory is always sound if creations are kept and the invalidations can be counted. -/
theorem History.sound (history : History collation limits CreationsKept (now :: past))
    (few : now.invalidations < UInt64.size) : Sound now past := by
  generalize whole : now :: past = directories at history
  induction history generalizing now past with
  | start =>
      cases whole
      exact sound_start _ _ _
  | step history step inductionHypothesis =>
      cases whole
      have sound := inductionHypothesis (Nat.lt_of_le_of_lt step.invalidations_le few) rfl
      cases step with
      | begin call => exact sound.begin call
      | act acting creationsKept answered =>
          exact sound.replied (fun _ member _ _ => history.edited member) acting creationsKept
            answered few

end Sound

/-! ### Histories

Subject `g` signs up and is given another name, and then the id is resolved. -/

section Histories

variable {admits : Directory → Action → Prop} {past : List Directory} {cache : IdentityCache}

/-- The identity of somebody who signs up. -/
def newcomer : NewUser := ⟨"g", "old", "o@x"⟩

/-- The user before the edit. -/
def outdated : User := newcomer.withId 0

/-- The edit of the user. -/
def newName : UserChanges := { name := some "new" }

/-- The user after the edit. -/
def renamed : User := ⟨0, "new", "o@x", "g"⟩

/-- What is said until the user is stored and not yet kept. -/
def creationTalk : Conversation :=
  [⟨.cache (.useGid "g"), none⟩, ⟨.cache .epoch, (0 : UInt64)⟩,
    ⟨.store (.execute ⟨.query, .users, "SELECT * FROM \"users\" WHERE \"gid\" = $1 LIMIT 1",
      [.text "g"]⟩), .ok (.ofRows [])⟩,
    ⟨.store (.executeSerialized "dumpnote.users.id"
      ⟨.query, .users, "SELECT COALESCE(MAX(\"id\"), -1) + 1 AS next_id FROM \"users\"", []⟩
      (Table.users.insertNext fun id => (newcomer.withId id).values)),
      .ok (.ofRows [⟨[("next_id", .int 0)]⟩], .affected 1)⟩]

/-- The update of the name. -/
def nameUpdate : Statement :=
  ⟨.mutation, .users, "UPDATE \"users\" SET \"name\" = $1 WHERE \"id\" = $2",
    [.text "new", .int 0]⟩

/-- What is said until the edit is stored and the user is not yet invalidated. -/
def editTalk : Conversation :=
  [⟨.store (.execute nameUpdate), .ok (.affected 1)⟩]

/-- What is said until the user is read and kept. -/
def resolutionTalk : Conversation :=
  [⟨.cache (.useId 0), none⟩, ⟨.cache .epoch, (1 : UInt64)⟩,
    ⟨.store (.execute ⟨.query, .users, "SELECT * FROM \"users\" WHERE \"id\" = $1 LIMIT 1",
      [.int 0]⟩), .ok (.ofRows [Table.users.row renamed.values])⟩,
    ⟨.cache (.insertIfCurrent renamed 1), true⟩]

/-- The creation before it keeps its user. -/
def creating : Task where
  call := .createOrGet newcomer
  said := creationTalk
  rest := .ask (.cache (.insert outdated)) fun _ => .done (.ok outdated)

/-- The creation that has returned. -/
def created : Task where
  call := .createOrGet newcomer
  said := creationTalk ++ [⟨.cache (.insert outdated), ()⟩]
  rest := .done (.ok outdated)

/-- The edit between its write and its invalidation. -/
def editing : Task where
  call := .edit 0 newName
  said := editTalk
  rest := .ask (.cache (.invalidate 0)) fun _ => .done (.ok ())

/-- The edit that has returned. -/
def edited : Task where
  call := .edit 0 newName
  said := editTalk ++ [⟨.cache (.invalidate 0), ()⟩]
  rest := .done (.ok ())

/-- The world where this user is the only one. -/
def populated (user : User) (cache : IdentityCache) : World Database where
  store := Database.empty.replace .users [Table.users.row user.values]
  cache := cache
  clock := noon

/-- The cache before anybody is kept. -/
def cold : IdentityCache :=
  .empty ({} : Limits).cacheCapacity

/-- The user may sign up, up to where the user is stored and not yet kept. -/
theorem History.creating
    (quiet : ∀ directory action, action.invalidates = false → admits directory action) :
    ∃ past, History plain {} admits (⟨populated outdated cold, [Directory.creating]⟩ :: past) := by
  have started : History plain {} admits [Directory.start {} .empty noon] :=
    .start Database.filed_empty.keyed noon
  have reaches : (Call.job {} (.createOrGet newcomer)).run.Reaches creationTalk
      Directory.creating.rest :=
    .ask _ (.ask _ (.ask _ (.ask _ (.refl _))))
  have absent : (Sql.Query.reading [.star] (subjectQuery "g")).Yields plain.toComparing
      (Database.empty.rows .users) [] := Sql.Query.yields_of_length_le_one (by decide)
  have happens : Happens plain creationTalk (Directory.start {} .empty noon).world
      (populated outdated cold) :=
    .cons (.cache _ _) (.cons (.cache _ _) (.cons
      (.store (.of_query (subjectQuery "g") rfl rfl absent)) (.cons
      (.store (.of_allocate rfl rfl rfl (by decide))) (.nil _))))
  obtain ⟨past, history, _⟩ := started.call reaches happens
    fun directory exchange member => quiet directory _ (by revert exchange; decide)
  exact ⟨past, history⟩

/-- The user who signed up may be edited, up to where the user is not yet invalidated. -/
theorem History.editing {task : Task}
    (history : History plain {} admits (⟨populated outdated cache, [task]⟩ :: past))
    (quiet : ∀ directory action, action.invalidates = false → admits directory action) :
    ∃ past', History plain {} admits
      (⟨populated renamed cache, [task, Directory.editing]⟩ :: past') := by
  have reaches : (Call.job {} (.edit 0 newName)).run.Reaches editTalk Directory.editing.rest :=
    .ask _ (.refl _)
  have built : Table.users.updateStatement (.eq "id" (.int 0)) newName.assignments =
      .ok nameUpdate := rfl
  have assigned : (populated renamed cache).store = (populated outdated cache).store.replace .users
      (((populated outdated cache).store.rows .users).map fun row =>
        if (Sql.Condition.equals 2 "id" (.int 0)).selects plain.toComparing row then
          row.assign newName.assignments else row) := (Database.replace_replace _ _ _ _).symm
  have keyed : (Database.empty.replace .users [Table.users.row renamed.values]).Keyed := by decide
  have answered : (Request.execute nameUpdate).Answered plain (populated outdated cache).store
      (.ok (.affected 1)) (populated renamed cache).store := .of_update built assigned keyed
  have happens : Happens plain editTalk (populated outdated cache) (populated renamed cache) :=
    .cons (.store answered) (.nil _)
  obtain ⟨past', history', _⟩ := history.call reaches happens
    fun directory exchange member => quiet directory _ (by revert exchange; decide)
  exact ⟨past', history'⟩

end Histories

/-! ### The result -/

section Result

variable {collation : Collation} {limits : Limits} {now : Directory} {past : List Directory}

/-- Whatever calls are made and in whatever order their steps are taken, as long as no user is
invalidated while an outdated version of its creation is still to be kept: a user in the cache
is what the one stored row with its id says, unless an edit of the user is between its write
and its return; and a user that was found by an id was stored at some time behind the return of
each edit that had returned when the call was made. -/
theorem fresh_behind_kept_creations
    (history : History collation limits CreationsKept (now :: past))
    (few : now.invalidations < UInt64.size) :
    (∀ id user, (now.world.cache.useId id).1 = some user →
      (∀ task ∈ now.tasks, ¬ task.Overwrites id) →
      user.id = id ∧ ∃ row ∈ now.world.store.rows .users, User.ofRow row = .ok user ∧
        ∀ other ∈ now.world.store.rows .users, other.get? "id" = some (.int id) → other = row) ∧
    ∀ reader id said user,
      now.tasks[reader]? = some ⟨.resolve id, said, .done (.ok (some user))⟩ →
      ∀ earlier ∈ now :: past, earlier.tasks.length ≤ reader →
      ∀ editor, earlier.Edited editor id →
        ∃ later ∈ now :: past, later.Edited editor id ∧ later.world.store.HasUser user := by
  have sound := history.sound few
  constructor
  · intro id user cached quiet
    rw [IdentityCache.useId_fst, Recency.get?_eq_some_iff] at cached
    obtain ⟨same, fresh⟩ := sound.cached _ cached
    dsimp only at same
    subst same
    rcases fresh.stored with ⟨row, stored, readable⟩ | ⟨task, member, overwrites⟩
    · have hasId := (User.get?_of_ofRow readable).1
      exact ⟨rfl, row, stored, readable, fun other member named =>
        history.keyed.row_unique member stored (named.trans hasId.symm)⟩
    · exact absurd overwrites (quiet task member)
  · intro reader id said user returned earlier member before editor edited
    have works := sound.works _ (List.mem_of_getElem? returned)
    have found : said.Found id user := Program.Meets.ended works user rfl
    exact sound.resolved reader _ returned id user found earlier member before editor edited

/-- After a user signed up and was given another name, the id resolves to the user as it is
stored. -/
theorem fresh_behind_kept_creations_editing :
    ∃ now past said, History plain {} CreationsKept (now :: past) ∧
      (now.world.cache.useId 0).1 = some renamed ∧
      (∃ row ∈ now.world.store.rows .users, User.ofRow row = .ok renamed ∧
        ∀ other ∈ now.world.store.rows .users, other.get? "id" = some (.int 0) → other = row) ∧
      now.tasks[2]? = some ⟨.resolve 0, said, .done (.ok (some renamed))⟩ ∧
      ∃ later ∈ now :: past, later.Edited 1 0 ∧ later.world.store.HasUser renamed := by
  have quiet (directory : Directory) (action : Action) (stays : action.invalidates = false) :
      CreationsKept directory action := creationsKept_of_not_invalidates stays
  obtain ⟨_, signingUp⟩ := History.creating quiet
  have keeps : [creating][0]? = some creating := rfl
  have signedUp := signingUp.step (.act keeps (quiet _ _ rfl) (.cache _ _))
  obtain ⟨_, writing⟩ := signedUp.editing quiet
  have invalidates : [created, editing][1]? = some editing := rfl
  have admitted : CreationsKept
      ⟨populated renamed (cold.insert outdated), [created, editing]⟩ (.cache (.invalidate 0)) := by
    intro id same task member user isAbout
    rcases List.mem_pair.mp member with rfl | rfl
    · obtain ⟨next, pending⟩ := isAbout
      cases pending
    · obtain ⟨next, pending⟩ := isAbout
      cases pending
  have written := writing.step (.act invalidates admitted (.cache _ _))
  have reaches : (Call.job {} (.resolve 0)).run.Reaches resolutionTalk
      (.done (.ok (some renamed))) :=
    .ask _ (.ask _ (.ask _ (.ask _ (.refl _))))
  have present : (Sql.Query.reading [.star] (queryBy (.eq "id" (.int 0)))).Yields
      plain.toComparing ((populated renamed (.empty 1)).store.rows .users)
      [Table.users.row renamed.values] := Sql.Query.yields_of_length_le_one (by decide)
  have happens : Happens plain resolutionTalk
      (populated renamed ((cold.insert outdated).invalidate 0))
      (populated renamed (((cold.insert outdated).invalidate 0).insert renamed)) :=
    .cons (.cache _ _) (.cons (.cache _ _) (.cons
      (.store (.of_query (queryBy (.eq "id" (.int 0))) rfl rfl present))
      (.cons (.cache _ _) (.nil _))))
  obtain ⟨past, resolved, kept⟩ := written.call reaches happens
    fun directory exchange member => quiet directory _ (by revert exchange; decide)
  obtain ⟨cached, since⟩ := fresh_behind_kept_creations resolved (by decide)
  have returned : ∀ task ∈ [created, edited, ⟨.resolve 0, resolutionTalk,
      .done (.ok (some renamed))⟩], task.Finished :=
    List.forall_mem_cons.mpr ⟨⟨_, rfl⟩, List.forall_mem_cons.mpr ⟨⟨_, rfl⟩,
      List.forall_mem_singleton.mpr ⟨_, rfl⟩⟩⟩
  have quietly (task : Task) (member : task ∈ [created, edited, ⟨.resolve 0, resolutionTalk,
      .done (.ok (some renamed))⟩]) : ¬ task.Overwrites 0 :=
    fun ⟨_, unfinished, _⟩ => unfinished (returned task member)
  have before : Directory.Edited ⟨populated renamed ((cold.insert outdated).invalidate 0),
      [created, edited]⟩ 1 0 := ⟨edited, rfl, ⟨newName, rfl⟩, _, rfl⟩
  exact ⟨_, past, resolutionTalk, resolved, rfl, (cached 0 renamed rfl quietly).2, rfl,
    since 2 0 resolutionTalk renamed rfl _ (kept List.mem_cons_self) (Nat.le_refl 2) 1 before⟩

/-- A user in the cache may be out of date for good: a creation stores its user, an edit of the
user begins and returns, and then the creation keeps the user as it was created. Whoever
resolves the id after that finds the user before the edit, though the user was never stored so
since the edit has returned. -/
theorem not_fresh_behind_creation :
    ∃ now past said, History plain {} Anytime (now :: past) ∧ now.invalidations < UInt64.size ∧
      (∀ task ∈ now.tasks, task.Finished) ∧
      (now.world.cache.useId 0).1 = some outdated ∧ ¬ now.world.store.HasUser outdated ∧
      now.tasks[2]? = some ⟨.resolve 0, said, .done (.ok (some outdated))⟩ ∧
      (∃ earlier ∈ past, earlier.tasks.length ≤ 2 ∧ earlier.tasks[1]? = some edited) ∧
      ∀ later ∈ now :: past, later.Edited 1 0 → ¬ later.world.store.HasUser outdated := by
  have gone : ¬ (Database.empty.replace .users [Table.users.row renamed.values]).HasUser
      outdated := by
    rintro ⟨row, member, readable⟩
    obtain rfl := List.mem_singleton.mp member
    have readsNew : User.ofRow (Table.users.row renamed.values) = .ok renamed := rfl
    rw [readsNew] at readable
    exact absurd (Except.ok.inj readable) (by decide)
  obtain ⟨_, signingUp⟩ := History.creating fun directory action _ => (trivial :
    Anytime directory action)
  obtain ⟨older, writing⟩ := signingUp.editing fun _ _ _ => trivial
  have invalidates : [creating, editing][1]? = some editing := rfl
  have written := writing.step (.act invalidates trivial (.cache _ _))
  -- Nothing of the creation was in the cache to be invalidated, and now it comes.
  have keeps : [creating, edited][0]? = some creating := rfl
  have kept := written.step (.act keeps trivial (.cache _ _))
  have called := kept.step (.begin (.resolve 0))
  have looks : [created, edited, .begin {} (.resolve 0)][2]? = some (.begin {} (.resolve 0)) := rfl
  have resolved := called.step (.act looks trivial (.cache _ _))
  refine ⟨_, _, _, resolved, by decide, ?_, rfl, gone, rfl, ?_, ?_⟩
  · exact List.forall_mem_cons.mpr ⟨⟨_, rfl⟩, List.forall_mem_cons.mpr ⟨⟨_, rfl⟩,
      List.forall_mem_singleton.mpr ⟨_, rfl⟩⟩⟩
  · exact ⟨_, List.mem_cons_of_mem _ List.mem_cons_self, Nat.le_refl 2, rfl⟩
  · intro later member edited
    simp only [List.mem_cons] at member
    rcases member with rfl | rfl | rfl | rfl | before
    · exact gone
    · exact gone
    · exact gone
    · exact gone
    · obtain ⟨task, acting, _, result, done⟩ := writing.edited (List.mem_cons.mpr before) edited
      cases acting
      cases done

end Result

end Directory

end Notebook
