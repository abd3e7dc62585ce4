import Notebook.Proofs.Entity.Edit
import Notebook.Proofs.Identity.Login

/-!
# Edits of users

What an edit of a user sends, what comes of it, and what it leaves in the identity cache. The
user is invalidated between the answer of the store and the look at it (`edit_run`), so the cache
forgets the user (`IdentityCache.Forgets`) whatever the answer is, and even if nothing was sent.
-/

namespace Notebook

open Notebook.Sql

/-! ### Forgetting -/

namespace IdentityCache

/-- The later cache is the cache without the user with an id, in the next epoch. -/
structure Forgets (cache later : IdentityCache) (id : Int64) : Prop where
  byId : ∀ entry ∈ later.byId.entries, entry.1 ≠ id ∧ entry.2.id ≠ id
  byGid : ∀ entry ∈ later.byGid.entries, entry.2 ≠ id
  epoch : later.epoch = cache.epoch + 1
  refuses : ∀ user, later.insertIfCurrent user cache.epoch = (false, later)
  others : ∀ other ≠ id, (later.useId other).1 = (cache.useId other).1

variable {cache later : IdentityCache} {id : Int64}

/-- A user that is forgotten is not found. -/
theorem Forgets.useId_eq_none (forgets : cache.Forgets later id) : (later.useId id).1 = none := by
  rw [useId_fst]
  cases found : later.byId.get? id with
  | none => rfl
  | some user => exact absurd rfl (forgets.byId _ (Recency.get?_eq_some_iff.mp found)).1

/-- An invalidation forgets the user. That no subject leads to the user is due to the invariant:
only the subject that the user has now is erased. -/
theorem Indexed.forgets (indexed : cache.Indexed) (id : Int64) :
    cache.Forgets (cache.invalidate id) id where
  byId := by
    intro entry member
    obtain ⟨stored, other⟩ := Recency.mem_erase_iff.mp member
    exact ⟨other, fun same => other ((indexed.ids entry stored).symm.trans same)⟩
  byGid := by
    intro entry member same
    obtain ⟨user, stored, _⟩ := (indexed.invalidate id).subjects entry member
    exact (Recency.mem_erase_iff.mp stored).2 same
  epoch := rfl
  refuses := by
    intro user
    have advanced : (cache.invalidate id).epoch ≠ cache.epoch := by
      change cache.epoch + 1 ≠ cache.epoch
      simp
    exact if_neg advanced
  others := by
    intro other apart
    rw [useId_fst, useId_fst]
    exact Recency.get?_erase_of_ne apart

end IdentityCache

/-! ### Sending -/

/-- The statement assigns the columns of an edit in the row of the user with an id. -/
def Statement.EditsUser (statement : Statement) (id : Int64) (changes : UserChanges) : Prop :=
  ∃ condition, Operation.ofStatement? statement =
      some (.update .users changes.assignments condition) ∧
    ∀ (comparing : Comparing) (row : Row) (stored : Int64), row.get? "id" = some (.int stored) →
      (condition.selects comparing row = true ↔ stored = id)

namespace Users

/-- The update of an edit that gives a field is built, and is scoped to the user. -/
theorem exists_updateStatement (id : Int64) {changes : UserChanges}
    (given : changes.isEmpty = false) :
    ∃ statement,
      Table.users.updateStatement (.eq "id" (.int id)) changes.assignments = .ok statement ∧
        statement.EditsUser id changes := by
  have editable := @Table.map_fst_given .users changes
  have nonempty : changes.assignments ≠ [] := by
    intro nothing
    have empty : changes.isEmpty = true := (@Table.isEmpty_iff .users changes).mpr nothing
    rw [given] at empty
    cases empty
  have within : ∀ column ∈ changes.assignments.map Prod.fst, column ∈ Table.users.columns := by
    have sublist := Table.assigned_sublist (Table.users.given changes)
    rw [← Table.assignments_eq, editable] at sublist
    exact (sublist.trans List.filter_sublist).subset
  obtain ⟨statement, built, reads⟩ := @Table.exists_updateStatement .users (.eq "id" (.int id)) _
    (List.forall_mem_singleton.mpr rfl) nonempty within
  exact ⟨statement, built, _, reads, fun _ _ _ found => Condition.selects_int_iff found⟩

/-- An edit that gives no field has no update. -/
theorem updateStatement_of_empty (id : Int64) {changes : UserChanges}
    (empty : changes.isEmpty = true) :
    Table.users.updateStatement (.eq "id" (.int id)) changes.assignments =
      .error (.invalidInput (.emptyUpdate .users)) := by
  have nothing : changes.assignments = [] := (@Table.isEmpty_iff .users changes).mp empty
  rw [nothing]
  rfl

/-! ### Running -/

/-- What an edit makes of what came of its update: somebody must have been changed. -/
def edited (id : Int64) : Except Error Outcome → Except Error Unit
  | .error error => .error error
  | .ok outcome => if outcome.count = 0 then .error (.notFound (.user id)) else .ok ()

/-- Whatever comes of the update, the user is invalidated before it is looked at. -/
theorem edit_run {Store : Type} {answering : World.Answering Store} {world between : World Store}
    {id : Int64} {changes : UserChanges} {result : Except Error Outcome}
    (came : World.run answering (update id changes).run world = (result, between)) :
    World.run answering (edit id changes).run world =
      (edited id result, { between with cache := between.cache.invalidate id }) := by
  rw [edit, World.run_observe_bind came, World.run_cache_bind]
  cases result with
  | error error => rfl
  | ok outcome =>
      refine (World.run_bind_of_ok rfl _).trans ?_
      have looks : edited id (.ok outcome) =
          if outcome.count = 0 then .error (.notFound (.user id)) else .ok () := rfl
      rw [looks]
      split
      next => rfl
      next => rfl

/-- On an undisturbed script the update is sent if there is one, and leaves the cache alone. -/
theorem update_runs {id : Int64} {changes : UserChanges} {world : World Script}
    {statement : Statement} (undisturbed : world.store.meanwhile = [])
    (built : Table.users.updateStatement (.eq "id" (.int id)) changes.assignments =
      .ok statement) :
    World.run Script.answering (update id changes).run world =
      ((world.store.take statement).1,
        { world with store := (world.store.take statement).2 }) := by
  rw [update, built]
  exact Script.answering_of_undisturbed undisturbed (.execute statement)

/-- After any calls on a new cache, and whatever the store answers: an edit sends nothing and
refuses its input exactly if it gives no field. Else it sends one update, of the user with the id,
and fails as the store does, or because no user was changed, or succeeds. In each of these cases
the cache forgets the user: none with that id is left, no subject leads to one, and the epoch is
the next one, so whoever was read before the edit is not kept; and all other users are found by id
as before. -/
theorem edit_forgets_after_every_outcome (capacity : UInt64) (calls : List IdentityCache.Call)
    (id : Int64) (changes : UserChanges) (response : Except Error Outcome)
    (answers : List (Except Error Outcome)) (clock : Timestamp) :
    let cache := (IdentityCache.empty capacity).after calls
    let ending := World.run Script.answering (edit id changes).run
      ⟨{ answers := response :: answers }, cache, clock⟩
    ∃ said : List (Statement × Except Error Outcome),
      Script.Plays { answers := response :: answers } [] said ending.2.store ∧
      (changes.isEmpty = true ↔ said = [] ∧ ∃ fault, ending.1 = .error (.invalidInput fault)) ∧
      (changes.isEmpty = true → ending.1 = .error (.invalidInput (.emptyUpdate .users))) ∧
      (changes.isEmpty = false →
        ∃ statement, said = [(statement, response)] ∧ statement.EditsUser id changes) ∧
      (changes.isEmpty = false → ∀ error, response = .error error → ending.1 = .error error) ∧
      (changes.isEmpty = false → ∀ outcome, response = .ok outcome →
        (outcome.count = 0 → ending.1 = .error (.notFound (.user id))) ∧
        (outcome.count ≠ 0 → ending.1 = .ok ())) ∧
      cache.Forgets ending.2.cache id := by
  intro cache ending
  have indexed : cache.Indexed := (IdentityCache.Indexed.empty capacity).after calls
  have forgets := indexed.forgets id
  cases empty : changes.isEmpty with
  | true =>
      have unbuilt : World.run Script.answering (update id changes).run
          ⟨{ answers := response :: answers }, cache, clock⟩ =
            (.error (.invalidInput (.emptyUpdate .users)),
              ⟨{ answers := response :: answers }, cache, clock⟩) := by
        rw [update, updateStatement_of_empty id empty]
        rfl
      have came : ending = _ := edit_run unbuilt
      rw [came]
      exact ⟨[], .nil _, by simp [edited], by simp [edited], by simp, by simp, by simp, forgets⟩
  | false =>
      obtain ⟨statement, built, edits⟩ := exists_updateStatement id empty
      have came : ending = _ := edit_run (update_runs rfl built)
      rw [came]
      refine ⟨[(statement, response)], Script.plays_take _ statement, by simp, by simp, ?_, ?_, ?_,
        forgets⟩
      · exact fun _ => ⟨statement, rfl, edits⟩
      · rintro _ error rfl
        rfl
      · rintro _ outcome rfl
        exact ⟨fun nobody => if_pos nobody, fun somebody => if_neg somebody⟩

/-- The user whose update fails is forgotten, and the other one is still found. -/
theorem edit_forgets_after_every_outcome_failing :
    let calls : List IdentityCache.Call :=
      [.insert ⟨0, "Ada", "a@x", "g"⟩, .insert ⟨1, "Bob", "b@x", "h"⟩]
    let changes : UserChanges := { name := some "Eve" }
    let failed : Error := .database .poolTimedOut
    let ending := World.run Script.answering (edit 0 changes).run
      ⟨{ answers := [.error failed] }, (IdentityCache.empty 2).after calls, Table.midnight⟩
    changes.isEmpty = false ∧ ending.1 = .error failed ∧
      (((IdentityCache.empty 2).after calls).useId 0).1 = some ⟨0, "Ada", "a@x", "g"⟩ ∧
      (ending.2.cache.useId 0).1 = none ∧
      (ending.2.cache.useId 1).1 = some ⟨1, "Bob", "b@x", "h"⟩ := by
  intro calls changes failed
  have given : changes.isEmpty = false := rfl
  have before : (((IdentityCache.empty 2).after calls).useId 0).1 =
      some ⟨0, "Ada", "a@x", "g"⟩ ∧
      (((IdentityCache.empty 2).after calls).useId 1).1 = some ⟨1, "Bob", "b@x", "h"⟩ := by
    decide
  obtain ⟨said, _, _, _, _, fails, _, forgets⟩ :=
    edit_forgets_after_every_outcome 2 calls 0 changes (.error failed) [] Table.midnight
  have kept := (forgets.others 1 (by decide)).trans before.2
  dsimp only
  exact ⟨given, fails given failed rfl, before.1, forgets.useId_eq_none, kept⟩

end Users

end Notebook
