import Notebook.Proofs.Identity.Retention

/-!
# The epoch of the identity cache

The epoch is the number of invalidations, of users in the cache and of others, up to the width of
its counter. So an epoch that was taken is still the same exactly if nobody was invalidated since,
unless the counter has gone round in between; and an insertion that depends on it is made in that
case only (`epoch_guards_insertions`).

If all insertions are of this kind, a user in the cache was read behind the last invalidation of
its id.
-/

namespace Notebook.IdentityCache

variable {cache : IdentityCache}

/-! ### Counting invalidations -/

/-- The call invalidates a user. -/
def Call.invalidates : Call → Bool
  | .invalidate _ => true
  | _ => false

/-- How many of the calls invalidate a user. -/
def invalidations (calls : List Call) : Nat :=
  calls.countP Call.invalidates

/-- There are no invalidations if nobody is invalidated. -/
theorem invalidations_eq_zero_iff {calls : List Call} :
    invalidations calls = 0 ↔ ∀ id, .invalidate id ∉ calls := by
  rw [invalidations, List.countP_eq_zero]
  constructor
  · exact fun quiet id member => quiet _ member rfl
  · intro quiet call member
    cases call with
    | invalidate id => exact absurd member (quiet id)
    | _ => exact Bool.false_ne_true

/-- An invalidation begins a new epoch, and nothing else does. -/
theorem epoch_perform (cache : IdentityCache) (call : Call) :
    (perform call cache).2.epoch = cache.epoch + if call.invalidates then 1 else 0 := by
  have same : cache.epoch = cache.epoch + 0 := (UInt64.add_zero _).symm
  cases call with
  | useId id => exact same
  | useGid gid => exact (cache.alike_useGid gid).epoch.trans same
  | insert user => exact same
  | insertIfCurrent user epoch =>
      by_cases current : cache.epoch = epoch
      · simp only [perform, insertIfCurrent, if_pos current]
        exact same
      · simp only [perform, insertIfCurrent, if_neg current]
        exact same
  | invalidate id => rfl
  | epoch => exact same
  | size => exact same

/-- Calls add to the epoch how often they invalidate. -/
theorem epoch_after (cache : IdentityCache) (calls : List Call) :
    (cache.after calls).epoch = cache.epoch + UInt64.ofNat (invalidations calls) := by
  induction calls generalizing cache with
  | nil => exact (UInt64.add_zero _).symm
  | cons call rest inductionHypothesis =>
      have count : invalidations (call :: rest) =
          (if call.invalidates then 1 else 0) + invalidations rest := by
        rw [invalidations, List.countP_cons, Nat.add_comm]
        rfl
      have first : UInt64.ofNat (if call.invalidates then 1 else 0) =
          if call.invalidates then 1 else 0 := by
        split <;> rfl
      rw [count, UInt64.ofNat_add, first, ← UInt64.add_assoc, ← epoch_perform]
      exact inductionHypothesis _

/-- While the counter does not go round, the epoch stays the same exactly if nobody is
invalidated. -/
theorem epoch_eq_iff {calls : List Call} (few : invalidations calls < UInt64.size) :
    (cache.after calls).epoch = cache.epoch ↔ ∀ id, .invalidate id ∉ calls := by
  rw [← invalidations_eq_zero_iff, epoch_after]
  have value : (UInt64.ofNat (invalidations calls)).toNat = invalidations calls :=
    UInt64.toNat_ofNat_of_lt few
  constructor
  · intro same
    have zero : UInt64.ofNat (invalidations calls) = 0 := by simpa using same
    rw [zero] at value
    exact value.symm
  · intro none
    rw [none]
    exact UInt64.add_zero _

/-! ### Insertions that depend on an epoch -/

/-- An insertion that depends on an epoch is made if it is that epoch. -/
theorem insertIfCurrent_fst_eq_true_iff {user : User} {epoch : UInt64} :
    (cache.insertIfCurrent user epoch).1 = true ↔ cache.epoch = epoch := by
  unfold insertIfCurrent
  split <;> simp [*]

/-- An insertion that is made is one. -/
theorem insertIfCurrent_snd {user : User} {epoch : UInt64} (current : cache.epoch = epoch) :
    (cache.insertIfCurrent user epoch).2 = cache.insert user := by
  rw [insertIfCurrent, if_pos current]

/-- An insertion that is not made changes nothing. -/
theorem insertIfCurrent_of_refused {user : User} {epoch : UInt64}
    (refused : (cache.insertIfCurrent user epoch).1 = false) :
    (cache.insertIfCurrent user epoch).2 = cache := by
  have other : ¬ cache.epoch = epoch := by
    rw [← insertIfCurrent_fst_eq_true_iff, refused]
    exact Bool.false_ne_true
  rw [insertIfCurrent, if_neg other]

/-- One of the calls took this epoch, with those in front of it and those behind it. -/
def TakenAmong (cache : IdentityCache) (calls : List Call) (epoch : UInt64)
    (front behind : List Call) : Prop :=
  calls = front ++ .epoch :: behind ∧ (perform .epoch (cache.after front)).1 = epoch

/-- Users are inserted only if an epoch that was taken before is still the same. -/
structure InsertsIfCurrent (cache : IdentityCache) (calls : List Call) : Prop where
  only : ∀ user, .insert user ∉ calls
  taken : ∀ before user epoch since, calls = before ++ .insertIfCurrent user epoch :: since →
    ∃ front behind, cache.TakenAmong before epoch front behind

/-- An epoch that was taken is still the same exactly if nobody was invalidated since. -/
theorem TakenAmong.current_iff {calls front behind : List Call} {epoch : UInt64}
    (taken : cache.TakenAmong calls epoch front behind)
    (few : invalidations calls < UInt64.size) :
    (cache.after calls).epoch = epoch ↔ ∀ id, .invalidate id ∉ behind := by
  obtain ⟨rfl, rfl⟩ := taken
  have fewer : invalidations behind < UInt64.size := by
    refine Nat.lt_of_le_of_lt ?_ few
    rw [invalidations, invalidations, List.countP_append, List.countP_cons]
    omega
  rw [after_append]
  exact epoch_eq_iff fewer

/-- Where insertions depend on epochs, a call that keeps a user found its epoch to be the same. -/
theorem InsertsIfCurrent.of_inserted? {calls before since : List Call} {call : Call} {user : User}
    (guarded : cache.InsertsIfCurrent calls) (split : calls = before ++ call :: since)
    (kept : (cache.after before).inserted? call = some user) :
    call = .insertIfCurrent user (cache.after before).epoch := by
  cases call with
  | insert other =>
      refine absurd ?_ (guarded.only other)
      rw [split]
      exact List.mem_append_right _ List.mem_cons_self
  | insertIfCurrent other epoch =>
      rw [inserted?] at kept
      split at kept
      next current =>
        cases kept
        rw [current]
      next => cases kept
  | _ => cases kept

/-! ### The result -/

/-- Whatever calls are made on a new cache, as long as its counter does not go round: an insertion
that depends on an epoch that was taken is made exactly if no id was invalidated since, whether it
was in the cache or not. The user is then found under its id and under its subject; if the
insertion is not made, the cache is as it was. So where all insertions depend on epochs that were
taken before, a user that is found by an id was inserted under it with an epoch that was taken
behind the last invalidation of the id. -/
theorem epoch_guards_insertions (capacity : UInt64) :
    (∀ (before between : List Call) (user : User),
      invalidations (before ++ .epoch :: between) < UInt64.size →
      let epoch := (perform .epoch ((empty capacity).after before)).1
      let cache := (empty capacity).after (before ++ .epoch :: between)
      let tried := perform (.insertIfCurrent user epoch) cache
      (tried.1 = true ↔ ∀ id, .invalidate id ∉ between) ∧
      (tried.1 = true → tried.2.Knows user) ∧
      (tried.1 = false → tried.2 = cache)) ∧
    ∀ calls : List Call, (empty capacity).InsertsIfCurrent calls →
      invalidations calls < UInt64.size → ∀ (id : Int64) (user : User),
      (((empty capacity).after calls).useId id).1 = some user →
      ∃ before epoch since, calls = before ++ .insertIfCurrent user epoch :: since ∧
        (perform (.insertIfCurrent user epoch) ((empty capacity).after before)).1 = true ∧
        user.id = id ∧
        (∃ front behind, (empty capacity).TakenAmong before epoch front behind) ∧
        ∀ front behind, (empty capacity).TakenAmong before epoch front behind →
          .invalidate id ∉ behind ++ since := by
  constructor
  · intro before between user few epoch cache tried
    have taken : (empty capacity).TakenAmong (before ++ .epoch :: between) epoch before between :=
      ⟨rfl, rfl⟩
    refine ⟨insertIfCurrent_fst_eq_true_iff.trans (taken.current_iff few), fun made => ?_,
      insertIfCurrent_of_refused⟩
    have later : tried.2 = cache.insert user :=
      insertIfCurrent_snd (insertIfCurrent_fst_eq_true_iff.mp made)
    rw [later]
    exact cache.knows_insert user
  · intro calls guarded few id user found
    rw [useId_fst] at found
    obtain ⟨before, call, since, split, kept, own, notSince, _⟩ :=
      exists_kept (Recency.get?_eq_some_iff.mp found)
    obtain rfl := guarded.of_inserted? split kept
    refine ⟨before, _, since, split, insertIfCurrent_fst_eq_true_iff.mpr rfl, own,
      guarded.taken _ _ _ _ split, fun front behind taken member => ?_⟩
    have fewer : invalidations before < UInt64.size := by
      refine Nat.lt_of_le_of_lt ?_ few
      rw [split, invalidations, invalidations, List.countP_append]
      exact Nat.le_add_right _ _
    rcases List.mem_append.mp member with early | late
    · exact (taken.current_iff fewer).mp rfl id early
    · exact notSince late

/-- An invalidation of somebody who is not in the cache makes an earlier reader start over, and
what it inserts then was read behind the invalidation. -/
theorem epoch_guards_insertions_absent :
    let ada : User := ⟨0, "Ada", "a@x", "g"⟩
    let calls : List Call := [.epoch, .invalidate 0, .insertIfCurrent ada 0, .epoch,
      .insertIfCurrent ada 1]
    invalidations ([] ++ .epoch :: [.invalidate 0]) < UInt64.size ∧
      (perform (.insertIfCurrent ada 0) ((empty 4).after [.epoch, .invalidate 0])).1 = false ∧
      (empty 4).InsertsIfCurrent calls ∧ invalidations calls < UInt64.size ∧
      (((empty 4).after calls).useId 0).1 = some ada ∧
      ∃ before epoch since, calls = before ++ .insertIfCurrent ada epoch :: since ∧
        ∀ front behind, (empty 4).TakenAmong before epoch front behind →
          .invalidate 0 ∉ behind ++ since := by
  intro ada calls
  have few : invalidations ([] ++ .epoch :: [.invalidate 0]) < UInt64.size := by decide
  have stale := ((epoch_guards_insertions 4).1 [] [.invalidate 0] ada few).1
  have refused :
      (perform (.insertIfCurrent ada 0) ((empty 4).after [.epoch, .invalidate 0])).1 = false :=
    Bool.eq_false_iff.mpr fun made => stale.mp made 0 List.mem_cons_self
  have guarded : (empty 4).InsertsIfCurrent calls := by
    refine ⟨fun user => by simp [calls], fun before user epoch since split => ?_⟩
    -- The two insertions are the only places where the calls can be split so.
    obtain ⟨rfl, rfl⟩ | ⟨rfl, rfl⟩ :
        before = [.epoch, .invalidate 0] ∧ epoch = 0 ∨
          before = [.epoch, .invalidate 0, .insertIfCurrent ada 0, .epoch] ∧ epoch = 1 := by
      rcases before with _ | ⟨_, _ | ⟨_, _ | ⟨_, _ | ⟨_, _ | ⟨_, _⟩⟩⟩⟩⟩ <;> simp [calls] at split
      · obtain ⟨rfl, rfl, ⟨-, rfl⟩, -⟩ := split
        exact .inl ⟨rfl, rfl⟩
      · obtain ⟨rfl, rfl, rfl, rfl, ⟨-, rfl⟩, -⟩ := split
        exact .inr ⟨rfl, rfl⟩
    · exact ⟨[], [.invalidate 0], rfl, rfl⟩
    · exact ⟨[.epoch, .invalidate 0, .insertIfCurrent ada 0], [], rfl, rfl⟩
  have few' : invalidations calls < UInt64.size := by decide
  have found : (((empty 4).after calls).useId 0).1 = some ada := by decide
  obtain ⟨before, epoch, since, split, _, _, _, behind⟩ :=
    (epoch_guards_insertions 4).2 calls guarded few' 0 ada found
  exact ⟨few, refused, guarded, few', found, before, epoch, since, split, behind⟩

end Notebook.IdentityCache
