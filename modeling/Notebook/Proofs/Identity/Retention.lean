import Mathlib.Data.Finset.Card
import Notebook.Proofs.Identity.Index

/-!
# What the identity cache retains

A user stays in the cache as long as fewer other users are touched than there is room for, and
whoever is found by an id is the user that was inserted last under it
(`recently_touched_is_found`).

The users in front of another in the order of use were all touched after it (`Recency.Behind`),
and `IdentityCache.Orders` says once what a call does to that order. Lookups by subject count,
because they go on to the users.
-/

namespace Notebook

/-! ### Behind other keys -/

namespace Recency

variable {Key Item : Type} [DecidableEq Key] {map later : Recency Key Item} {key other : Key}
  {item : Item} {keys : Finset Key}

/-- The key has an entry, and only keys of these have theirs in front of it. -/
def Behind (map : Recency Key Item) (key : Key) (keys : Finset Key) : Prop :=
  ∃ front item back, map.entries = front ++ (key, item) :: back ∧ ∀ entry ∈ front, entry.1 ∈ keys

/-- A key that is behind others is found. -/
theorem Behind.exists_get? (behind : map.Behind key keys) : ∃ item, map.get? key = some item := by
  obtain ⟨front, item, back, entries, _⟩ := behind
  exact ⟨item, get?_eq_some_iff.mpr (by simp [entries])⟩

/-- A key whose entry was put in front is behind no other. -/
theorem behind_of_renewed (renewed : later.entries = map.inFront key item) (keys : Finset Key) :
    later.Behind key keys := by
  obtain ⟨room, capacity⟩ := Nat.exists_eq_succ_of_ne_zero (Nat.ne_of_gt map.capacity_pos)
  refine ⟨[], item, (map.others key).take room, ?_, fun _ member => nomatch member⟩
  rw [renewed, inFront, capacity, List.take_succ_cons, List.nil_append]

/-- A key does not come to be behind others when the entry of one of these is erased. -/
theorem Behind.erase (behind : map.Behind key keys) (apart : key ≠ other) :
    (map.erase other).Behind key keys := by
  obtain ⟨front, item, back, entries, inside⟩ := behind
  refine ⟨front.filter fun entry => entry.1 ≠ other, item,
    back.filter fun entry => entry.1 ≠ other, ?_, ?_⟩
  · simp [Recency.erase, others, entries, apart]
  · exact fun entry member => inside entry (List.mem_filter.mp member).1

/-- While there is room for a key and all these others, it is not displaced when the entry of one
of them is put in front. -/
theorem Behind.renewed (behind : map.Behind key keys) (apart : key ≠ other)
    (member : other ∈ keys) (few : keys.card < map.capacity)
    (renewed : later.entries = map.inFront other item) : later.Behind key keys := by
  obtain ⟨front, old, back, entries, inside⟩ := behind.erase apart
  have others : map.others other = front ++ (key, old) :: back := entries
  have ahead : ∀ entry ∈ (other, item) :: front, entry.1 ∈ keys := by
    simpa [member] using fun key item inFront => inside (key, item) inFront
  -- What is now in front of the key has distinct keys, and all of them are of these.
  have distinct : (((other, item) :: front).map Prod.fst).Nodup := by
    have all : (((other, item) :: map.others other).map Prod.fst).Nodup :=
      List.nodup_cons.mpr ⟨map.not_mem_others other, map.others_nodup other⟩
    rw [others, ← List.cons_append, List.map_append] at all
    exact (List.nodup_append.mp all).1
  have short : ((other, item) :: front).length ≤ keys.card := by
    have subset : (((other, item) :: front).map Prod.fst).toFinset ⊆ keys := by
      intro key listed
      obtain ⟨entry, inFront, rfl⟩ := List.mem_map.mp (List.mem_toFinset.mp listed)
      exact ahead entry inFront
    have card := Finset.card_le_card subset
    rwa [List.toFinset_card_of_nodup distinct, List.length_map] at card
  obtain ⟨room, rest⟩ : ∃ room,
      map.capacity - ((other, item) :: front).length = room + 1 :=
    Nat.exists_eq_succ_of_ne_zero (by omega)
  refine ⟨(other, item) :: front, old, back.take room, ?_, ahead⟩
  rw [renewed, inFront, others, ← List.cons_append, List.take_append,
    List.take_of_length_le (by omega), rest, List.take_succ_cons]

end Recency

namespace IdentityCache

/-! ### Touching -/

/-- The id that a call touches: of the user that it keeps or gives. -/
def touched? (cache : IdentityCache) : Call → Option Int64
  | .useId id => (cache.useId id).1.map fun _ => id
  | .useGid gid => (cache.useGid gid).1.map User.id
  | .insert user => some user.id
  | .insertIfCurrent user epoch => if cache.epoch = epoch then some user.id else none
  | _ => none

/-- The ids that calls touch one after the other. -/
def touched (cache : IdentityCache) : List Call → List Int64
  | [] => []
  | call :: rest => (cache.touched? call).toList ++ (perform call cache).2.touched rest

/-- What a call does to the users in their order, and the id that it touches. -/
inductive Orders (cache : IdentityCache) : Call → Option Int64 → Recency Int64 User → Prop
  | renew {call : Call} {users : Recency Int64 User} (id : Int64) (user : User)
      (renewed : users.entries = cache.byId.inFront id user) : Orders cache call (some id) users
  | keep {call : Call} : Orders cache call none cache.byId
  | forget (id : Int64) : Orders cache (.invalidate id) none (cache.byId.erase id)

variable {cache : IdentityCache}

/-- Looking for an id puts its user in front, if there is one. -/
theorem orders_use (cache : IdentityCache) (call : Call) (id : Int64) :
    cache.Orders call ((cache.byId.get? id).map fun _ => id) (cache.byId.use id).2 := by
  cases found : cache.byId.get? id with
  | none =>
      rw [Recency.use_of_absent found]
      exact .keep
  | some user => exact .renew id user (Recency.entries_use found)

/-- Keeping a user puts it in front. -/
theorem orders_insert (cache : IdentityCache) (call : Call) (user : User) :
    cache.Orders call (some user.id) (cache.insert user).byId :=
  .renew user.id user (Recency.entries_push _ _ _)

/-- A call puts the user that it touches in front, or leaves the order as it is but for a user
that it invalidates. -/
theorem Indexed.orders (indexed : cache.Indexed) (call : Call) :
    cache.Orders call (cache.touched? call) (perform call cache).2.byId := by
  cases call with
  | useId id =>
      have touched : cache.touched? (.useId id) = (cache.byId.get? id).map fun _ => id := by
        rw [← useId_fst]
        rfl
      rw [touched]
      exact cache.orders_use _ id
  | useGid gid =>
      have touched : cache.touched? (.useGid gid) =
          ((cache.byGid.get? gid).bind cache.byId.get?).map User.id := by
        rw [← useGid_fst]
        rfl
      cases named : cache.byGid.get? gid with
      | none =>
          have same : (cache.useGid gid).2.byId = cache.byId := by
            unfold useGid
            rw [Recency.use_of_absent named]
          rw [touched, named, perform, same]
          exact .keep
      | some id =>
          have found : (cache.useGid gid).2.byId = (cache.byId.use id).2 := by
            have used := Recency.use_fst cache.byGid gid
            unfold useGid
            split
            next other byGid given =>
              rw [given, named] at used
              cases used
              rfl
          -- The user that is found has the id that its subject stands for.
          have same : (cache.byId.get? id).map User.id = (cache.byId.get? id).map fun _ => id := by
            cases stored : cache.byId.get? id with
            | none => rfl
            | some user => exact congrArg some (indexed.ids _ (Recency.get?_eq_some_iff.mp stored))
          rw [touched, named, Option.bind_some, same, perform, found]
          exact cache.orders_use _ id
  | insert user => exact cache.orders_insert _ user
  | insertIfCurrent user epoch =>
      by_cases current : cache.epoch = epoch
      · simp only [touched?, perform, insertIfCurrent, if_pos current]
        exact cache.orders_insert _ user
      · simp only [touched?, perform, insertIfCurrent, if_neg current]
        exact .keep
  | invalidate id => exact .forget id
  | epoch => exact .keep
  | size => exact .keep

/-- A user that was touched is in front. -/
theorem Indexed.behind_of_touched (indexed : cache.Indexed) {call : Call} {id : Int64}
    (touched : cache.touched? call = some id) (keys : Finset Int64) :
    (perform call cache).2.byId.Behind id keys := by
  have orders := indexed.orders call
  rw [touched] at orders
  generalize (perform call cache).2.byId = users at orders
  cases orders with
  | renew _ user renewed => exact Recency.behind_of_renewed renewed keys

/-- A call keeps a user behind these others, if there is room for all of them, it touches no
further one, and it does not invalidate the user. -/
theorem Indexed.behind_step (indexed : cache.Indexed) {call : Call} {id : Int64}
    {keys : Finset Int64} (behind : cache.byId.Behind id keys)
    (few : keys.card < cache.byId.capacity)
    (within : ∀ other ∈ cache.touched? call, other ≠ id → other ∈ keys)
    (kept : call ≠ .invalidate id) : (perform call cache).2.byId.Behind id keys := by
  have orders := indexed.orders call
  generalize (perform call cache).2.byId = users at orders
  generalize cache.touched? call = touched at orders within
  cases orders with
  | renew other user renewed =>
      by_cases same : other = id
      · subst same
        exact Recency.behind_of_renewed renewed keys
      · exact behind.renewed (Ne.symm same) (within other rfl same) few renewed
  | keep => exact behind
  | forget other =>
      refine behind.erase ?_
      rintro rfl
      exact kept rfl

/-- Calls keep a user behind these others, if there is room for all of them, they touch no further
one, and they do not invalidate the user. -/
theorem Indexed.behind_after (indexed : cache.Indexed) {calls : List Call} {id : Int64}
    {keys : Finset Int64} (behind : cache.byId.Behind id keys)
    (few : keys.card < cache.byId.capacity)
    (within : ∀ other ∈ cache.touched calls, other ≠ id → other ∈ keys)
    (kept : .invalidate id ∉ calls) : (cache.after calls).byId.Behind id keys := by
  induction calls generalizing cache with
  | nil => exact behind
  | cons call rest inductionHypothesis =>
      have capacity : (perform call cache).2.byId.capacity = cache.byId.capacity :=
        cache.capacity_after [call]
      refine inductionHypothesis (indexed.step (cache.moves call)) ?_ (by rwa [capacity]) ?_ ?_
      · refine indexed.behind_step behind few (fun other touched => within other ?_) ?_
        · exact List.mem_append_left _ (Option.mem_toList.mpr touched)
        · rintro rfl
          exact kept List.mem_cons_self
      · exact fun other touched => within other (List.mem_append_right _ touched)
      · exact fun member => kept (List.mem_cons_of_mem _ member)

/-! ### Where users come from -/

/-- A user in the cache was kept by some call; since then no other was kept under its id, and it
was not invalidated. -/
theorem exists_kept {capacity : UInt64} {calls : List Call} {entry : Int64 × User}
    (member : entry ∈ ((empty capacity).after calls).byId.entries) :
    ∃ before call since, calls = before ++ call :: since ∧
      ((empty capacity).after before).inserted? call = some entry.2 ∧ entry.2.id = entry.1 ∧
      .invalidate entry.1 ∉ since ∧
      ∀ user ∈ ((empty capacity).after (before ++ [call])).inserted since, user.id ≠ entry.1 := by
  induction calls using List.reverseRecOn with
  | nil => cases member
  | append_singleton calls last inductionHypothesis =>
      rw [after_append] at member
      rcases mem_byId_perform member with ⟨kept, id⟩ | ⟨old, unlike, others⟩
      · exact ⟨calls, last, [], rfl, kept, id.symm, List.not_mem_nil,
          fun _ listed => nomatch listed⟩
      · obtain ⟨before, call, since, rfl, kept, id, notForgotten, notReplaced⟩ :=
          inductionHypothesis old
        refine ⟨before, call, since ++ [last], by simp, kept, id, ?_, ?_⟩
        · simp [notForgotten, Ne.symm unlike]
        · intro user listed
          rw [inserted_append, ← after_append, List.append_assoc, List.singleton_append] at listed
          rcases List.mem_append.mp listed with earlier | now
          · exact notReplaced user earlier
          · simp only [inserted, List.append_nil, Option.mem_toList] at now
            exact others user now

/-- The user that was kept last under an id. -/
def latest? (users : List User) (id : Int64) : Option User :=
  users.reverse.find? fun user => user.id = id

/-- A user with an id is the latest one, if none behind it has the id. -/
theorem latest?_append {front back : List User} {user : User} {id : Int64} (own : user.id = id)
    (others : ∀ other ∈ back, other.id ≠ id) :
    latest? (front ++ user :: back) id = some user := by
  have none : back.reverse.find? (fun user => user.id = id) = none := by
    simpa [List.find?_eq_none] using others
  simp [latest?, none, own]

/-- Whoever is found by an id was kept last under it. -/
theorem latest?_of_found {capacity : UInt64} {calls : List Call} {id : Int64} {user : User}
    (found : (((empty capacity).after calls).useId id).1 = some user) :
    latest? ((empty capacity).inserted calls) id = some user := by
  rw [useId_fst] at found
  obtain ⟨before, call, since, rfl, kept, own, _, others⟩ :=
    exists_kept (Recency.get?_eq_some_iff.mp found)
  have whole : (empty capacity).inserted (before ++ call :: since) =
      (empty capacity).inserted before ++
        user :: ((empty capacity).after (before ++ [call])).inserted since := by
    rw [inserted_append, inserted, kept, after_append]
    rfl
  rw [whole]
  exact latest?_append own others

/-! ### The result -/

/-- Whatever calls are made on a new cache: a user that one of them touches is found by its id
as long as it was not invalidated since and the other ids that were touched since are fewer than
there is room for; it is found then as it was kept last. Since any touch of an id no fewer others
were touched than since its last touch, so this holds of the last touch in particular. And under
no id anybody but the user that was kept last is ever found. -/
theorem recently_touched_is_found (capacity : UInt64) :
    (∀ (before since : List Call) (touching : Call) (id : Int64),
      ((empty capacity).after before).touched? touching = some id →
      .invalidate id ∉ since →
      ((((empty capacity).after (before ++ [touching])).touched since).toFinset.erase id).card ≤
        effectiveCapacity capacity - 1 →
      ∃ user, latest? ((empty capacity).inserted (before ++ touching :: since)) id = some user ∧
        (((empty capacity).after (before ++ touching :: since)).useId id).1 = some user) ∧
    ∀ (calls : List Call) (id : Int64) (user : User),
      (((empty capacity).after calls).useId id).1 = some user →
      latest? ((empty capacity).inserted calls) id = some user := by
  refine ⟨fun before since touching id touches kept few => ?_, fun _ _ _ => latest?_of_found⟩
  have indexed (calls : List Call) := (Indexed.empty capacity).after calls
  have room : (((empty capacity).after (before ++ [touching])).byId).capacity =
      effectiveCapacity capacity := capacity_after _ _
  have positive := effectiveCapacity_pos capacity
  have touched := (indexed before).behind_of_touched touches
    ((((empty capacity).after (before ++ [touching])).touched since).toFinset.erase id)
  have whole : before ++ touching :: since = (before ++ [touching]) ++ since := by simp
  rw [whole, after_append]
  have behind := (indexed (before ++ [touching])).behind_after (by rwa [after_append])
    (by rw [room]; omega) (fun other listed apart => by simpa using ⟨apart, listed⟩) kept
  obtain ⟨user, found⟩ := behind.exists_get?
  rw [← useId_fst] at found
  refine ⟨user, latest?_of_found ?_, found⟩
  rwa [after_append]

/-- In a cache for two users, one that was inserted again under another subject and then found by
it outlasts the next user, who displaces a third. -/
theorem recently_touched_is_found_displacing :
    let before : List Call :=
      [.insert ⟨0, "Ada", "a@x", "g"⟩, .insert ⟨0, "Ada", "b@x", "h"⟩,
        .insert ⟨1, "Bob", "c@x", "k"⟩]
    let since : List Call := [.insert ⟨2, "Cy", "d@x", "l"⟩, .useId 1, .useId 2]
    ((empty 2).after before).touched? (.useGid "h") = some 0 ∧
      .invalidate 0 ∉ since ∧
      ((((empty 2).after (before ++ [.useGid "h"])).touched since).toFinset.erase 0).card ≤
        effectiveCapacity 2 - 1 ∧
      (((empty 2).after (before ++ .useGid "h" :: since)).useId 0).1 =
        some ⟨0, "Ada", "b@x", "h"⟩ := by
  intro before since
  have touches : ((empty 2).after before).touched? (.useGid "h") = some 0 := by decide
  have kept : .invalidate 0 ∉ since := by decide
  have few : ((((empty 2).after (before ++ [.useGid "h"])).touched since).toFinset.erase 0).card ≤
      effectiveCapacity 2 - 1 := by decide
  obtain ⟨user, latest, found⟩ :=
    (recently_touched_is_found 2).1 before since (.useGid "h") 0 touches kept few
  have last : latest? ((empty 2).inserted (before ++ .useGid "h" :: since)) 0 =
      some ⟨0, "Ada", "b@x", "h"⟩ := by decide
  rw [last] at latest
  cases latest
  exact ⟨touches, kept, few, found⟩

end IdentityCache

end Notebook
