import Mathlib.Data.List.Perm.Subperm
import Notebook.Identity.Cache
import Notebook.Proofs.Identity.Recency

/-!
# The indexes of the identity cache

Users are kept by id, and their ids by subject, in two recency maps that are kept in step by
hand. `IdentityCache.Indexed` holds after every run of calls: an entry by subject leads to a
user with that subject. So there are never more entries by subject than users, and only the
users have to be displaced (`indexes_stay_in_step`).

`IdentityCache.Moves` says once what a call can do to a cache.
-/

namespace Notebook.IdentityCache

/-! ### Runs -/

/-- The cache after calls one after the other. -/
def after (cache : IdentityCache) (calls : List Call) : IdentityCache :=
  calls.foldl (fun cache call => (perform call cache).2) cache

/-- The user that a call keeps. -/
def inserted? (cache : IdentityCache) : Call → Option User
  | .insert user => some user
  | .insertIfCurrent user epoch => if cache.epoch = epoch then some user else none
  | _ => none

/-- The users that calls keep one after the other. -/
def inserted (cache : IdentityCache) : List Call → List User
  | [] => []
  | call :: rest => (cache.inserted? call).toList ++ (perform call cache).2.inserted rest

/-- The users in the cache. -/
def users (cache : IdentityCache) : List User :=
  cache.byId.entries.map Prod.snd

/-- No subject stands for two ids. -/
def OneIdEach (users : List User) : Prop :=
  ∀ first ∈ users, ∀ second ∈ users, first.gid = second.gid → first.id = second.id

/-- The caches have the same entries; the order of use may be another. -/
structure Alike (cache later : IdentityCache) : Prop where
  byId : ∀ entry, entry ∈ later.byId.entries ↔ entry ∈ cache.byId.entries
  byGid : ∀ entry, entry ∈ later.byGid.entries ↔ entry ∈ cache.byGid.entries
  idCapacity : later.byId.capacity = cache.byId.capacity
  gidCapacity : later.byGid.capacity = cache.byGid.capacity
  epoch : later.epoch = cache.epoch

/-- What a call can do to a cache, and the user that it keeps. -/
inductive Moves (cache : IdentityCache) : Option User → IdentityCache → Prop
  | reorder {later : IdentityCache} (alike : cache.Alike later) : Moves cache none later
  | insert (user : User) : Moves cache (some user) (cache.insert user)
  | invalidate (id : Int64) : Moves cache none (cache.invalidate id)

variable {cache later : IdentityCache} {user : User}

/-- A cache is like itself. -/
theorem Alike.refl (cache : IdentityCache) : cache.Alike cache :=
  ⟨fun _ => Iff.rfl, fun _ => Iff.rfl, rfl, rfl, rfl⟩

/-- Finding a user by id changes the order of use only. -/
theorem alike_useId (cache : IdentityCache) (id : Int64) : cache.Alike (cache.useId id).2 where
  byId := fun _ => Recency.mem_use_iff
  byGid := fun _ => Iff.rfl
  idCapacity := Recency.capacity_use _ _
  gidCapacity := rfl
  epoch := rfl

/-- Finding a user by subject changes the order of use only. -/
theorem alike_useGid (cache : IdentityCache) (gid : String) : cache.Alike (cache.useGid gid).2 := by
  have order : ∀ entry, entry ∈ (cache.byGid.use gid).2.entries ↔ entry ∈ cache.byGid.entries :=
    fun _ => Recency.mem_use_iff
  have capacity := Recency.capacity_use cache.byGid gid
  unfold useGid
  split
  next id byGid used =>
    rw [used] at order capacity
    cases id with
    | none => exact ⟨fun _ => Iff.rfl, order, rfl, capacity, rfl⟩
    | some id =>
        exact ⟨fun _ => Recency.mem_use_iff, order, Recency.capacity_use _ _, capacity, rfl⟩

/-- A call reorders the entries, keeps a user or forgets one. -/
theorem moves (cache : IdentityCache) (call : Call) :
    cache.Moves (cache.inserted? call) (perform call cache).2 := by
  cases call with
  | useId id => exact .reorder (cache.alike_useId id)
  | useGid gid => exact .reorder (cache.alike_useGid gid)
  | insert user => exact .insert user
  | insertIfCurrent user epoch =>
      by_cases current : cache.epoch = epoch
      · simp only [inserted?, perform, insertIfCurrent, if_pos current]
        exact .insert user
      · simp only [inserted?, perform, insertIfCurrent, if_neg current]
        exact .reorder (.refl cache)
  | invalidate id => exact .invalidate id
  | epoch => exact .reorder (.refl cache)
  | size => exact .reorder (.refl cache)

/-- After a call a user in the cache is the one that it keeps, or was there before, and the call
neither keeps another user under its id nor invalidates it. -/
theorem mem_byId_perform {call : Call} {entry : Int64 × User}
    (member : entry ∈ (perform call cache).2.byId.entries) :
    (cache.inserted? call = some entry.2 ∧ entry.1 = entry.2.id) ∨
      entry ∈ cache.byId.entries ∧ call ≠ .invalidate entry.1 ∧
        ∀ user, cache.inserted? call = some user → user.id ≠ entry.1 := by
  by_cases invalidates : ∃ id, call = .invalidate id
  · obtain ⟨id, rfl⟩ := invalidates
    obtain ⟨before, other⟩ := Recency.mem_erase_iff.mp member
    refine .inr ⟨before, fun same => other ?_, fun _ kept => nomatch kept⟩
    cases same
    rfl
  · have unlike (id : Int64) : call ≠ .invalidate id := fun same => invalidates ⟨id, same⟩
    have moves := cache.moves call
    generalize (perform call cache).2 = later at moves member
    generalize cache.inserted? call = kept at moves ⊢
    cases moves with
    | reorder alike =>
        exact .inr ⟨(alike.byId entry).mp member, unlike _, fun _ kept => nomatch kept⟩
    | insert user =>
        rcases Recency.mem_push_iff.mp member with rfl | ⟨before, notGone⟩
        · exact .inl ⟨rfl, rfl⟩
        · refine .inr ⟨before, unlike _, ?_⟩
          rintro _ ⟨⟩ same
          obtain ⟨id, old⟩ := entry
          cases same
          exact notGone (Recency.push_fst_of_mem before _)
    | invalidate id =>
        exact .inr ⟨(Recency.mem_erase_iff.mp member).1, unlike _, fun _ kept => nomatch kept⟩

/-- Calls one after the other are made in two parts. -/
theorem after_append (cache : IdentityCache) (first second : List Call) :
    cache.after (first ++ second) = (cache.after first).after second :=
  List.foldl_append

/-- Calls one after the other keep the users of both parts. -/
theorem inserted_append (cache : IdentityCache) (first second : List Call) :
    cache.inserted (first ++ second) =
      cache.inserted first ++ (cache.after first).inserted second := by
  induction first generalizing cache with
  | nil => rfl
  | cons call rest inductionHypothesis =>
      simp only [List.cons_append, inserted, inductionHypothesis, List.append_assoc]
      rfl

/-! ### Looking up -/

/-- A user is found by the id that it is kept under. -/
theorem useId_fst (cache : IdentityCache) (id : Int64) :
    (cache.useId id).1 = cache.byId.get? id :=
  Recency.use_fst _ _

/-- A user is found by its subject through the id that the subject stands for. -/
theorem useGid_fst (cache : IdentityCache) (gid : String) :
    (cache.useGid gid).1 = (cache.byGid.get? gid).bind cache.byId.get? := by
  rw [← Recency.use_fst]
  unfold useGid
  split
  next id byGid used =>
    rw [used]
    cases id with
    | none => rfl
    | some id => exact Recency.use_fst _ _

/-- The user is found under its id and under its subject. -/
def Knows (cache : IdentityCache) (user : User) : Prop :=
  (cache.useId user.id).1 = some user ∧ (cache.useGid user.gid).1 = some user

/-- A user is found if both its entries are there. -/
theorem knows_of_mem (byId : (user.id, user) ∈ cache.byId.entries)
    (byGid : (user.gid, user.id) ∈ cache.byGid.entries) : cache.Knows user := by
  have stored := Recency.get?_eq_some_iff.mpr byId
  have named := Recency.get?_eq_some_iff.mpr byGid
  refine ⟨?_, ?_⟩
  · rw [useId_fst, stored]
  · rw [useGid_fst, named, Option.bind_some, stored]

/-- A user that was just kept is found. -/
theorem knows_insert (cache : IdentityCache) (user : User) : (cache.insert user).Knows user :=
  knows_of_mem (Recency.mem_push_iff.mpr (.inl rfl)) (Recency.mem_push_iff.mpr (.inl rfl))

/-- The ids by subject at the moment when those of a user are to be stored: the subject of
the user that is replaced or displaced is forgotten, unless it is the same. -/
def remembered (cache : IdentityCache) (user : User) : Recency String Int64 :=
  match (cache.byId.push user.id user).1 with
  | some (_, old) => if old.gid = user.gid then cache.byGid else cache.byGid.erase old.gid
  | none => cache.byGid

/-- Keeping a user stores it under its id, and its id under its subject. -/
theorem insert_eq (cache : IdentityCache) (user : User) :
    cache.insert user =
      { byId := (cache.byId.push user.id user).2
        byGid := ((cache.remembered user).push user.gid user.id).2
        epoch := cache.epoch } := rfl

/-- What is remembered are the entries of all subjects but that of the user who goes. -/
theorem mem_remembered_iff {entry : String × Int64} :
    entry ∈ (cache.remembered user).entries ↔ entry ∈ cache.byGid.entries ∧
      ∀ gone, (cache.byId.push user.id user).1 = some gone →
        gone.2.gid ≠ user.gid → entry.1 ≠ gone.2.gid := by
  unfold remembered
  split
  next key old given =>
    simp only [given, Option.some.injEq]
    split
    next same =>
      refine ⟨fun member => ⟨member, ?_⟩, And.left⟩
      rintro gone rfl different
      exact absurd same different
    next different =>
      rw [Recency.mem_erase_iff]
      refine and_congr_right fun _ => ⟨?_, fun other => other _ rfl different⟩
      rintro other gone rfl _
      exact other
  next given => simp [given]

/-! ### The invariant -/

/-- Users are kept under their ids, and an entry by subject leads to a user with it. -/
structure Indexed (cache : IdentityCache) : Prop where
  ids : ∀ entry ∈ cache.byId.entries, entry.2.id = entry.1
  subjects : ∀ entry ∈ cache.byGid.entries, ∃ user,
    (entry.2, user) ∈ cache.byId.entries ∧ user.gid = entry.1
  capacity : cache.byGid.capacity = cache.byId.capacity

namespace Indexed

/-- An empty cache is indexed. -/
theorem empty (capacity : UInt64) : (IdentityCache.empty capacity).Indexed where
  ids := fun _ member => nomatch member
  subjects := fun _ member => nomatch member
  capacity := rfl

/-- The order of use does not matter. -/
theorem reorder (indexed : cache.Indexed) (alike : cache.Alike later) : later.Indexed where
  ids := fun entry member => indexed.ids entry ((alike.byId entry).mp member)
  subjects := by
    intro entry member
    obtain ⟨user, stored, same⟩ := indexed.subjects entry ((alike.byGid entry).mp member)
    exact ⟨user, (alike.byId _).mpr stored, same⟩
  capacity := by rw [alike.idCapacity, alike.gidCapacity, indexed.capacity]

/-- What is remembered for other subjects still leads to a user after a user is kept. -/
theorem remembered (indexed : cache.Indexed) {entry : String × Int64}
    (member : entry ∈ (cache.remembered user).entries) (other : entry.1 ≠ user.gid) :
    ∃ found, (entry.2, found) ∈ (cache.insert user).byId.entries ∧ found.gid = entry.1 := by
  obtain ⟨stored, kept⟩ := mem_remembered_iff.mp member
  obtain ⟨found, present, same⟩ := indexed.subjects entry stored
  refine ⟨found, Recency.mem_push_iff.mpr (.inr ⟨present, fun gone => ?_⟩), same⟩
  exact kept _ gone (fun equal => other (same.symm.trans equal)) same.symm

/-- Keeping a user keeps the cache indexed. -/
theorem insert (indexed : cache.Indexed) (user : User) : (cache.insert user).Indexed where
  ids := by
    intro entry member
    rcases Recency.mem_push_iff.mp member with rfl | ⟨old, _⟩
    · rfl
    · exact indexed.ids entry old
  subjects := by
    intro entry member
    rcases Recency.mem_push_iff.mp member with rfl | ⟨old, notGone⟩
    · exact ⟨user, Recency.mem_push_iff.mpr (.inl rfl), rfl⟩
    · refine indexed.remembered old fun same => notGone ?_
      obtain ⟨subject, id⟩ := entry
      cases same
      exact Recency.push_fst_of_mem old _
  capacity := by
    have unchanged : (cache.remembered user).capacity = cache.byGid.capacity := by
      unfold IdentityCache.remembered
      split
      · split <;> rfl
      · rfl
    rw [insert_eq, Recency.capacity_push, Recency.capacity_push, unchanged, indexed.capacity]

/-- The entry by subject of a user goes with the user. -/
theorem mem_byGid_invalidate {id : Int64} {entry : String × Int64} :
    entry ∈ (cache.invalidate id).byGid.entries ↔ entry ∈ cache.byGid.entries ∧
      ∀ user, cache.byId.get? id = some user → entry.1 ≠ user.gid := by
  unfold invalidate
  dsimp only
  split
  next user found => simp [found, Recency.mem_erase_iff]
  next absent => simp [absent]

/-- Forgetting a user keeps the cache indexed. -/
theorem invalidate (indexed : cache.Indexed) (id : Int64) : (cache.invalidate id).Indexed where
  ids := fun entry member => indexed.ids entry (Recency.mem_erase_iff.mp member).1
  subjects := by
    intro entry member
    obtain ⟨stored, other⟩ := mem_byGid_invalidate.mp member
    obtain ⟨user, present, same⟩ := indexed.subjects entry stored
    refine ⟨user, Recency.mem_erase_iff.mpr ⟨present, ?_⟩, same⟩
    rintro rfl
    exact other user (Recency.get?_eq_some_iff.mpr present) same.symm
  capacity := by
    unfold IdentityCache.invalidate
    dsimp only
    split <;> simp [indexed.capacity]

/-- Every call keeps the cache indexed. -/
theorem step {taken : Option User} (indexed : cache.Indexed) (moves : cache.Moves taken later) :
    later.Indexed := by
  cases moves with
  | reorder alike => exact indexed.reorder alike
  | insert user => exact indexed.insert user
  | invalidate id => exact indexed.invalidate id

/-- Every run of calls keeps the cache indexed. -/
theorem after (indexed : cache.Indexed) (calls : List Call) : (cache.after calls).Indexed := by
  induction calls generalizing cache with
  | nil => exact indexed
  | cons call rest inductionHypothesis =>
      exact inductionHypothesis (indexed.step (cache.moves call))

/-! ### Sizes -/

/-- Subjects that lead to users of their own are no more than the users. -/
theorem length_le {entries : List (String × Int64)} {users : Recency Int64 User}
    (distinct : (entries.map Prod.fst).Nodup)
    (subjects : ∀ entry ∈ entries, ∃ user, (entry.2, user) ∈ users.entries ∧ user.gid = entry.1) :
    entries.length ≤ users.size := by
  -- Two subjects of one id would be the subjects of one user.
  have ids : (entries.map Prod.snd).Nodup := by
    refine List.Nodup.map_on ?_ distinct.of_map
    intro first member second member' same
    obtain ⟨user, present, subject⟩ := subjects first member
    obtain ⟨user', present', subject'⟩ := subjects second member'
    rw [← same] at present'
    cases Recency.eq_of_mem present present' rfl
    exact Prod.ext (subject.symm.trans subject') same
  have known : entries.map Prod.snd ⊆ users.entries.map Prod.fst := by
    intro id member
    obtain ⟨entry, given, rfl⟩ := List.mem_map.mp member
    obtain ⟨user, present, _⟩ := subjects entry given
    exact List.mem_map_of_mem present
  simpa [Recency.size] using (List.subperm_of_subset ids known).length_le

/-- There are no more entries by subject than users. -/
theorem size_le (indexed : cache.Indexed) : cache.byGid.size ≤ cache.byId.size :=
  length_le cache.byGid.keys_nodup indexed.subjects

/-- When the id of a user is to be stored under a new subject, there is room for it. -/
theorem room (indexed : cache.Indexed) (user : User)
    (absent : (cache.remembered user).get? user.gid = none) :
    (cache.remembered user).size < (cache.remembered user).capacity := by
  have other (entry : String × Int64) (member : entry ∈ (cache.remembered user).entries) :
      entry.1 ≠ user.gid := by
    rintro same
    have found : (cache.remembered user).get? entry.1 = some entry.2 :=
      Recency.get?_eq_some_iff.mpr member
    rw [same, absent] at found
    cases found
  have distinct :
      (((user.gid, user.id) :: (cache.remembered user).entries).map Prod.fst).Nodup := by
    refine List.nodup_cons.mpr ⟨fun member => ?_, (cache.remembered user).keys_nodup⟩
    obtain ⟨entry, stored, same⟩ := List.mem_map.mp member
    exact other entry stored same
  have fits : (cache.remembered user).size + 1 ≤ (cache.insert user).byId.size := by
    refine length_le distinct fun entry member => ?_
    rcases List.mem_cons.mp member with rfl | stored
    · exact ⟨user, Recency.mem_push_iff.mpr (.inl rfl), rfl⟩
    · exact indexed.remembered stored (other entry stored)
  have bound := (cache.insert user).byId.size_le
  have capacity := (indexed.insert user).capacity
  simp only [insert_eq, Recency.capacity_push] at capacity bound
  rw [capacity]
  exact Nat.lt_of_lt_of_le fits bound

end Indexed

/-- Calls leave the capacity as it is. -/
theorem capacity_after (cache : IdentityCache) (calls : List Call) :
    (cache.after calls).byId.capacity = cache.byId.capacity := by
  have step (cache later : IdentityCache) (taken : Option User) (moves : cache.Moves taken later) :
      later.byId.capacity = cache.byId.capacity := by
    cases moves with
    | reorder alike => exact alike.idCapacity
    | insert user => exact Recency.capacity_push _ _ _
    | invalidate id => rfl
  induction calls generalizing cache with
  | nil => rfl
  | cons call rest inductionHypothesis =>
      exact (inductionHypothesis _).trans (step _ _ _ (cache.moves call))

/-! ### Every user by its subject -/

/-- Every user in the cache has an entry by its subject. -/
def Complete (cache : IdentityCache) : Prop :=
  ∀ entry ∈ cache.byId.entries, (entry.2.gid, entry.1) ∈ cache.byGid.entries

/-- The users after a call were there before, or one is the user that it keeps. -/
theorem Moves.users_subset {taken : Option User} (moves : cache.Moves taken later) :
    later.users ⊆ taken.toList ++ cache.users := by
  intro user member
  obtain ⟨entry, stored, rfl⟩ := List.mem_map.mp member
  have old (before : entry ∈ cache.byId.entries) : entry.2 ∈ taken.toList ++ cache.users :=
    List.mem_append_right _ (List.mem_map_of_mem before)
  cases moves with
  | reorder alike => exact old ((alike.byId entry).mp stored)
  | insert user =>
      rcases Recency.mem_push_iff.mp stored with rfl | ⟨before, _⟩
      · exact List.mem_append_left _ (List.mem_singleton_self _)
      · exact old before
  | invalidate id => exact old (Recency.mem_erase_iff.mp stored).1

/-- As long as no subject stands for two ids, a call leaves every user with its entry by
subject. -/
theorem Complete.step {taken : Option User} (complete : cache.Complete) (indexed : cache.Indexed)
    (moves : cache.Moves taken later) (distinct : OneIdEach (taken.toList ++ cache.users)) :
    later.Complete := by
  have known {entry : Int64 × User} (stored : entry ∈ cache.byId.entries) :
      entry.2 ∈ taken.toList ++ cache.users :=
    List.mem_append_right _ (List.mem_map_of_mem stored)
  -- Two users with one subject are one.
  have single {entry other : Int64 × User} (stored : entry ∈ cache.byId.entries)
      (stored' : other ∈ cache.byId.entries) (same : entry.2.gid = other.2.gid) :
      entry = other := by
    refine Recency.eq_of_mem stored stored' ?_
    rw [← indexed.ids entry stored, ← indexed.ids other stored']
    exact distinct _ (known stored) _ (known stored') same
  cases moves with
  | reorder alike =>
      exact fun entry stored =>
        (alike.byGid _).mpr (complete entry ((alike.byId entry).mp stored))
  | invalidate id =>
      intro entry stored
      obtain ⟨before, other⟩ := Recency.mem_erase_iff.mp stored
      refine Indexed.mem_byGid_invalidate.mpr ⟨complete entry before, fun user found same => ?_⟩
      have present : (id, user) ∈ cache.byId.entries := Recency.get?_eq_some_iff.mp found
      cases single before present same
      exact other rfl
  | insert user =>
      intro entry stored
      rcases Recency.mem_push_iff.mp stored with rfl | ⟨before, notGone⟩
      · exact Recency.mem_push_iff.mpr (.inl rfl)
      refine Recency.mem_push_iff.mpr
        (.inr ⟨mem_remembered_iff.mpr ⟨complete entry before, ?_⟩, ?_⟩)
      · intro gone given _ same
        exact notGone (single before (Recency.mem_of_push given) same ▸ given)
      · intro given
        have same : entry.2.gid = user.gid := Recency.key_of_push (indexed.room user) given
        have id : entry.1 = user.id := by
          rw [← indexed.ids entry before]
          exact distinct _ (known before) _
            (List.mem_append_left _ (List.mem_singleton_self _)) same
        obtain ⟨key, old⟩ := entry
        cases id
        exact notGone (Recency.push_fst_of_mem before _)

/-- As long as no subject stands for two ids, calls leave every user with its entry by
subject. -/
theorem Complete.after (complete : cache.Complete) (indexed : cache.Indexed) {calls : List Call}
    (distinct : OneIdEach (cache.users ++ cache.inserted calls)) :
    (cache.after calls).Complete := by
  induction calls generalizing cache with
  | nil => exact complete
  | cons call rest inductionHypothesis =>
      have moves := cache.moves call
      have fewer : (cache.inserted? call).toList ++ cache.users ⊆
          cache.users ++ cache.inserted (call :: rest) := by
        intro user member
        simp only [inserted, List.mem_append] at member ⊢
        exact member.elim (fun new => .inr (.inl new)) .inl
      have later : (perform call cache).2.users ++ (perform call cache).2.inserted rest ⊆
          cache.users ++ cache.inserted (call :: rest) := by
        intro user member
        rcases List.mem_append.mp member with kept | new
        · exact fewer (moves.users_subset kept)
        · exact List.mem_append_right _ (List.mem_append_right _ new)
      refine inductionHypothesis (complete.step indexed moves ?_) (indexed.step moves) ?_
      · exact fun first member second member' =>
          distinct first (fewer member) second (fewer member')
      · exact fun first member second member' =>
          distinct first (later member) second (later member')

/-! ### The result -/

/-- After any calls on a new cache there are no more users than the capacity in effect, and no
more entries by subject than users. No entry by subject is displaced for want of room: keeping
another user takes away the entry of its own subject and that of the user who goes. An entry by
subject leads to a user with that subject, so a user who is found by a subject has it and is
found by id as well; and if no subject was ever inserted under two ids, every user in the
cache is found by its subject. -/
theorem indexes_stay_in_step (capacity : UInt64) (calls : List Call) :
    ((empty capacity).after calls).size ≤ effectiveCapacity capacity ∧
    ((empty capacity).after calls).byGid.size ≤ ((empty capacity).after calls).byId.size ∧
    (∀ user, ∀ entry ∈ ((empty capacity).after calls).byGid.entries, entry.1 ≠ user.gid →
      (∀ gone, (((empty capacity).after calls).byId.push user.id user).1 = some gone →
        entry.1 ≠ gone.2.gid) →
      entry ∈ (((empty capacity).after calls).insert user).byGid.entries) ∧
    (∀ entry ∈ ((empty capacity).after calls).byGid.entries, ∃ user,
      ((empty capacity).after calls).byId.get? entry.2 = some user ∧ user.gid = entry.1) ∧
    (∀ gid user, (((empty capacity).after calls).useGid gid).1 = some user →
      user.gid = gid ∧ (((empty capacity).after calls).useId user.id).1 = some user) ∧
    (OneIdEach ((empty capacity).inserted calls) →
      ∀ entry ∈ ((empty capacity).after calls).byId.entries,
        (((empty capacity).after calls).useGid entry.2.gid).1 = some entry.2) := by
  have indexed := (Indexed.empty capacity).after calls
  have bound := ((empty capacity).after calls).byId.size_le
  rw [capacity_after] at bound
  have complete (distinct : OneIdEach ((empty capacity).inserted calls)) :
      ((empty capacity).after calls).Complete :=
    Complete.after (fun _ member => absurd member List.not_mem_nil) (Indexed.empty capacity)
      distinct
  generalize (empty capacity).after calls = cache at indexed bound complete
  have subject (entry : String × Int64) (member : entry ∈ cache.byGid.entries) :
      ∃ user, cache.byId.get? entry.2 = some user ∧ user.gid = entry.1 := by
    obtain ⟨user, stored, same⟩ := indexed.subjects entry member
    exact ⟨user, Recency.get?_eq_some_iff.mpr stored, same⟩
  refine ⟨bound, indexed.size_le, ?_, subject, ?_, ?_⟩
  · intro user entry stored other apart
    have kept : entry ∈ (cache.remembered user).entries :=
      mem_remembered_iff.mpr ⟨stored, fun gone given _ => apart gone given⟩
    refine Recency.mem_push_iff.mpr (.inr ⟨kept, fun given => other ?_⟩)
    exact Recency.key_of_push (indexed.room user) given
  · intro gid user found
    rw [useGid_fst] at found
    obtain ⟨id, named, present⟩ := Option.bind_eq_some_iff.mp found
    obtain ⟨other, present', same⟩ := subject (gid, id) (Recency.get?_eq_some_iff.mp named)
    rw [present] at present'
    cases present'
    have key : user.id = id := indexed.ids (id, user) (Recency.get?_eq_some_iff.mp present)
    exact ⟨same, by rw [useId_fst, key, present]⟩
  · intro distinct entry stored
    have named := complete distinct entry stored
    rw [useGid_fst, Recency.get?_eq_some_iff.mpr named]
    exact Recency.get?_eq_some_iff.mpr stored

/-- In a cache for two users the third displaces the one that was not looked for, and the one
that was is still found by its subject. -/
theorem indexes_stay_in_step_displacing :
    let calls : List Call :=
      [.insert ⟨0, "Ada", "a@x", "g"⟩, .insert ⟨1, "Bob", "b@x", "h"⟩, .useGid "g",
        .insert ⟨2, "Cy", "c@x", "k"⟩]
    OneIdEach ((empty 2).inserted calls) ∧
      ((empty 2).after calls).byId.entries.map Prod.fst = [2, 0] ∧
      (((empty 2).after calls).useGid "g").1 = some ⟨0, "Ada", "a@x", "g"⟩ := by
  intro calls
  have distinct : OneIdEach ((empty 2).inserted calls) := by
    unfold OneIdEach
    decide
  have stored : (0, ⟨0, "Ada", "a@x", "g"⟩) ∈ ((empty 2).after calls).byId.entries := by decide
  exact ⟨distinct, by decide, (indexes_stay_in_step 2 calls).2.2.2.2.2 distinct _ stored⟩

end Notebook.IdentityCache
