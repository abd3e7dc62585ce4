import Notebook.Entity.User
import Notebook.Identity.Recency

/-!
# Identity cache

Resolved users, found by id and by subject in two bounded recency maps. The
epoch counts invalidations modulo `2 ^ 64`; a reader that takes the epoch before
it reads storage can insert what it read only if nothing was invalidated since.
-/

namespace Notebook

/-- Users by id, ids by subject, and the count of invalidations. -/
structure IdentityCache where
  byId : Recency Int64 User
  byGid : Recency String Int64
  epoch : UInt64

namespace IdentityCache

/-- How many users are kept unless told otherwise. -/
def defaultCapacity : UInt64 := 1000

/-- The capacity in effect: zero stands for the default. -/
def effectiveCapacity (capacity : UInt64) : Nat :=
  if capacity = 0 then defaultCapacity.toNat else capacity.toNat

/-- Every capacity in effect is positive. -/
theorem effectiveCapacity_pos (capacity : UInt64) : 0 < effectiveCapacity capacity := by
  unfold effectiveCapacity
  split
  · decide
  · rename_i nonzero
    exact Nat.pos_of_ne_zero fun zero => nonzero (UInt64.toNat_inj.1 (by simpa using zero))

/-- A cache without users. -/
def empty (capacity : UInt64 := defaultCapacity) : IdentityCache where
  byId := .empty (effectiveCapacity capacity) (effectiveCapacity_pos capacity)
  byGid := .empty (effectiveCapacity capacity) (effectiveCapacity_pos capacity)
  epoch := 0

/-- How many users are kept. -/
def size (cache : IdentityCache) : Nat :=
  cache.byId.size

/-- Finds a user by id. -/
def useId (cache : IdentityCache) (id : Int64) : Option User × IdentityCache :=
  let (user, byId) := cache.byId.use id
  (user, { cache with byId })

/-- Finds a user by subject. -/
def useGid (cache : IdentityCache) (gid : String) : Option User × IdentityCache :=
  let (id, byGid) := cache.byGid.use gid
  match id with
  | none => (none, { cache with byGid })
  | some id => { cache with byGid }.useId id

/-- Keeps a user under its id and its subject. The subject of the user that is
replaced or displaced is forgotten, unless it is the same. -/
def insert (cache : IdentityCache) (user : User) : IdentityCache :=
  let (gone, byId) := cache.byId.push user.id user
  let byGid := match gone with
    | some (_, old) => if old.gid = user.gid then cache.byGid else cache.byGid.erase old.gid
    | none => cache.byGid
  { cache with byId, byGid := (byGid.push user.gid user.id).2 }

/-- Keeps a user if the epoch is still this one; says whether it did. -/
def insertIfCurrent (cache : IdentityCache) (user : User) (epoch : UInt64) :
    Bool × IdentityCache :=
  if cache.epoch = epoch then (true, cache.insert user) else (false, cache)

/-- Forgets a user and its subject, and begins a new epoch. -/
def invalidate (cache : IdentityCache) (id : Int64) : IdentityCache :=
  { byId := cache.byId.erase id
    byGid := match cache.byId.get? id with
      | some user => cache.byGid.erase user.gid
      | none => cache.byGid
    epoch := cache.epoch + 1 }

/-- One use of the cache. -/
inductive Call where
  | useId (id : Int64)
  | useGid (gid : String)
  | insert (user : User)
  | insertIfCurrent (user : User) (epoch : UInt64)
  | invalidate (id : Int64)
  | epoch
  | size
deriving DecidableEq

/-- What a use of the cache answers. -/
@[reducible]
def Call.Answer : Call → Type
  | .useId _ => Option User
  | .useGid _ => Option User
  | .insert _ => Unit
  | .insertIfCurrent .. => Bool
  | .invalidate _ => Unit
  | .epoch => UInt64
  | .size => Nat

/-- Performs one use of the cache. -/
def perform : (call : Call) → IdentityCache → call.Answer × IdentityCache
  | .useId id, cache => cache.useId id
  | .useGid gid, cache => cache.useGid gid
  | .insert user, cache => ((), cache.insert user)
  | .insertIfCurrent user epoch, cache => cache.insertIfCurrent user epoch
  | .invalidate id, cache => ((), cache.invalidate id)
  | .epoch, cache => (cache.epoch, cache)
  | .size, cache => (cache.size, cache)

end IdentityCache

end Notebook
