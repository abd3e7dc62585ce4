import Notebook.Identity.Cache

/-!
# Limits

The numbers that bound the work of the repositories.
-/

namespace Notebook

/-- Bounds on pages, cached users and attempts. -/
structure Limits where
  /-- The most rows a listing gives; zero means all. -/
  pageSize : UInt64 := 50
  /-- How many users the identity cache keeps; zero stands for the default. -/
  cacheCapacity : UInt64 := IdentityCache.defaultCapacity
  /-- How often an id is allocated before giving up; at least once. -/
  allocationAttempts : UInt32 := 5
deriving DecidableEq

/-- The attempts in effect. -/
def Limits.attempts (limits : Limits) : Nat :=
  max limits.allocationAttempts.toNat 1

end Notebook
