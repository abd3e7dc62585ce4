import Notebook.Error

/-!
# Connection pools

Sizes and times of a connection pool and the bounds that are in effect: a pool
may always open one connection, and it never keeps more open than it may. A pool
connects on first use, so opening it fails only for a malformed connection text.
-/

namespace Notebook

/-- A span of time in milliseconds. -/
structure Duration where
  milliseconds : Nat
deriving DecidableEq

/-- A span of whole seconds. -/
def Duration.ofSeconds (seconds : Nat) : Duration :=
  ⟨seconds * 1000⟩

/-- Sizes and times of a pool. -/
structure PoolConfig where
  maxConnections : UInt32 := 10
  minConnections : UInt32 := 1
  /-- How long to wait for a free connection. -/
  acquireTimeout : Duration := .ofSeconds 30
  /-- When to close an idle connection; never if absent. -/
  idleTimeout : Option Duration := some (.ofSeconds 600)
  /-- When to replace a connection; never if absent. -/
  maxLifetime : Option Duration := some (.ofSeconds 1800)
deriving DecidableEq

namespace PoolConfig

/-- The most connections in effect: at least one. -/
def effectiveMax (config : PoolConfig) : UInt32 :=
  max config.maxConnections 1

/-- The fewest connections in effect: never more than the most. -/
def effectiveMin (config : PoolConfig) : UInt32 :=
  min config.minConnections config.effectiveMax

/-- The configuration that a pool is opened with: the bounds in effect. -/
def applied (config : PoolConfig) : PoolConfig :=
  { config with
    maxConnections := config.effectiveMax
    minConnections := config.effectiveMin }

end PoolConfig

/-- Opens a pool that connects on first use. -/
def PoolConfig.opened (config : PoolConfig) (url : String) : Except Error PoolConfig :=
  match ConnectionUrl.check url with
  | .ok () => .ok config.applied
  | .error fault => .error (.database (.configuration fault))

end Notebook
