import Notebook.Repository.Limits
import Notebook.Storage.Pool
import Notebook.Text.Blank

/-!
# Settings

What the service is told by the variables of its environment. Each setting
depends on its own variable. Numbers are trimmed and keep their default if they
cannot be read; a time of zero seconds switches a limit of the pool off.
-/

namespace Notebook

/-- The settings of the service. -/
structure Settings where
  databaseUrl : String := "postgres://localhost/dumpnote"
  host : String := "0.0.0.0"
  port : UInt16 := 3000
  maxConnections : UInt32 := 10
  minConnections : UInt32 := 1
  acquireTimeoutSeconds : UInt64 := 30
  idleTimeoutSeconds : UInt64 := 600
  maxLifetimeSeconds : UInt64 := 1800
  userCacheCapacity : UInt64 := IdentityCache.defaultCapacity
  pageSize : UInt64 := 50
  idAllocationAttempts : UInt32 := 5
  runMigrations : Bool := true
deriving DecidableEq

namespace Settings

/-- The settings of an empty environment. -/
def default : Settings := {}

/-- A numeric setting: what its variable says once trimmed, if that can be read. -/
def numeric (read? : String → Option α) (fallback : α) (text? : Option String) : α :=
  (text?.bind fun text => read? (Text.trim text)).getD fallback

/-- A yes or no: only `true` and `1` mean yes, and any other text means no. -/
def truth (fallback : Bool) (text? : Option String) : Bool :=
  match text? with
  | some text => text == "true" || text == "1"
  | none => fallback

/-- The settings of an environment, which gives the texts of its variables. -/
def ofEnvironment (text? : String → Option String) : Settings where
  databaseUrl := (text? "DATABASE_URL").getD default.databaseUrl
  host := (text? "HOST").getD default.host
  port := numeric Decimal.uint16? default.port (text? "PORT")
  maxConnections :=
    numeric Decimal.uint32? default.maxConnections (text? "DB_MAX_CONNECTIONS")
  minConnections :=
    numeric Decimal.uint32? default.minConnections (text? "DB_MIN_CONNECTIONS")
  acquireTimeoutSeconds :=
    numeric Decimal.uint64? default.acquireTimeoutSeconds (text? "DB_ACQUIRE_TIMEOUT_SECS")
  idleTimeoutSeconds :=
    numeric Decimal.uint64? default.idleTimeoutSeconds (text? "DB_IDLE_TIMEOUT_SECS")
  maxLifetimeSeconds :=
    numeric Decimal.uint64? default.maxLifetimeSeconds (text? "DB_MAX_LIFETIME_SECS")
  userCacheCapacity :=
    numeric Decimal.uint64? default.userCacheCapacity (text? "USER_CACHE_CAPACITY")
  pageSize := numeric Decimal.uint64? default.pageSize (text? "NOTES_PAGE_SIZE")
  idAllocationAttempts :=
    numeric Decimal.uint32? default.idAllocationAttempts (text? "ID_ALLOCATION_ATTEMPTS")
  runMigrations := truth default.runMigrations (text? "RUN_MIGRATIONS")

/-- The address to listen on. -/
def bindAddress (settings : Settings) : String :=
  settings.host ++ ":" ++ Decimal.ofNat settings.port.toNat

/-- A time limit in seconds, which zero switches off. -/
def timeLimit (seconds : UInt64) : Option Duration :=
  if seconds = 0 then none else some (.ofSeconds seconds.toNat)

/-- The configuration of the pool. -/
def poolConfig (settings : Settings) : PoolConfig where
  maxConnections := settings.maxConnections
  minConnections := settings.minConnections
  acquireTimeout := .ofSeconds settings.acquireTimeoutSeconds.toNat
  idleTimeout := timeLimit settings.idleTimeoutSeconds
  maxLifetime := timeLimit settings.maxLifetimeSeconds

/-- The limits of the repositories. -/
def limits (settings : Settings) : Limits where
  pageSize := settings.pageSize
  cacheCapacity := settings.userCacheCapacity
  allocationAttempts := settings.idAllocationAttempts

end Settings

end Notebook
