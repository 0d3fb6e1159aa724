import Tenancy.Pool.Error
import Tenancy.Settings.Basic
import Tenancy.Text.Quoted

/-!
# Configuration of the manager

The credentials that all pools share, the limits and times of pools, and when idle pools and
unhealthy ones are looked for.
-/

namespace Tenancy

/-- What a backend is told when it opens a pool. -/
structure OpenSettings where
  greatest : Nat
  least : Nat
  connectTimeout : Duration
  healthPeriod : Duration
  deriving DecidableEq, Repr, Inhabited

namespace Manager

/-- The configuration of a manager. -/
structure Config where
  user : String
  password : String
  /-- The greatest number of connections of a pool. -/
  maxConnections : Nat
  /-- The least number of connections of a pool. -/
  minConnections : Nat
  connectTimeout : Duration
  /-- The greatest number of pools, or zero for any number. -/
  maxPools : Nat
  /-- How long a pool may be idle, or zero for any time. -/
  idleTimeout : Duration
  /-- The time between two checks of all pools, or zero for none. -/
  healthPeriod : Duration
  sslMode : SslMode
  deriving DecidableEq, Repr, Inhabited

namespace Config

/-- The configuration with these credentials and otherwise the defaults. -/
def new (user password : String) : Config where
  user := user
  password := password
  maxConnections := 10
  minConnections := 2
  connectTimeout := .ofSeconds 10
  maxPools := 100
  idleTimeout := .ofSeconds 1800
  healthPeriod := .ofSeconds 60
  sslMode := .disable

/-- Refuses credentials that are empty, numbers of connections that do not fit, and a timeout of
zero; of several faults the first in this order is reported. -/
def check (c : Config) : Except ConfigFault Unit :=
  if c.user = "" then .error .emptyUser
  else if c.password = "" then .error .emptyPassword
  else if c.maxConnections = 0 then .error .noConnections
  else if c.maxConnections < c.minConnections then
    .error (.leastAboveGreatest c.minConnections c.maxConnections)
  else if c.connectTimeout.isZero then .error .noTimeout
  else .ok ()

/-! ### From settings -/

/-- Reads the duration in a field; the default stands if the field is absent. -/
def duration (field : String) (default : Duration) : Option String → Except ConfigFault Duration
  | none => .ok default
  | some text => (Duration.parse? text).elim (.error (.duration field text)) .ok

/-- Reads the name of a mode; the default stands if it is absent. -/
def mode (default : SslMode) : Option String → Except ConfigFault SslMode
  | none => .ok default
  | some text => (SslMode.parse text).mapError .sslMode

/-- The configuration that settings ask for in an environment. -/
def ofSettings (s : Settings) (env : Environment) : Except ConfigFault Config := do
  let some password := s.database.resolvePassword env | throw .noPassword
  let base := new s.database.user password
  let sslMode ← mode base.sslMode s.database.sslMode
  let pool := s.poolOrNone
  let connectTimeout ← duration "connect_timeout" base.connectTimeout pool.connectTimeout
  let idleTimeout ← duration "idle_timeout" base.idleTimeout pool.idleTimeout
  let healthPeriod ← duration "health_check_period" base.healthPeriod pool.healthPeriod
  let config : Config :=
    { base with
      maxConnections := pool.maxConnections.getD base.maxConnections
      minConnections := pool.minConnections.getD base.minConnections
      maxPools := pool.maxPools.getD base.maxPools
      connectTimeout, idleTimeout, healthPeriod, sslMode }
  config.check
  return config

/-! ### What follows from it -/

/-- What a backend is told. -/
def openSettings (c : Config) : OpenSettings :=
  ⟨c.maxConnections, c.minConnections, c.connectTimeout, c.healthPeriod⟩

/-- The time between two searches for idle pools: half of the time that a pool may be idle. -/
def evictionInterval (c : Config) : Option Duration :=
  if c.idleTimeout.isZero then none else some c.idleTimeout.half

/-- The time between two checks of all pools. -/
def healthInterval (c : Config) : Option Duration :=
  if c.healthPeriod.isZero then none else some c.healthPeriod

/-- A configuration as diagnostics show it, with asterisks in place of the password. -/
def label (c : Config) : String :=
  "ManagerConfig \x7b db_user: " ++ Text.quoted c.user
    ++ ", db_password: " ++ Text.quoted "***"
    ++ ", max_conns_per_tenant: " ++ toString c.maxConnections
    ++ ", min_conns_per_tenant: " ++ toString c.minConnections
    ++ ", connect_timeout: " ++ c.connectTimeout.text
    ++ ", max_total_pools: " ++ toString c.maxPools
    ++ ", pool_idle_timeout: " ++ c.idleTimeout.text
    ++ ", health_check_period: " ++ c.healthPeriod.text
    ++ ", ssl_mode: " ++ c.sslMode.label ++ " \x7d"

end Config

end Manager

end Tenancy
