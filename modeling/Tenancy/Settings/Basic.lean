import Tenancy.Record
import Tenancy.Text.Decimal

/-!
# Settings

What an operator sets: the credentials that all tenants share, and sections on pools, the
directory, numbering and logging, each of which may be absent. A value that is absent has the
default of the part that uses it.
-/

namespace Tenancy

/-- The credentials that all databases share. -/
structure DatabaseSettings where
  user : String
  password : Option String
  /-- The name of a variable of the environment that holds the password. -/
  passwordVariable : Option String
  sslMode : Option String
  deriving DecidableEq, Repr, Inhabited

/-- The limits and times of pools. -/
structure PoolSettings where
  maxConnections : Option Nat
  minConnections : Option Nat
  connectTimeout : Option String
  maxPools : Option Nat
  idleTimeout : Option String
  healthPeriod : Option String
  deriving DecidableEq, Repr, Inhabited

/-- The file of the directory; without one it is kept in memory. -/
structure DirectorySettings where
  path : Option String
  deriving DecidableEq, Repr, Inhabited

/-- How document numbers are given out. -/
structure NumberingSettings where
  strategy : Option String
  rangeSize : Option Nat
  deriving DecidableEq, Repr, Inhabited

/-- The form of log lines. -/
inductive LogFormat
  | pretty | json
  deriving DecidableEq, Repr, Inhabited

/-- What is logged, and in which form. -/
structure LoggingSettings where
  filter : Option String
  format : LogFormat
  deriving DecidableEq, Repr, Inhabited

/-- All settings. -/
structure Settings where
  database : DatabaseSettings
  pool : Option PoolSettings
  directory : Option DirectorySettings
  numbering : Option NumberingSettings
  logging : Option LoggingSettings
  deriving DecidableEq, Repr, Inhabited

/-! ### Absent sections -/

/-- A section on pools without values. -/
def PoolSettings.none : PoolSettings := ⟨.none, .none, .none, .none, .none, .none⟩

/-- A section on the directory without values. -/
def DirectorySettings.none : DirectorySettings := ⟨.none⟩

/-- A section on numbering without values. -/
def NumberingSettings.none : NumberingSettings := ⟨.none, .none⟩

/-- A section on logging without values. -/
def LoggingSettings.none : LoggingSettings := ⟨.none, .pretty⟩

namespace Settings

/-- The section on pools, which has no values if it is absent. -/
def poolOrNone (s : Settings) : PoolSettings := s.pool.getD .none

/-- The section on the directory, which has no values if it is absent. -/
def directoryOrNone (s : Settings) : DirectorySettings := s.directory.getD .none

/-- The section on numbering, which has no values if it is absent. -/
def numberingOrNone (s : Settings) : NumberingSettings := s.numbering.getD .none

/-- The section on logging, which has no values if it is absent. -/
def loggingOrNone (s : Settings) : LoggingSettings := s.logging.getD .none

end Settings

/-! ### The password -/

/-- The variables of the environment. -/
abbrev Environment := String → Option String

/-- The password: the value of the variable that the settings name, if it is set, and otherwise the
password of the settings. -/
def DatabaseSettings.resolvePassword (d : DatabaseSettings) (env : Environment) : Option String :=
  (d.passwordVariable.bind env).or d.password

namespace LogFormat

/-- The name of a form. -/
def name : LogFormat → String
  | .pretty => "pretty"
  | .json => "json"

/-- The form with exactly this name. -/
def ofName? (name : String) : Option LogFormat :=
  [pretty, json].find? (·.name = name)

end LogFormat

/-! ### Reading from a data format -/

variable {σ : Type} [Source σ]

/-- Reads the section on the database. -/
def DatabaseSettings.read? (v : σ) : Option DatabaseSettings := do
  let r ← Source.record? ["user", "password", "password_env", "ssl_mode"] v
  return {
    user := ← r.required "user" Source.text?
    password := ← r.optional "password" Source.text?
    passwordVariable := ← r.optional "password_env" Source.text?
    sslMode := ← r.optional "ssl_mode" Source.text? }

/-- The greatest number of connections of a pool. -/
def PoolSettings.maxCount : Nat := 4294967295

/-- Reads the section on pools. -/
def PoolSettings.read? (v : σ) : Option PoolSettings := do
  let r ← Source.record?
    ["max_conns_per_tenant", "min_conns_per_tenant", "connect_timeout", "max_total_pools",
      "idle_timeout", "health_check_period"] v
  return {
    maxConnections := ← r.optional "max_conns_per_tenant" (Source.natural? maxCount)
    minConnections := ← r.optional "min_conns_per_tenant" (Source.natural? maxCount)
    connectTimeout := ← r.optional "connect_timeout" Source.text?
    maxPools := ← r.optional "max_total_pools" (Source.natural? Text.maxWord)
    idleTimeout := ← r.optional "idle_timeout" Source.text?
    healthPeriod := ← r.optional "health_check_period" Source.text? }

/-- Reads the section on the directory. -/
def DirectorySettings.read? (v : σ) : Option DirectorySettings := do
  let r ← Source.record? ["path"] v
  return { path := ← r.optional "path" Source.text? }

/-- Reads the section on numbering. -/
def NumberingSettings.read? (v : σ) : Option NumberingSettings := do
  let r ← Source.record? ["strategy", "range_size"] v
  return {
    strategy := ← r.optional "strategy" Source.text?
    rangeSize := ← r.optional "range_size" (Source.natural? Text.maxWord) }

/-- Reads the section on logging. -/
def LoggingSettings.read? (v : σ) : Option LoggingSettings := do
  let r ← Source.record? ["filter", "format"] v
  return {
    filter := ← r.optional "filter" Source.text?
    format := ← r.defaulted "format" .pretty fun v =>
      (Source.choice? v).bind LogFormat.ofName? }

/-- Reads all settings. -/
def Settings.read? (v : σ) : Option Settings := do
  let r ← Source.record? ["database", "pool", "directory", "numbering", "logging"] v
  return {
    database := ← r.required "database" DatabaseSettings.read?
    pool := ← r.optional "pool" PoolSettings.read?
    directory := ← r.optional "directory" DirectorySettings.read?
    numbering := ← r.optional "numbering" NumberingSettings.read?
    logging := ← r.optional "logging" LoggingSettings.read? }

end Tenancy
