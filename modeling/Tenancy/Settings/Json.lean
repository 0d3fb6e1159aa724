import Tenancy.Json.Basic
import Tenancy.Settings.Basic

/-!
# Settings as JSON records

The record of settings has a member for every section and every value; those that are absent are
null.
-/

namespace Tenancy

/-- The record of the section on the database. -/
def DatabaseSettings.toJson (d : DatabaseSettings) : Json :=
  .object
    [("user", .string d.user), ("password", .ofOption .string d.password),
      ("password_env", .ofOption .string d.passwordVariable),
      ("ssl_mode", .ofOption .string d.sslMode)]

/-- The record of the section on pools. -/
def PoolSettings.toJson (p : PoolSettings) : Json :=
  .object
    [("max_conns_per_tenant", .ofOption .ofNat p.maxConnections),
      ("min_conns_per_tenant", .ofOption .ofNat p.minConnections),
      ("connect_timeout", .ofOption .string p.connectTimeout),
      ("max_total_pools", .ofOption .ofNat p.maxPools),
      ("idle_timeout", .ofOption .string p.idleTimeout),
      ("health_check_period", .ofOption .string p.healthPeriod)]

/-- The record of the section on the directory. -/
def DirectorySettings.toJson (d : DirectorySettings) : Json :=
  .object [("path", .ofOption .string d.path)]

/-- The record of the section on numbering. -/
def NumberingSettings.toJson (n : NumberingSettings) : Json :=
  .object
    [("strategy", .ofOption .string n.strategy), ("range_size", .ofOption .ofNat n.rangeSize)]

/-- The record of the section on logging. -/
def LoggingSettings.toJson (l : LoggingSettings) : Json :=
  .object [("filter", .ofOption .string l.filter), ("format", .string l.format.name)]

/-- The record of all settings. -/
def Settings.toJson (s : Settings) : Json :=
  .object
    [("database", s.database.toJson), ("pool", .ofOption PoolSettings.toJson s.pool),
      ("directory", .ofOption DirectorySettings.toJson s.directory),
      ("numbering", .ofOption NumberingSettings.toJson s.numbering),
      ("logging", .ofOption LoggingSettings.toJson s.logging)]

end Tenancy
