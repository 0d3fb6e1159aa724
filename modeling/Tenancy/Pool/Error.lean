import Tenancy.Dsn.SslMode
import Tenancy.Duration
import Tenancy.Store.Error
import Tenancy.Tenant.Basic

/-!
# Faults of pools

Why a pool of connections could not be opened, why settings are refused, and why a request for a
pool did not succeed.
-/

namespace Tenancy

/-! ### Opening -/

/-- Why a database did not answer. -/
inductive PingFault
  | closed
  | unreachable (database : String)
  | timeout (limit : Duration)
  deriving DecidableEq, Repr

/-- The text of a fault. -/
def PingFault.message : PingFault → String
  | .closed => "pool is closed"
  | .unreachable database => "database " ++ database ++ " unreachable"
  | .timeout limit => "timed out after " ++ limit.text

/-- Why a backend did not open a pool: the connection string names no database, the connection was
refused, or it took too long. -/
inductive OpenFault
  | noDatabase (dsn : String)
  | refused
  | timeout (limit : Duration)
  deriving DecidableEq, Repr

/-- The text of a fault. -/
def OpenFault.message : OpenFault → String
  | .noDatabase dsn => "no database in '" ++ dsn ++ "'"
  | .refused => "connection refused"
  | .timeout limit => "timed out after " ++ limit.text

/-- The text of a fault by itself, which says that the string is at fault if it is. -/
def OpenFault.report (fault : OpenFault) : String :=
  match fault with
  | .noDatabase _ => "invalid connection string: " ++ fault.message
  | _ => fault.message

/-- Where the opening of a pool can fail. -/
inductive OpenStage
  | address | connection | ping
  deriving DecidableEq, Repr

/-- The name of a stage. -/
def OpenStage.name : OpenStage → String
  | .address => "parse dsn"
  | .connection => "open pool"
  | .ping => "ping"

/-- Why the pool of a tenant could not be put to use. -/
inductive SetupFault
  | opening (fault : OpenFault)
  | ping (fault : PingFault)
  deriving DecidableEq, Repr

namespace SetupFault

/-- The stage at which a fault arises. -/
def stage : SetupFault → OpenStage
  | .opening (.noDatabase _) => .address
  | .opening _ => .connection
  | .ping _ => .ping

/-- The text of a fault. -/
def message : SetupFault → String
  | .opening fault => fault.message
  | .ping fault => fault.message

end SetupFault

/-! ### Settings -/

/-- Why settings for pools are refused. -/
inductive ConfigFault
  | noPassword
  | sslMode (cause : UnknownSslMode)
  | duration (field text : String)
  | emptyUser
  | emptyPassword
  | noConnections
  | leastAboveGreatest (least greatest : Nat)
  | noTimeout
  deriving DecidableEq, Repr

/-- The text of a fault. -/
def ConfigFault.message : ConfigFault → String
  | .noPassword => "database password is not set"
  | .sslMode cause => cause.message
  | .duration field text => "invalid duration for " ++ field ++ ": '" ++ text ++ "'"
  | .emptyUser => "db_user must not be empty"
  | .emptyPassword => "db_password must not be empty"
  | .noConnections => "max_conns_per_tenant must be at least 1"
  | .leastAboveGreatest least greatest =>
    "min_conns_per_tenant (" ++ toString least ++ ") exceeds max_conns_per_tenant ("
      ++ toString greatest ++ ")"
  | .noTimeout => "connect_timeout must be nonzero"

/-! ### Requests -/

/-- Why a request for a pool did not succeed. -/
inductive PoolError
  | tenantNotFound (tenant : TenantId)
  | notActive (tenant : TenantId) (status : Status)
  | limitReached (limit : Nat)
  | lookupFailed (tenant : TenantId) (cause : StoreError)
  | listingFailed (cause : StoreError)
  | setup (tenant : TenantId) (fault : SetupFault)
  | config (fault : ConfigFault)
  | closed
  deriving DecidableEq, Repr

namespace PoolError

/-- The fault of a request whose look-up in the directory failed: a tenant that does not exist is
told apart from every other cause. -/
def ofLookup (tenant : TenantId) (cause : StoreError) : PoolError :=
  if cause.isNotFound then .tenantNotFound tenant else .lookupFailed tenant cause

/-- The text of a fault. -/
def message : PoolError → String
  | .tenantNotFound tenant => "tenant not found: " ++ tenant
  | .notActive tenant status =>
    "tenant " ++ tenant ++ " is not active (status: " ++ status.name ++ ")"
  | .limitReached limit => "max pool limit reached (" ++ toString limit ++ ")"
  | .lookupFailed tenant cause =>
    "tenant directory lookup failed for " ++ tenant ++ ": " ++ cause.message
  | .listingFailed cause => "tenant directory listing failed: " ++ cause.message
  | .setup tenant fault =>
    fault.stage.name ++ " failed for tenant " ++ tenant ++ ": " ++ fault.message
  | .config fault => "invalid pool manager configuration: " ++ fault.message
  | .closed => "pool manager is shut down"

end PoolError

end Tenancy
