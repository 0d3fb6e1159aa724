import Tenancy.Json.Basic
import Tenancy.Pool.Connections

/-!
# Statistics of pools

One line for each tenant that has a pool, in ascending order of identifiers, and the sums over all
of them.
-/

namespace Tenancy

/-- What is known of the pool of one tenant. -/
structure TenantStatistics where
  tenant : TenantId
  slug : String
  connections : ConnectionCount
  refs : Nat
  idleMillis : Nat
  healthy : Bool
  deriving DecidableEq, Repr, Inhabited

/-- What is known of all pools. -/
structure Statistics where
  pools : Nat
  connections : ConnectionCount
  tenants : List TenantStatistics
  deriving DecidableEq, Repr, Inhabited

namespace Statistics

/-- The sum of a count over tenants. -/
def sum (f : ConnectionCount → Nat) (tenants : List TenantStatistics) : Nat :=
  tenants.foldr (fun t n => f t.connections + n) 0

/-- The statistics of these tenants. -/
def ofTenants (tenants : List TenantStatistics) : Statistics :=
  let tenants := tenants.mergeSort fun a b => decide (a.tenant ≤ b.tenant)
  { pools := tenants.length
    connections :=
      ⟨sum ConnectionCount.total tenants, sum ConnectionCount.idle tenants,
        sum ConnectionCount.acquired tenants⟩
    tenants }

/-- The line of a tenant. -/
def tenant? (s : Statistics) (tenant : TenantId) : Option TenantStatistics :=
  s.tenants.find? (·.tenant = tenant)

/-- How many pools are marked as unhealthy. -/
def unhealthy (s : Statistics) : Nat :=
  s.tenants.countP fun t => !t.healthy

end Statistics

/-! ### As records -/

/-- The record of a count. -/
def ConnectionCount.toJson (c : ConnectionCount) : Json :=
  .object [("total", .ofNat c.total), ("idle", .ofNat c.idle), ("acquired", .ofNat c.acquired)]

/-- The record of one tenant. -/
def TenantStatistics.toJson (t : TenantStatistics) : Json :=
  .object
    [("tenant_id", .string t.tenant), ("slug", .string t.slug),
      ("connections", t.connections.toJson), ("active_refs", .ofNat t.refs),
      ("idle_ms", .ofNat t.idleMillis), ("healthy", .bool t.healthy)]

/-- The record of all pools. -/
def Statistics.toJson (s : Statistics) : Json :=
  .object
    [("total_pools", .ofNat s.pools), ("total_connections", .ofNat s.connections.total),
      ("idle_connections", .ofNat s.connections.idle),
      ("acquired_connections", .ofNat s.connections.acquired),
      ("tenants", .array (s.tenants.map TenantStatistics.toJson))]

end Tenancy
