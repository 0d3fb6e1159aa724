import Tenancy.Tenant.Basic
import Tenancy.Text.Quoted

/-!
# Pools

The pool of one tenant: the connections behind it, how many hold it, when it was last used, and
since when its database does not answer. Times are nanoseconds since the manager was made.
-/

namespace Tenancy

/-- The place of connections among all that were ever opened. -/
abbrev ConnectionsId := Nat

/-- The pool of a tenant. -/
structure Pool where
  /-- The record of the tenant as it was when the pool was made. -/
  tenant : Tenant
  connections : ConnectionsId
  created : Nat
  lastUsed : Nat
  /-- How many hold the pool. -/
  refs : Nat
  /-- When the first ping failed of those since the last one that succeeded. -/
  unhealthySince : Option Nat
  closed : Bool
  deriving Repr, Inhabited

namespace Pool

/-- A pool that nobody holds. -/
def new (tenant : Tenant) (connections : ConnectionsId) (now : Nat) : Pool where
  tenant := tenant
  connections := connections
  created := now
  lastUsed := now
  refs := 0
  unhealthySince := none
  closed := false

/-- Whether somebody holds the pool. -/
def isReferenced (p : Pool) : Bool := 0 < p.refs

/-- Whether the last ping failed. -/
def isUnhealthy (p : Pool) : Bool := p.unhealthySince.isSome

/-- The time since the last use. -/
def idleFor (p : Pool) (now : Nat) : Nat := now - p.lastUsed

/-- Counts as a use. -/
def touch (p : Pool) (now : Nat) : Pool :=
  { p with lastUsed := max p.lastUsed now }

/-- One more holds the pool. -/
def acquire (p : Pool) (now : Nat) : Pool :=
  { p with refs := p.refs + 1 }.touch now

/-- One fewer holds the pool, if anybody does. It counts as a use all the same. -/
def release (p : Pool) (now : Nat) : Pool :=
  { p with refs := p.refs - 1 }.touch now

/-- Records a failed ping, and tells whether it is the first one in a row. A failure at the time
zero counts as one at the first nanosecond. -/
def markUnhealthy (p : Pool) (now : Nat) : Bool × Pool :=
  if p.isUnhealthy then (false, p)
  else (true, { p with unhealthySince := some (max now 1) })

/-- Records a ping that succeeded, and tells whether the one before it failed. -/
def markHealthy (p : Pool) : Bool × Pool :=
  (p.isUnhealthy, { p with unhealthySince := none })

/-- A pool as diagnostics show it. -/
def label (p : Pool) : String :=
  "ManagedPool \x7b tenant_id: " ++ Text.quoted p.tenant.id
    ++ ", active_refs: " ++ toString p.refs
    ++ ", unhealthy: " ++ toString p.isUnhealthy
    ++ ", closed: " ++ toString p.closed ++ ", .. \x7d"

/-- A held pool as diagnostics show it. -/
def leaseLabel (p : Pool) : String := "PoolLease(" ++ p.label ++ ")"

end Pool

end Tenancy
