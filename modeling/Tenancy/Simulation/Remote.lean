import Tenancy.Numbering.Counters
import Tenancy.Simulation.Basic

/-!
# Counters in databases that cannot be reached

Counters may be kept in the database of each tenant. Every call takes a lease of the tenant's pool
first; here no connection can be opened, so every call fails with the reason why there is no lease.
-/

namespace Tenancy.Simulation

/-- A manager whose backend refuses every connection. -/
structure Remote where
  simulation : Simulation

namespace Remote

/-- A manager over a directory, with a backend that refuses every connection. -/
def new (config : Manager.Config) (directory : Directory) (epoch : Nat) : Remote :=
  let s := Simulation.new config directory epoch
  ⟨{ s with backend.refuses := true }⟩

/-- A call that needs a lease of a tenant's pool. -/
def withLease {α : Type} (r : Remote) (tenant : TenantId) :
    Except NumberingError α × Remote :=
  let (task, s) := r.simulation.call (.lease tenant)
  let cause := match s.outcome? task with
    | some (.failed e) => e
    | _ => .setup tenant (.opening .refused)
  (.error (.pool cause), ⟨s⟩)

instance : Counters Remote where
  increment key _ r := r.withLease key.tenant
  set key _ r := r.withLease key.tenant
  current key r := r.withLease key.tenant

end Remote

end Tenancy.Simulation
