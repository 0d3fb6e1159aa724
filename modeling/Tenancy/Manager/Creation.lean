import Tenancy.Manager.Basic

/-!
# Getting a pool

A request for a pool is served with the pool of the tenant, or by making one: a slot is taken, the
tenant is looked up, connections are opened and pinged, and the pool is entered for the tenant. If
another pool was entered meanwhile, that one serves the request and the new connections are
closed. Wherever this fails, the slot is given back.
-/

namespace Tenancy.Manager

/-! ### Closing -/

/-- Takes the pool of a tenant out of use and starts to close it. -/
def beginClose (m : Manager) (task : TaskId) (tenant : TenantId) (id : PoolId) (reason : String)
    (next : Next) : Manager :=
  let m := { m with entries := m.entries.erase tenant }.giveSlot
  (m.modifyPool id fun p => { p with closed := true }).await task (.closing tenant id reason next)

/-! ### Ends -/

/-- Ends a request for a pool with an error. -/
def fail (m : Manager) (task : TaskId) (demand : Demand) (error : PoolError) : Manager :=
  match demand with
  | .warm parent => m.report task parent (.warmed (.error error))
  | .get | .lease => m.finish task (.failed error)

/-- Ends the making of a pool with an error. -/
def giveUp (m : Manager) (task : TaskId) (demand : Demand) (error : PoolError) : Manager :=
  m.giveSlot.fail task demand error

/-- Gives a lease of a pool. -/
def lend (m : Manager) (task : TaskId) (id : PoolId) : Manager :=
  let m := m.modifyPool id (·.acquire m.now)
  { m with leases := m.leases.insert task id }.finish task (.leased id)

/-! ### Beginnings -/

/-- Starts to make a pool, if a slot is left. -/
def beginCreation (m : Manager) (task : TaskId) (demand : Demand) (tenant : TenantId) :
    Manager :=
  if m.isFull then m.fail task demand (.limitReached m.config.maxPools)
  else m.takeSlot.await task (.lookingUp demand tenant)

/-- Starts a request for a lease. -/
def beginLease (m : Manager) (task : TaskId) (tenant : TenantId) : Manager :=
  if m.shuttingDown then m.fail task .lease .closed
  else
    match m.entries.get? tenant with
    | some id => m.lend task id
    | none => m.beginCreation task .lease tenant

/-- Serves a request for a pool. A lease is given only of the pool that is the tenant's at this
moment; if it no longer is, the request starts over. -/
def deliver (m : Manager) (task : TaskId) (demand : Demand) (tenant : TenantId) (id : PoolId) :
    Manager :=
  match demand with
  | .get => m.finish task (.pool id)
  | .warm parent => m.report task parent (.warmed (.ok ()))
  | .lease => if m.holds tenant id then m.lend task id else m.beginLease task tenant

/-- Starts a request for a pool without a lease. -/
def beginGet (m : Manager) (task : TaskId) (demand : Demand) (tenant : TenantId) : Manager :=
  if m.shuttingDown then m.fail task demand .closed
  else
    match m.entries.get? tenant with
    | some id => (m.modifyPool id (·.touch m.now)).deliver task demand tenant id
    | none => m.beginCreation task demand tenant

/-! ### Making a pool -/

/-- The time at which connecting takes too long. -/
def connectDeadline (m : Manager) : Nat := m.now + m.config.connectTimeout.nanos

/-- Goes on with the record of the tenant: only an active one gets a pool. -/
def afterLookup (m : Manager) (task : TaskId) (demand : Demand) (tenant : TenantId)
    (result : Except StoreError Tenant) : Manager :=
  match result with
  | .error cause => m.giveUp task demand (.ofLookup tenant cause)
  | .ok record =>
    if record.isActive then m.await task (.opening demand tenant record m.connectDeadline)
    else m.giveUp task demand (.notActive tenant record.status)

/-- Goes on with the connections that were opened. -/
def afterOpening (m : Manager) (task : TaskId) (demand : Demand) (tenant : TenantId)
    (record : Tenant) (result : Except OpenFault (String × Nat)) : Manager :=
  match result with
  | .error fault => m.giveUp task demand (.setup tenant (.opening fault))
  | .ok (database, size) =>
    { m with ledger := m.ledger.open database size }.await task
      (.pinging demand tenant record m.ledger.next m.connectDeadline)

/-- Enters a new pool for its tenant. If the tenant has another one, the connections are closed;
if the manager was shut down, the pool is. -/
def enter (m : Manager) (task : TaskId) (demand : Demand) (tenant : TenantId) (record : Tenant)
    (connections : ConnectionsId) : Manager :=
  match m.entries.get? tenant with
  | some winner => m.giveSlot.await task (.yielding demand tenant connections winner)
  | none =>
    let id := m.pools.length
    let m :=
      { m with
        entries := m.entries.insert tenant id
        pools := m.pools ++ [Pool.new record connections m.now] }
    if m.shuttingDown then
      m.beginClose task tenant id "created during shutdown" (.withdraw demand)
    else m.deliver task demand tenant id

/-- Goes on with the answer to the first ping. -/
def afterFirstPing (m : Manager) (task : TaskId) (demand : Demand) (tenant : TenantId)
    (record : Tenant) (connections : ConnectionsId) (result : Except PingFault Unit) : Manager :=
  match result with
  | .error fault => m.await task (.rejecting demand tenant connections fault)
  | .ok () => m.enter task demand tenant record connections

/-- Goes on when connections that did not answer are closed. -/
def afterRejecting (m : Manager) (task : TaskId) (demand : Demand) (tenant : TenantId)
    (connections : ConnectionsId) (fault : PingFault) : Manager :=
  { m with ledger := m.ledger.close connections }.giveUp task demand
    (.setup tenant (.ping fault))

/-- Goes on when connections that came too late are closed. -/
def afterYielding (m : Manager) (task : TaskId) (demand : Demand) (tenant : TenantId)
    (connections : ConnectionsId) (winner : PoolId) : Manager :=
  let m := { m with ledger := m.ledger.close connections }
  (m.modifyPool winner (·.touch m.now)).deliver task demand tenant winner

end Tenancy.Manager
