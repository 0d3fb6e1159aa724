import Tenancy.Manager.Creation

/-!
# Retiring tenants and shutting down

The pool of one tenant can be closed whoever holds it, and so can all pools at once: then no more
requests are taken, the loops are ended, and the pools are closed one after another. Draining
first waits until nobody holds a pool, but no longer than the caller is patient.
-/

namespace Tenancy.Manager

/-! ### One tenant -/

/-- Starts to close the pool of a tenant. -/
def beginRetirement (m : Manager) (task : TaskId) (tenant : TenantId) (reason : String) :
    Manager :=
  match m.entries.get? tenant with
  | some id => m.beginClose task tenant id reason .retire
  | none => m.finish task (.retired false)

/-- Goes on when the directory has changed the status of a tenant: one that is not active loses its
pool. -/
def afterUpdate (m : Manager) (task : TaskId) (tenant : TenantId) (status : Status)
    (result : Except StoreError Unit) : Manager :=
  match result with
  | .error cause => m.finish task (.failed (.ofLookup tenant cause))
  | .ok () =>
    if status.isActive then m.finish task .done
    else
      match m.entries.get? tenant with
      | some id => m.beginClose task tenant id ("tenant " ++ status.name) .setStatus
      | none => m.finish task .done

/-! ### All tenants -/

/-- Ends a shutdown, for a request that closes or for one that drains. -/
def finishShutdown (m : Manager) (task : TaskId) : Option Nat → Manager
  | none => m.finish task .done
  | some count => m.finish task (.count count)

/-- Goes on through pools and closes those that still are their tenants'. -/
def closeRest (m : Manager) (task : TaskId) (count : Option Nat) :
    List (TenantId × PoolId) → Manager
  | [] => m.finishShutdown task count
  | (tenant, id) :: pools =>
    if m.holds tenant id then m.beginClose task tenant id "shutdown" (.shutdown pools count)
    else m.closeRest task count pools

/-- Waits for the end of the loops, and then starts to close all pools. -/
def awaitLoops (m : Manager) (task : TaskId) (count : Option Nat) : Manager :=
  if m.hasLoops then m.await task (.joining count) else m.closeRest task count m.snapshot

/-- Starts to shut down. Only the first request does; a later one ends at once. -/
def beginShutdown (m : Manager) (task : TaskId) (count : Option Nat) : Manager :=
  let m := { m with shuttingDown := true }
  if m.closed then m.finishShutdown task count
  else { m with closed := true }.awaitLoops task count

/-- The time between two looks at the pools while it drains. -/
def drainInterval : Duration := .ofMillis 50

/-- Looks whether somebody holds a pool. If nobody does, or the deadline is over, it shuts down and
gives the number of pools that are held. -/
def drainRound (m : Manager) (task : TaskId) (deadline : Nat) : Manager :=
  if m.referencedPools = 0 ∨ deadline ≤ m.now then m.beginShutdown task m.referencedPools
  else m.await task (.draining deadline (m.now + drainInterval.nanos))

/-- Starts to drain. Deadlines past the range of the clock, on which adding up may fail, are not
modelled: here any time is a deadline. -/
def beginDrain (m : Manager) (task : TaskId) (patience : Duration) : Manager :=
  { m with shuttingDown := true }.drainRound task (m.now + patience.nanos)

/-! ### Loops -/

/-- Starts the loops that the configuration asks for, unless they were started before or the
manager is shut down. -/
def beginLoops (m : Manager) (task : TaskId) : Manager :=
  if m.shuttingDown || m.started then m.finish task .done
  else
    let loops :=
      (m.config.evictionInterval.map fun _ => Stage.loopQueued .eviction).toList
        ++ (m.config.healthInterval.map fun _ => Stage.loopQueued .health).toList
    ({ m with started := true }.spawnAll loops).finish task .done

end Tenancy.Manager
