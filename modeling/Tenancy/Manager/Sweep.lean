import Tenancy.Manager.Creation

/-!
# Going through all pools

Idle and unhealthy pools that nobody holds are evicted. A check pings every pool, each from a task
of its own, and closes those that do not answer and that nobody holds. Both work on the pools that
are in use when they start, and close a pool only if it still is its tenant's. They run when
somebody asks for it, and in loops in the background.
-/

namespace Tenancy.Manager

/-! ### Loops -/

/-- The time between two rounds of a loop, if the configuration has it. -/
def Config.interval (c : Config) : Loop → Option Duration
  | .eviction => c.evictionInterval
  | .health => c.healthInterval

/-- Lets a loop wait for its next round, unless it was told to end. -/
def rest (m : Manager) (task : TaskId) (loop : Loop) : Manager :=
  if m.closed then m.leave task
  else
    let period := (m.config.interval loop).elim 0 Duration.nanos
    m.await task (.loopSleeping loop (m.now + period))

/-- Ends a sweep, for the one who asked for it or for a loop. -/
def finishSweep (m : Manager) (task : TaskId) (sweeper : Sweeper) (loop : Loop)
    (outcome : Outcome) : Manager :=
  match sweeper with
  | .caller => m.finish task outcome
  | .loop => m.rest task loop

/-! ### Eviction -/

/-- Why a pool is evicted that nobody holds: a failed ping, or more idle time than the
configuration allows. -/
def evictionReason (m : Manager) (p : Pool) : Option String :=
  if p.isReferenced then none
  else if p.isUnhealthy then some "unhealthy"
  else if !m.config.idleTimeout.isZero && m.config.idleTimeout.nanos < p.idleFor m.now then
    some "idle timeout"
  else none

/-- Goes on through pools, having closed so many. -/
def evictRest (m : Manager) (task : TaskId) (sweeper : Sweeper) (count : Nat) :
    List (TenantId × PoolId) → Manager
  | [] => m.finishSweep task sweeper .eviction (.count count)
  | (tenant, id) :: pools =>
    match (m.pools[id]?).bind m.evictionReason with
    | some reason =>
      if m.holds tenant id then
        m.beginClose task tenant id reason (.evict sweeper pools count)
      else m.evictRest task sweeper count pools
    | none => m.evictRest task sweeper count pools

/-- Starts to evict pools. -/
def beginEviction (m : Manager) (task : TaskId) (sweeper : Sweeper) : Manager :=
  m.evictRest task sweeper 0 m.snapshot

/-! ### Check -/

/-- The longest time that a ping may take. -/
def pingTimeout : Duration := .ofSeconds 5

/-- Waits for the answers that are to come, and ends when there are none. -/
def awaitProbes (m : Manager) (task : TaskId) (sweeper : Sweeper) (sweep : HealthSweep) :
    Manager :=
  if m.expectsReports task then m.await task (.probing sweeper sweep)
  else m.finishSweep task sweeper .health (.swept sweep)

/-- Starts to ping all pools. -/
def beginCheck (m : Manager) (task : TaskId) (sweeper : Sweeper) : Manager :=
  let probes := m.snapshot.map fun (tenant, id) => Stage.probeQueued task tenant id
  (m.spawnAll probes).awaitProbes task sweeper .zero

/-- Notes the answer of a pool to a ping. A pool that does not answer is marked, and closed if
nobody holds it. -/
def noteProbe (m : Manager) (task : TaskId) (sweeper : Sweeper) (sweep : HealthSweep)
    (tenant : TenantId) (id : PoolId) (result : Except PingFault Unit) : Manager :=
  let sweep := { sweep with checked := sweep.checked + 1 }
  match result with
  | .ok () =>
    let recovered := (m.pools[id]?).elim false fun p => p.markHealthy.1
    (m.modifyPool id fun p => p.markHealthy.2).awaitProbes task sweeper
      (if recovered then { sweep with recovered := sweep.recovered + 1 } else sweep)
  | .error _ =>
    let sweep := { sweep with failed := sweep.failed + 1 }
    let m := m.modifyPool id fun p => (p.markUnhealthy m.now).2
    if !m.isReferenced id && m.holds tenant id then
      m.beginClose task tenant id "health check failed" (.probe sweeper sweep)
    else m.awaitProbes task sweeper sweep

/-- Reads the next report of the tasks that ping. -/
def absorbProbe (m : Manager) (task : TaskId) (sweeper : Sweeper) (sweep : HealthSweep) :
    Manager :=
  match m.nextReport? task with
  | some (.probed tenant id result) =>
    (m.dropReport task).noteProbe task sweeper sweep tenant id result
  | _ => m

end Tenancy.Manager
