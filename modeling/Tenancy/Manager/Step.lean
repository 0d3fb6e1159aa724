import Tenancy.Manager.Prewarm
import Tenancy.Manager.Shutdown
import Tenancy.Manager.Sweep

/-!
# Steps of the manager

What can happen to a manager, one thing after another: a request comes in, a task is told what it
waits for, time goes on, a lease is given back, a holder uses a pool, a task is cancelled. Every
interleaving of tasks is a list of events. An answer that does not fit what a task waits for has no
effect.
-/

namespace Tenancy.Manager

/-- What can happen to a manager. -/
inductive Event
  | call (request : Request)
  | resume (task : TaskId) (answer : Answer)
  /-- So many nanoseconds go by. -/
  | advance (nanos : Nat)
  /-- A lease is given back. -/
  | drop (lease : TaskId)
  | touch (pool : PoolId)
  | acquire (pool : PoolId)
  | release (pool : PoolId)
  /-- The one who asked no longer waits. -/
  | cancel (task : TaskId)
  deriving Repr, Inhabited

/-- Starts the task of a request. -/
def admitRequest (m : Manager) (task : TaskId) : Request → Manager
  | .get tenant => m.beginGet task .get tenant
  | .lease tenant => m.beginLease task tenant
  | .evict => m.beginEviction task .caller
  | .checkHealth => m.beginCheck task .caller
  | .retire tenant reason => m.beginRetirement task tenant reason
  | .setStatus tenant status => m.await task (.updating tenant status)
  | .prewarm => m.await task .listing
  | .drain patience => m.beginDrain task patience
  | .close => m.beginShutdown task none
  | .start => m.beginLoops task

/-- Takes a request in. -/
def call (m : Manager) (request : Request) : Manager :=
  { m with nextTask := m.nextTask + 1 }.admitRequest m.nextTask request

/-- Goes on when the connections of a pool are closed. -/
def afterClosing (m : Manager) (task : TaskId) (tenant : TenantId) (id : PoolId)
    (reason : String) (next : Next) : Manager :=
  let m :=
    { m with
      ledger := (m.pools[id]?).elim m.ledger fun p => m.ledger.close p.connections
      closures := m.closures ++ [(tenant, reason)] }
  match next with
  | .withdraw demand => m.fail task demand .closed
  | .evict sweeper pools count => m.evictRest task sweeper (count + 1) pools
  | .probe sweeper sweep =>
    m.awaitProbes task sweeper { sweep with closed := sweep.closed + 1 }
  | .retire => m.finish task (.retired true)
  | .setStatus => m.finish task .done
  | .shutdown pools count => m.closeRest task count pools

/-- Starts a round of a loop. -/
def beginRound (m : Manager) (task : TaskId) : Loop → Manager
  | .eviction => m.beginEviction task .loop
  | .health => m.beginCheck task .loop

/-- Tells a task, which waits at a stage, an answer. -/
def answer (m : Manager) (task : TaskId) (stage : Stage) (answer : Answer) : Manager :=
  match stage, answer with
  | .lookingUp demand tenant, .tenant result => m.afterLookup task demand tenant result
  | .opening demand tenant record _, .opened result =>
    m.afterOpening task demand tenant record result
  | .opening demand tenant _ deadline, .elapsed =>
    if deadline ≤ m.now then
      m.giveUp task demand (.setup tenant (.opening (.timeout m.config.connectTimeout)))
    else m
  | .pinging demand tenant record connections _, .pinged result =>
    m.afterFirstPing task demand tenant record connections result
  | .pinging demand tenant record connections deadline, .elapsed =>
    if deadline ≤ m.now then
      m.afterFirstPing task demand tenant record connections
        (.error (.timeout m.config.connectTimeout))
    else m
  | .rejecting demand tenant connections fault, .closed =>
    m.afterRejecting task demand tenant connections fault
  | .yielding demand tenant connections winner, .closed =>
    m.afterYielding task demand tenant connections winner
  | .closing tenant id reason next, .closed => m.afterClosing task tenant id reason next
  | .warmQueued parent tenant, .proceed => m.beginGet task (.warm parent) tenant
  | .listing, .tenants result => m.afterListing task result
  | .gathering warmed first, .proceed => m.absorbWarmed task warmed first
  | .probeQueued parent tenant id, .proceed =>
    m.await task (.probePinging parent tenant id (m.now + pingTimeout.nanos))
  | .probePinging parent tenant id _, .pinged result =>
    m.report task parent (.probed tenant id result)
  | .probePinging parent tenant id deadline, .elapsed =>
    if deadline ≤ m.now then
      m.report task parent (.probed tenant id (.error (.timeout pingTimeout)))
    else m
  | .probing sweeper sweep, .proceed => m.absorbProbe task sweeper sweep
  | .updating tenant status, .updated result => m.afterUpdate task tenant status result
  | .draining deadline wake, .elapsed => if wake ≤ m.now then m.drainRound task deadline else m
  | .joining count, .proceed =>
    if m.hasLoops then m else m.closeRest task count m.snapshot
  | .loopQueued loop, .proceed => m.rest task loop
  | .loopSleeping loop wake, .elapsed => if wake ≤ m.now then m.beginRound task loop else m
  | .loopSleeping _ _, .proceed => if m.closed then m.leave task else m
  | _, _ => m

/-- Tells a task an answer. -/
def resume (m : Manager) (task : TaskId) (a : Answer) : Manager :=
  match m.tasks.get? task with
  | some stage => m.answer task stage a
  | none => m

/-- Gives a lease back. -/
def dropLease (m : Manager) (lease : TaskId) : Manager :=
  match m.leases.get? lease with
  | some id =>
    { m.modifyPool id (·.release m.now) with leases := m.leases.erase lease }
  | none => m

/-- Cancels the task of a request, and the tasks that it started. Loops cannot be cancelled, nor
can tasks that another one waits for. -/
def cancel (m : Manager) (task : TaskId) : Manager :=
  match m.tasks.get? task with
  | some stage =>
    if stage.isLoop || stage.parent?.isSome then m
    else
      { m with
        tasks := m.tasks.filter fun id s => id ≠ task && s.parent? ≠ some task
        reports := m.reports.filter (·.1 ≠ task) }
  | none => m

/-- What a manager is after an event. -/
def step (m : Manager) : Event → Manager
  | .call request => m.call request
  | .resume task a => m.resume task a
  | .advance nanos => { m with now := m.now + nanos }
  | .drop lease => m.dropLease lease
  | .touch id => m.modifyPool id (·.touch m.now)
  | .acquire id => m.modifyPool id (·.acquire m.now)
  | .release id => m.modifyPool id (·.release m.now)
  | .cancel task => m.cancel task

/-- What a manager is after several events. -/
def run (m : Manager) (events : List Event) : Manager := events.foldl step m

end Tenancy.Manager
