import Tenancy.Manager.Config
import Tenancy.Manager.Task
import Tenancy.Pool.Statistics

/-!
# The manager

A manager keeps at most one pool for each tenant. Every pool takes a slot, and so does every pool
that is being made; the configuration may limit the number of slots.
-/

namespace Tenancy

/-- The state of a manager. -/
structure Manager where
  config : Manager.Config
  /-- The nanoseconds since the manager was made. -/
  now : Nat
  /-- The pool of each tenant that has one. -/
  entries : Assoc TenantId Manager.PoolId
  /-- All pools that were ever put to use. -/
  pools : List Pool
  /-- All connections that were ever opened. -/
  ledger : Ledger
  /-- The number of slots that are taken. A slot given back twice would show here. -/
  slots : Int
  /-- No more requests for pools are taken. -/
  shuttingDown : Bool
  /-- All pools are being closed, and the loops are told to end. -/
  closed : Bool
  /-- The loops were started. -/
  started : Bool
  tasks : Assoc Manager.TaskId Manager.Stage
  /-- The task that is started next. -/
  nextTask : Manager.TaskId
  /-- The reports that tasks have not read yet, the oldest first. -/
  reports : List (Manager.TaskId × Manager.Report)
  /-- How the requests ended that have. -/
  outcomes : Assoc Manager.TaskId Manager.Outcome
  /-- The pool of each lease that is not given back, by the task that took it. -/
  leases : Assoc Manager.TaskId Manager.PoolId
  /-- The tenants whose pools were closed, with the reasons, the oldest first. -/
  closures : List (TenantId × String)

namespace Manager

/-- A manager without pools. -/
def new (config : Config) : Manager where
  config := config
  now := 0
  entries := ∅
  pools := []
  ledger := .empty
  slots := 0
  shuttingDown := false
  closed := false
  started := false
  tasks := ∅
  nextTask := 0
  reports := []
  outcomes := ∅
  leases := ∅
  closures := []

/-! ### Pools -/

/-- The pools in use, by their tenants. -/
def snapshot (m : Manager) : List (TenantId × PoolId) := m.entries.toList

/-- Changes a pool. -/
def modifyPool (m : Manager) (id : PoolId) (f : Pool → Pool) : Manager :=
  { m with pools := m.pools.modify id f }

/-- Whether somebody holds a pool. -/
def isReferenced (m : Manager) (id : PoolId) : Bool :=
  (m.pools[id]?).elim false Pool.isReferenced

/-- The number of pools in use that somebody holds. -/
def referencedPools (m : Manager) : Nat :=
  m.snapshot.countP fun e => m.isReferenced e.2

/-- Whether a pool is the one of a tenant. -/
def holds (m : Manager) (tenant : TenantId) (id : PoolId) : Bool :=
  m.entries.get? tenant = some id

/-! ### Slots -/

/-- Whether no slot is left. -/
def isFull (m : Manager) : Bool :=
  0 < m.config.maxPools && m.config.maxPools ≤ m.slots

/-- Takes a slot. -/
def takeSlot (m : Manager) : Manager := { m with slots := m.slots + 1 }

/-- Gives a slot back. -/
def giveSlot (m : Manager) : Manager := { m with slots := m.slots - 1 }

/-! ### Tasks -/

/-- Lets a task wait. -/
def await (m : Manager) (task : TaskId) (stage : Stage) : Manager :=
  { m with tasks := m.tasks.insert task stage }

/-- Ends a task that nobody waits for. -/
def leave (m : Manager) (task : TaskId) : Manager :=
  { m with tasks := m.tasks.erase task }

/-- Ends the task of a request. -/
def finish (m : Manager) (task : TaskId) (outcome : Outcome) : Manager :=
  { m.leave task with outcomes := m.outcomes.insert task outcome }

/-- Ends a task with a report to the one that started it. -/
def report (m : Manager) (task parent : TaskId) (report : Report) : Manager :=
  { m.leave task with reports := m.reports ++ [(parent, report)] }

/-- Starts a task. -/
def spawn (m : Manager) (stage : Stage) : Manager :=
  { m.await m.nextTask stage with nextTask := m.nextTask + 1 }

/-- Starts several tasks. -/
def spawnAll (m : Manager) (stages : List Stage) : Manager := stages.foldl spawn m

/-- Whether a task still waits for reports that are to come. -/
def hasChildren (m : Manager) (task : TaskId) : Bool :=
  m.tasks.toList.any fun e => e.2.parent? = some task

/-- The first report to a task. -/
def nextReport? (m : Manager) (task : TaskId) : Option Report :=
  (m.reports.find? (·.1 = task)).map Prod.snd

/-- Without the first report to a task. -/
def dropReport (m : Manager) (task : TaskId) : Manager :=
  { m with reports := m.reports.eraseP (·.1 = task) }

/-- Whether reports to a task are there or to come. -/
def expectsReports (m : Manager) (task : TaskId) : Bool :=
  m.hasChildren task || (m.nextReport? task).isSome

/-- Whether one of the loops has not ended. -/
def hasLoops (m : Manager) : Bool :=
  m.tasks.toList.any fun e => e.2.isLoop

/-! ### What can be seen -/

/-- The statistics of the pools in use, with the connections as `count` counts them. -/
def statistics (m : Manager) (count : ConnectionsId → ConnectionCount) : Statistics :=
  .ofTenants <| m.snapshot.filterMap fun (tenant, id) =>
    (m.pools[id]?).map fun p =>
      { tenant
        slug := p.tenant.slug
        connections := count p.connections
        refs := p.refs
        idleMillis := p.idleFor m.now / 1000000
        healthy := !p.isUnhealthy }

/-- A manager as diagnostics show it. -/
def label (m : Manager) : String :=
  "PoolManager \x7b config: " ++ m.config.label ++ ", pools: " ++ toString m.entries.size
    ++ ", closed: " ++ toString m.shuttingDown ++ ", .. \x7d"

end Manager

end Tenancy
