import Tenancy.Assoc
import Tenancy.Duration
import Tenancy.Pool.Connections
import Tenancy.Pool.Error

/-!
# Tasks of the manager

A request to the manager is carried out by a task. A task runs until it has to wait for an answer:
of the directory, of the backend, of the clock, or of other tasks. `Stage` says what a task waits
for and what it does next; `Answer` is what it can be told.
-/

namespace Tenancy.Manager

/-- The place of a task among all that were ever started. -/
abbrev TaskId := Nat

/-- The place of a pool among all that were ever put to use. -/
abbrev PoolId := Nat

/-- What the manager can be asked for. -/
inductive Request
  | get (tenant : TenantId)
  | lease (tenant : TenantId)
  | evict
  | checkHealth
  | retire (tenant : TenantId) (reason : String)
  | setStatus (tenant : TenantId) (status : Status)
  | prewarm
  | drain (patience : Duration)
  | close
  | start
  deriving DecidableEq, Repr, Inhabited

/-- The count of a check of all pools: those that were pinged, those that did not answer, those
that answer again, and those that were closed. -/
structure HealthSweep where
  checked : Nat
  failed : Nat
  recovered : Nat
  closed : Nat
  deriving DecidableEq, Repr, Inhabited

/-- A sweep that has counted nothing yet. -/
def HealthSweep.zero : HealthSweep := ⟨0, 0, 0, 0⟩

/-- How a request ends. -/
inductive Outcome
  | pool (id : PoolId)
  | leased (id : PoolId)
  | failed (error : PoolError)
  | count (n : Nat)
  | swept (sweep : HealthSweep)
  | retired (closed : Bool)
  | done
  deriving DecidableEq, Repr, Inhabited

/-- What a pool is looked up or made for. -/
inductive Demand
  | get
  | lease
  | warm (parent : TaskId)
  deriving DecidableEq, Repr, Inhabited

/-- The two loops in the background. -/
inductive Loop
  | eviction | health
  deriving DecidableEq, Repr, Inhabited

/-- For whom all pools are gone through. -/
inductive Sweeper
  | caller | loop
  deriving DecidableEq, Repr, Inhabited

/-- What a task tells the one that started it. -/
inductive Report
  | warmed (result : Except PoolError Unit)
  | probed (tenant : TenantId) (pool : PoolId) (result : Except PingFault Unit)
  deriving Repr, Inhabited

/-- What a task does after it has closed a pool. -/
inductive Next
  /-- Fails, because the manager was shut down while the pool was made. -/
  | withdraw (demand : Demand)
  /-- Goes on through the idle pools, having closed so many. -/
  | evict (sweeper : Sweeper) (rest : List (TenantId × PoolId)) (count : Nat)
  /-- Goes on through the answers to the pings. -/
  | probe (sweeper : Sweeper) (sweep : HealthSweep)
  | retire
  | setStatus
  /-- Goes on through all pools, and then gives the number if there is one. -/
  | shutdown (rest : List (TenantId × PoolId)) (count : Option Nat)
  deriving Repr, Inhabited

/-- What a task waits for. -/
inductive Stage
  /-- The record of the tenant. -/
  | lookingUp (demand : Demand) (tenant : TenantId)
  /-- Connections, or the deadline. -/
  | opening (demand : Demand) (tenant : TenantId) (record : Tenant) (deadline : Nat)
  /-- The answer to the first ping, or the deadline. -/
  | pinging (demand : Demand) (tenant : TenantId) (record : Tenant) (id : ConnectionsId)
    (deadline : Nat)
  /-- The end of connections that did not answer the first ping. -/
  | rejecting (demand : Demand) (tenant : TenantId) (id : ConnectionsId) (fault : PingFault)
  /-- The end of connections that came too late, after the pool `winner` of the same tenant. -/
  | yielding (demand : Demand) (tenant : TenantId) (id : ConnectionsId) (winner : PoolId)
  /-- The end of the connections of a pool. -/
  | closing (tenant : TenantId) (pool : PoolId) (reason : String) (next : Next)
  /-- Its turn, to get a pool for a task that opens many. -/
  | warmQueued (parent : TaskId) (tenant : TenantId)
  /-- The records of the active tenants. -/
  | listing
  /-- The reports of the tasks that open pools. -/
  | gathering (warmed : Nat) (first : Option PoolError)
  /-- Its turn, to ping a pool. -/
  | probeQueued (parent : TaskId) (tenant : TenantId) (pool : PoolId)
  /-- The answer to a ping, or the deadline. -/
  | probePinging (parent : TaskId) (tenant : TenantId) (pool : PoolId) (deadline : Nat)
  /-- The reports of the tasks that ping. -/
  | probing (sweeper : Sweeper) (sweep : HealthSweep)
  /-- The change of a status in the directory. -/
  | updating (tenant : TenantId) (status : Status)
  /-- The time at which it looks again whether all pools are given back. -/
  | draining (deadline wake : Nat)
  /-- The end of the loops, before it closes all pools. -/
  | joining (count : Option Nat)
  /-- Its turn, to start a loop. -/
  | loopQueued (loop : Loop)
  /-- The time of the next round, or the signal to end. -/
  | loopSleeping (loop : Loop) (wake : Nat)
  deriving Repr, Inhabited

/-- The task that started this one and waits for its report. -/
def Demand.parent? : Demand → Option TaskId
  | .warm parent => parent
  | _ => none

namespace Next

/-- The task that waits for a report of this one. -/
def parent? : Next → Option TaskId
  | .withdraw demand => demand.parent?
  | _ => none

/-- Whether a loop is at work. -/
def isLoop : Next → Bool
  | .evict .loop _ _ | .probe .loop _ => true
  | _ => false

end Next

namespace Stage

/-- The task that waits for a report of this one. -/
def parent? : Stage → Option TaskId
  | .lookingUp d _ | .opening d _ _ _ | .pinging d _ _ _ _ | .rejecting d _ _ _
  | .yielding d _ _ _ => d.parent?
  | .closing _ _ _ next => next.parent?
  | .warmQueued parent _ | .probeQueued parent _ _ | .probePinging parent _ _ _ => parent
  | _ => none

/-- Whether the task is one of the two loops. -/
def isLoop : Stage → Bool
  | .closing _ _ _ next => next.isLoop
  | .probing .loop _ | .loopQueued _ | .loopSleeping _ _ => true
  | _ => false

end Stage

/-- What a task can be told. -/
inductive Answer
  | tenant (result : Except StoreError Tenant)
  | tenants (result : Except StoreError (List Tenant))
  | updated (result : Except StoreError Unit)
  /-- The database and the number of the connections that were opened. -/
  | opened (result : Except OpenFault (String × Nat))
  | pinged (result : Except PingFault Unit)
  | closed
  /-- The time has come. -/
  | elapsed
  /-- Nothing is in the way. -/
  | proceed
  deriving Repr, Inhabited

end Tenancy.Manager
