import Tenancy.Manager.Creation

/-!
# Opening pools ahead of time

A pool is got for every active tenant, each by a task of its own. When all have ended, the request
gives the number of pools that are ready, or the first error that occurred.
-/

namespace Tenancy.Manager

/-- Waits for the reports that are to come, and ends when there are none. -/
def awaitWarmed (m : Manager) (task : TaskId) (warmed : Nat) (first : Option PoolError) :
    Manager :=
  if m.expectsReports task then m.await task (.gathering warmed first)
  else
    match first with
    | some error => m.finish task (.failed error)
    | none => m.finish task (.count warmed)

/-- Goes on with the records of the active tenants. -/
def afterListing (m : Manager) (task : TaskId) (result : Except StoreError (List Tenant)) :
    Manager :=
  match result with
  | .error cause => m.finish task (.failed (.listingFailed cause))
  | .ok tenants =>
    (m.spawnAll (tenants.map fun t => .warmQueued task t.id)).awaitWarmed task 0 none

/-- Reads the next report of the tasks that open pools. -/
def absorbWarmed (m : Manager) (task : TaskId) (warmed : Nat) (first : Option PoolError) :
    Manager :=
  match m.nextReport? task with
  | some (.warmed (.ok ())) => (m.dropReport task).awaitWarmed task (warmed + 1) first
  | some (.warmed (.error e)) => (m.dropReport task).awaitWarmed task warmed (first.or e)
  | _ => m

end Tenancy.Manager
