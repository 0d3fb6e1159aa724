import Tenancy.Manager.Step
import Tenancy.Simulation.Backend
import Tenancy.Simulation.Directory

/-!
# A manager at work

A manager over a directory and a backend in memory, on a clock that stands still while a task can
go on. Tasks take turns; when none can go on, the clock jumps to the next time that one of them
waits for. Times that are waited for are whole milliseconds, rounded up.
-/

namespace Tenancy

open Manager (TaskId Stage Answer Request Outcome)

/-- A manager and what it works with. -/
structure Simulation where
  manager : Manager
  directory : Simulation.Directory
  backend : Simulation.Backend
  /-- The calls of the backend that tasks wait for: when each is answered, or none if never. -/
  pending : Assoc TaskId (Option Nat)
  /-- The leases that are given back at a time to come. -/
  drops : List (Nat × TaskId)
  /-- The time of the calendar, in seconds, at which the manager was made. -/
  epoch : Nat

namespace Simulation

/-- A new manager over a directory. -/
def new (config : Manager.Config) (directory : Directory) (epoch : Nat) : Simulation :=
  ⟨.new config, directory, .new, ∅, [], epoch⟩

/-- The nanoseconds since the manager was made. -/
def now (s : Simulation) : Nat := s.manager.now

/-- The time of the calendar in seconds. -/
def seconds (s : Simulation) : Nat := s.epoch + s.now / 1000000000

/-- The first whole millisecond from a time on. -/
def tick (nanos : Nat) : Nat := (nanos + 999999) / 1000000 * 1000000

/-- Lets the manager make a step. -/
def step (s : Simulation) (e : Manager.Event) : Simulation :=
  { s with manager := s.manager.step e }

/-! ### Answers -/

/-- Waits for a call of the backend that takes so long, or for ever. -/
def wait (s : Simulation) (task : TaskId) (delay : Option Duration) : Simulation :=
  { s with pending := s.pending.insert task (delay.map fun d => tick (s.now + d.nanos)) }

/-- The answer to a call of the backend that takes so long. -/
def after (s : Simulation) (task : TaskId) (delay : Duration) (answer : Answer) :
    Simulation × Option Answer :=
  match s.pending.get? task with
  | none => if delay.isZero then (s, some answer) else (s.wait task delay, none)
  | some wake =>
    if wake.any (· ≤ s.now) then ({ s with pending := s.pending.erase task }, some answer)
    else (s, none)

/-- That a deadline is over, if it is and nothing else is to be told. -/
def orElapsed (deadline : Nat) (task : TaskId) :
    Simulation × Option Answer → Simulation × Option Answer
  | (s, some answer) => (s, some answer)
  | (s, none) =>
    if tick deadline ≤ s.now then ({ s with pending := s.pending.erase task }, some .elapsed)
    else (s, none)

/-- The answer of the backend to the opening of a tenant's connections. The string is looked at
first; the rest takes time. -/
def openFor (s : Simulation) (task : TaskId) (record : Tenant) :
    Simulation × Option Answer :=
  let config := s.manager.config
  let dsn := Dsn.build record config.user config.password config.sslMode
  let s :=
    if s.pending.contains task then s
    else
      { s with
        backend.requests := s.backend.requests ++ [(dsn, config.openSettings)] }
  match Backend.database dsn with
  | .error fault => (s, some (.opened (.error fault)))
  | .ok database =>
    s.after task s.backend.openDelay (.opened (s.backend.opened database config.minConnections))

/-- The answer of connections to a ping. -/
def pingFor (s : Simulation) (task : TaskId) (id : ConnectionsId) :
    Simulation × Option Answer :=
  match s.pending.get? task, s.manager.ledger.all[id]? with
  | none, some connections =>
    let answer := s.backend.ping? connections
    let s := { s with backend.pings := s.backend.pings + 1 }
    match answer with
    | some result => (s, some (.pinged result))
    | none => (s.wait task none, none)
  | _, _ => (s, none)

/-- That a task may go on, if it may. -/
def proceedIf (s : Simulation) (b : Bool) : Simulation × Option Answer :=
  (s, if b then some .proceed else none)

/-- What a task that waits at a stage is told now, if anything. -/
def answer (s : Simulation) (task : TaskId) : Stage → Simulation × Option Answer
  | .lookingUp _ tenant =>
    let (r, directory) := s.directory.get tenant
    ({ s with directory }, some (.tenant r))
  | .listing =>
    let (r, directory) := s.directory.listActive
    ({ s with directory }, some (.tenants r))
  | .updating tenant status =>
    let (r, directory) := s.directory.update tenant status s.seconds
    ({ s with directory }, some (.updated r))
  | .opening _ _ record deadline => orElapsed deadline task (s.openFor task record)
  | .pinging _ _ _ id deadline => orElapsed deadline task (s.pingFor task id)
  | .probePinging _ _ pool deadline =>
    orElapsed deadline task <|
      (s.manager.pools[pool]?).elim (s, none) fun p => s.pingFor task p.connections
  | .rejecting _ _ _ _ | .yielding _ _ _ _ | .closing _ _ _ _ =>
    s.after task s.backend.closeDelay .closed
  | .warmQueued _ _ | .probeQueued _ _ _ | .loopQueued _ => s.proceedIf true
  | .gathering _ _ | .probing _ _ => s.proceedIf (s.manager.nextReport? task).isSome
  | .draining _ wake => orElapsed wake task (s, none)
  | .joining _ => s.proceedIf (!s.manager.hasLoops)
  | .loopSleeping _ wake => orElapsed wake task (s.proceedIf s.manager.closed)

/-! ### Turns -/

/-- The number of answers that a task can get in one turn, at most. -/
def patience (s : Simulation) : Nat :=
  64 + 8 * (s.manager.entries.size + s.manager.reports.length + s.manager.tasks.size)

/-- Lets a task go on until it has to wait, for so many answers at most. Tells whether it got
one. -/
def turn (s : Simulation) (task : TaskId) : Nat → Simulation × Bool
  | 0 => (s, false)
  | fuel + 1 =>
    match s.manager.tasks.get? task with
    | none => (s, false)
    | some stage =>
      match s.answer task stage with
      | (s, none) => (s, false)
      | (s, some a) => (((s.step (.resume task a)).turn task fuel).1, true)

/-- Gives back the leases whose time has come. -/
def dropDue (s : Simulation) : Simulation :=
  let (due, drops) := s.drops.partition (·.1 ≤ s.now)
  due.foldl (fun s d => s.step (.drop d.2)) { s with drops }

/-- Lets every task take a turn, the one that has waited longest first. Tells whether one got an
answer. -/
def round (s : Simulation) : Simulation × Bool :=
  s.manager.tasks.toList.foldl
    (fun (s, moved) (task, _) =>
      let (s, b) := s.turn task s.patience
      (s, moved || b))
    (s.dropDue, false)

/-- Lets tasks take turns until none can go on, for so many rounds at most. -/
def rounds (s : Simulation) : Nat → Simulation
  | 0 => s
  | fuel + 1 =>
    match s.round with
    | (s, true) => s.rounds fuel
    | (s, false) => s

/-- Lets tasks take turns until none can go on. -/
def settle (s : Simulation) : Simulation := s.rounds s.patience

/-! ### Time -/

/-- The time that a task waits for at a stage, if it waits for one. -/
def alarm? (s : Simulation) (task : TaskId) (stage : Stage) : Option Nat :=
  let answered := (s.pending.get? task).join
  let deadline := match stage with
    | .opening _ _ _ deadline | .pinging _ _ _ _ deadline | .probePinging _ _ _ deadline
    | .draining _ deadline | .loopSleeping _ deadline => some (tick deadline)
    | _ => none
  answered.merge min deadline

/-- The next time that something waits for. -/
def nextAlarm? (s : Simulation) : Option Nat :=
  let alarms := s.manager.tasks.toList.filterMap fun (task, stage) => s.alarm? task stage
  ((alarms ++ s.drops.map Prod.fst).filter (s.now < ·)).min?

/-- Lets time go on up to a time. -/
def advanceTo (s : Simulation) (time : Nat) : Simulation :=
  s.step (.advance (time - s.now))

/-- The number of times that the clock jumps while a task is waited for, at most. -/
def horizon : Nat := 10000000

/-- Lets everything go on until the simulation satisfies `p`, for so many jumps of the clock at
most. -/
def runUntil (p : Simulation → Bool) : Nat → Simulation → Simulation
  | 0, s => s
  | fuel + 1, s =>
    let s := s.settle
    if p s then s
    else
      match s.nextAlarm? with
      | none => s
      | some time => runUntil p fuel (s.advanceTo time)

/-- Lets everything go on until a time, for so many jumps of the clock at most. -/
def runTo (time : Nat) : Nat → Simulation → Simulation
  | 0, s => s
  | fuel + 1, s =>
    let s := s.settle
    match s.nextAlarm? with
    | none => (s.advanceTo time).settle
    | some alarm =>
      if alarm ≤ time then runTo time fuel (s.advanceTo alarm)
      else (s.advanceTo time).settle

/-! ### Requests -/

/-- Starts a request, which goes on until it has to wait. -/
def start (s : Simulation) (request : Request) : TaskId × Simulation :=
  let task := s.manager.nextTask
  let s := s.step (.call request)
  (task, (s.turn task s.patience).1)

/-- How a request ended, if it has. -/
def outcome? (s : Simulation) (task : TaskId) : Option Outcome := s.manager.outcomes.get? task

/-- Waits until requests have ended. -/
def join (s : Simulation) (tasks : List TaskId) : Simulation :=
  (runUntil (fun s => tasks.all fun task => (s.outcome? task).isSome) horizon s).settle

/-- Carries out a request, and waits until it has ended. -/
def call (s : Simulation) (request : Request) : TaskId × Simulation :=
  let (task, s) := s.start request
  (task, s.join [task])

/-- Waits for a time. -/
def sleep (s : Simulation) (d : Duration) : Simulation :=
  runTo (tick (s.now + d.nanos)) horizon s

/-- Gives a lease back after a time. -/
def dropLater (s : Simulation) (lease : TaskId) (delay : Duration) : Simulation :=
  { s with drops := s.drops ++ [(tick (s.now + delay.nanos), lease)] }

/-- Pings the connections of a pool, and waits for the answer. None comes from a database that
leaves pings without one. -/
def ping? (s : Simulation) (p : Pool) : Option (Except PingFault Unit) × Simulation :=
  ((s.manager.ledger.all[p.connections]?).bind s.backend.ping?,
    { s with backend.pings := s.backend.pings + 1 })

/-- The connections that are counted for the statistics. -/
def count (s : Simulation) (id : ConnectionsId) : ConnectionCount :=
  (s.manager.ledger.all[id]?).elim default s.backend.count

/-- The statistics of the pools in use. -/
def statistics (s : Simulation) : Statistics := s.manager.statistics s.count

end Simulation

end Tenancy
