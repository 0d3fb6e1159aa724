import Tenancy.Proofs.Manager.Quiet

/-!
# What a task can do

Between two waits a task does one of a few things to the pools, however the request it carries out
is written: it takes a slot or gives one back, enters a pool or takes one out of use, lends or hands
out a pool, or does nothing of the kind. `Move` lists these with what holds when they are done, and
`Move.of_call` and `Move.of_answer` say that nothing else happens. What is true of every run is
proved by cases on `Move`.
-/

namespace Tenancy.Manager

/-! ### Stages and outcomes -/

/-- Whether a task has a slot for the pool that it makes. -/
def Stage.hasSlot : Stage → Bool
  | .lookingUp _ _ | .opening _ _ _ _ | .pinging _ _ _ _ _ | .rejecting _ _ _ _ => true
  | _ => false

/-- What a task looks up or makes a pool for, and whose. -/
def Stage.demand? : Stage → Option (Demand × TenantId)
  | .lookingUp d t | .opening d t _ _ | .pinging d t _ _ _ | .rejecting d t _ _
  | .yielding d t _ _ => some (d, t)
  | .warmQueued parent t => some (.warm parent, t)
  | _ => none

/-- Whether a task neither makes a pool nor closes one. -/
def Stage.isPlain : Stage → Bool
  | .lookingUp _ _ | .opening _ _ _ _ | .pinging _ _ _ _ _ | .rejecting _ _ _ _
  | .yielding _ _ _ _ | .closing _ _ _ _ => false
  | _ => true

lemma Stage.hasSlot_of_isPlain {s : Stage} (h : s.isPlain = true) : s.hasSlot = false := by
  cases s <;> simp_all [isPlain, hasSlot]

lemma Stage.isPlain_of_isQueued {s : Stage} (h : s.isQueued = true) : s.isPlain = true := by
  cases s <;> simp_all [isPlain, isQueued]

/-- Whether a request got a pool. -/
def Outcome.isGrant : Outcome → Bool
  | .pool _ | .leased _ => true
  | _ => false

/-! ### Where a task takes up -/

/-- Where a task takes up: at a request, or at the stage at which it waited. -/
inductive Origin
  | call (request : Request)
  | stage (stage : Stage)

namespace Origin

/-- Whether the task has a slot. -/
def hasSlot : Origin → Bool
  | .call _ => false
  | .stage s => s.hasSlot

/-- What the task looks up or makes a pool for, and whose. -/
def demand? : Origin → Option (Demand × TenantId)
  | .call (.get t) => some (.get, t)
  | .call (.lease t) => some (.lease, t)
  | .call _ => none
  | .stage s => s.demand?

/-- Whether the task shuts the manager down. -/
def shutsDown : Origin → Bool
  | .call (.drain _) | .call .close | .stage (.draining _ _) | .stage (.joining _)
  | .stage (.closing _ _ _ (.shutdown _ _)) => true
  | _ => false

/-- A task is new if it takes up at a request, and otherwise waits at its stage. -/
def At (m : Manager) (task : TaskId) : Origin → Prop
  | .call _ => m.tasks.get? task = none
  | .stage s => m.tasks.get? task = some s

end Origin

/-- The stages at which a task can come to wait without doing anything to the pools. One that makes
a pool keeps its slot and goes on for the same tenant. -/
inductive Leads : Origin → Stage → Prop
  | opening {d t record deadline} (h : record.isActive = true) :
      Leads (.stage (.lookingUp d t)) (.opening d t record deadline)
  | pinging {d t record deadline connections deadline'} :
      Leads (.stage (.opening d t record deadline))
        (.pinging d t record connections deadline')
  | rejecting {d t record connections deadline fault} :
      Leads (.stage (.pinging d t record connections deadline))
        (.rejecting d t connections fault)
  | plain {o s} (ho : o.hasSlot = false) (hs : s.isPlain = true) : Leads o s

/-- The stages at which a task can come to wait, whatever it does before. -/
inductive Reaches : Origin → Stage → Prop
  | leads {o s} (h : Leads o s) : Reaches o s
  | reserve {o d t} (hd : o.demand? = some (d, t)) : Reaches o (.lookingUp d t)
  | yield {d t record connections deadline winner} :
      Reaches (.stage (.pinging d t record connections deadline))
        (.yielding d t connections winner)
  | close {o t id reason next} : Reaches o (.closing t id reason next)

/-- Why the pool of a tenant may be taken out of use. Sweeps do it only if nobody holds the pool. -/
inductive Warrants (m : Manager) (t : TenantId) (id : PoolId) : Origin → Next → Prop
  | evict {o sweeper rest count} (h : m.isReferenced id = false) :
      Warrants m t id o (.evict sweeper rest count)
  | probe {o sweeper sweep} (h : m.isReferenced id = false) :
      Warrants m t id o (.probe sweeper sweep)
  | retire {reason} : Warrants m t id (.call (.retire t reason)) .retire
  | setStatus {status} (h : status.isActive = false) :
      Warrants m t id (.stage (.updating t status)) .setStatus
  | shutdown {o rest count} (h : o.shutsDown = true) :
      Warrants m t id o (.shutdown rest count)

/-- Enters a new pool for a tenant. -/
def enroll (m : Manager) (t : TenantId) (record : Tenant) (connections : ConnectionsId) :
    Manager :=
  { m with
    entries := m.entries.insert t m.pools.length
    pools := m.pools ++ [Pool.new record connections m.now] }

/-- What a task does that takes up at `o`: first something beside the pools, which leads to `m₁`,
and then one thing to them. -/
inductive Move (m : Manager) (task : TaskId) (o : Origin) : Manager → Prop
  | stay : Move m task o m
  | wait {m₁ s} (q : m.Quiet m₁) (h : Leads o s) : Move m task o (m₁.await task s)
  | leave {m₁} (q : m.Quiet m₁) (ho : o.hasSlot = false) : Move m task o (m₁.leave task)
  | finish {m₁ outcome} (q : m.Quiet m₁) (ho : o.hasSlot = false)
      (h : outcome.isGrant = false) : Move m task o (m₁.finish task outcome)
  | report {m₁ parent r} (q : m.Quiet m₁) (ho : o.hasSlot = false) :
      Move m task o (m₁.report task parent r)
  | reserve {m₁ d t} (q : m.Quiet m₁) (ho : o.hasSlot = false) (hd : o.demand? = some (d, t))
      (hopen : m₁.shuttingDown = false) (hnone : m₁.entries.get? t = none)
      (hfull : m₁.isFull = false) : Move m task o (m₁.takeSlot.await task (.lookingUp d t))
  | giveUp {m₁ d t e} (q : m.Quiet m₁) (ho : o.hasSlot = true) (hd : o.demand? = some (d, t)) :
      Move m task o (m₁.giveUp task d e)
  | yield {m₁ d t record connections deadline winner} (q : m.Quiet m₁)
      (ho : o = .stage (.pinging d t record connections deadline))
      (h : m₁.entries.get? t = some winner) :
      Move m task o (m₁.giveSlot.await task (.yielding d t connections winner))
  | hand {m₁ t id} (q : m.Quiet m₁) (ho : o.hasSlot = false) (hd : o.demand? = some (.get, t))
      (h : m₁.shuttingDown = false ∧ m₁.entries.get? t = some id ∨
        ∃ connections, o = .stage (.yielding .get t connections id)) :
      Move m task o (m₁.finish task (.pool id))
  | lend {m₁ t id} (q : m.Quiet m₁) (ho : o.hasSlot = false) (hd : o.demand? = some (.lease, t))
      (h : m₁.entries.get? t = some id) : Move m task o (m₁.lend task id)
  | enter {m₁ d t record connections deadline} (q : m.Quiet m₁)
      (ho : o = .stage (.pinging d t record connections deadline))
      (hnone : m₁.entries.get? t = none) (hopen : m₁.shuttingDown = false) :
      Move m task o ((m₁.enroll t record connections).deliver task d t m₁.pools.length)
  | withdraw {m₁ d t record connections deadline reason} (q : m.Quiet m₁)
      (ho : o = .stage (.pinging d t record connections deadline))
      (hnone : m₁.entries.get? t = none) (hdown : m₁.shuttingDown = true) :
      Move m task o ((m₁.enroll t record connections).beginClose task t m₁.pools.length reason
        (.withdraw d))
  | close {m₁ t id reason next} (q : m.Quiet m₁) (ho : o.hasSlot = false)
      (h : m₁.entries.get? t = some id) (hw : Warrants m₁ t id o next) :
      Move m task o (m₁.beginClose task t id reason next)

namespace Move

variable {m m₁ : Manager} {task : TaskId} {o : Origin}

/-! ### Serving a request for a pool -/

lemma of_fail (q : m.Quiet m₁) (ho : o.hasSlot = false) (d : Demand) (e : PoolError) :
    Move m task o (m₁.fail task d e) := by
  cases d with
  | get => exact .finish q ho rfl
  | lease => exact .finish q ho rfl
  | warm parent => exact .report q ho

lemma of_beginCreation (q : m.Quiet m₁) (ho : o.hasSlot = false) {d : Demand} {t : TenantId}
    (hd : o.demand? = some (d, t)) (hopen : m₁.shuttingDown = false)
    (hnone : m₁.entries.get? t = none) : Move m task o (m₁.beginCreation task d t) := by
  unfold beginCreation
  split
  next => exact of_fail q ho d _
  next hfull => exact .reserve q ho hd hopen hnone (by simpa using hfull)

lemma of_beginLease (q : m.Quiet m₁) (ho : o.hasSlot = false) {t : TenantId}
    (hd : o.demand? = some (.lease, t)) : Move m task o (m₁.beginLease task t) := by
  unfold beginLease
  split
  next => exact of_fail q ho .lease _
  next hopen =>
    split
    next id h => exact .lend q ho hd h
    next hnone => exact of_beginCreation q ho hd (by simpa using hopen) hnone

lemma of_deliver (q : m.Quiet m₁) (ho : o.hasSlot = false) {d : Demand} {t : TenantId}
    {id : PoolId} (hd : o.demand? = some (d, t))
    (h : m₁.shuttingDown = false ∧ m₁.entries.get? t = some id ∨
      ∃ connections, o = .stage (.yielding d t connections id)) :
    Move m task o (m₁.deliver task d t id) := by
  cases d with
  | get => exact .hand q ho hd h
  | warm parent => exact .report q ho
  | lease =>
    simp only [deliver]
    split
    next hholds => exact .lend q ho hd (by simpa [holds] using hholds)
    next => exact of_beginLease q ho hd

lemma of_beginGet (q : m.Quiet m₁) (ho : o.hasSlot = false) {d : Demand} {t : TenantId}
    (hd : o.demand? = some (d, t)) : Move m task o (m₁.beginGet task d t) := by
  unfold beginGet
  split
  next => exact of_fail q ho d _
  next hopen =>
    have hopen : m₁.shuttingDown = false := by simpa using hopen
    split
    next id h => exact of_deliver (q.trans (.touch _ id _)) ho hd (.inl ⟨hopen, h⟩)
    next hnone => exact of_beginCreation q ho hd hopen hnone

/-! ### Making a pool -/

lemma of_afterLookup (q : m.Quiet m₁) {d : Demand} {t : TenantId}
    (result : Except StoreError Tenant) :
    Move m task (.stage (.lookingUp d t)) (m₁.afterLookup task d t result) := by
  cases result with
  | error cause => exact .giveUp q rfl rfl
  | ok record =>
    simp only [afterLookup]
    split
    next h => exact .wait q (.opening h)
    next => exact .giveUp q rfl rfl

lemma of_afterOpening (q : m.Quiet m₁) {d : Demand} {t : TenantId} {record : Tenant}
    {deadline : Nat} (result : Except OpenFault (String × Nat)) :
    Move m task (.stage (.opening d t record deadline))
      (m₁.afterOpening task d t record result) := by
  cases result with
  | error fault => exact .giveUp q rfl rfl
  | ok opened => exact .wait (q.trans (.closeConnections _ _ m₁.closures)) .pinging

lemma of_enter (q : m.Quiet m₁) {d : Demand} {t : TenantId} {record : Tenant}
    {connections : ConnectionsId} {deadline : Nat} :
    Move m task (.stage (.pinging d t record connections deadline))
      (m₁.enter task d t record connections) := by
  unfold Manager.enter
  split
  next winner h => exact .yield q rfl h
  next hnone =>
    simp only
    split
    next hdown => exact .withdraw q rfl hnone hdown
    next hopen => exact .enter q rfl hnone (by simpa using hopen)

lemma of_afterFirstPing (q : m.Quiet m₁) {d : Demand} {t : TenantId} {record : Tenant}
    {connections : ConnectionsId} {deadline : Nat} (result : Except PingFault Unit) :
    Move m task (.stage (.pinging d t record connections deadline))
      (m₁.afterFirstPing task d t record connections result) := by
  cases result with
  | error fault => exact .wait q .rejecting
  | ok _ => exact of_enter q

/-! ### Going through all pools -/

lemma of_rest (q : m.Quiet m₁) (ho : o.hasSlot = false) (loop : Loop) :
    Move m task o (m₁.rest task loop) := by
  unfold rest
  split
  next => exact .leave q ho
  next => exact .wait q (.plain ho rfl)

lemma of_finishSweep (q : m.Quiet m₁) (ho : o.hasSlot = false) (sweeper : Sweeper) (loop : Loop)
    {outcome : Outcome} (h : outcome.isGrant = false) :
    Move m task o (m₁.finishSweep task sweeper loop outcome) := by
  cases sweeper with
  | caller => exact .finish q ho h
  | loop => exact of_rest q ho loop

/-- A pool that is evicted is held by nobody. -/
lemma isReferenced_of_evictionReason {id : PoolId} {reason : String}
    (h : (m₁.pools[id]?).bind m₁.evictionReason = some reason) :
    m₁.isReferenced id = false := by
  obtain ⟨p, hp, hr⟩ := Option.bind_eq_some_iff.1 h
  simp only [isReferenced, hp, Option.elim_some]
  by_contra href
  simp [evictionReason, href] at hr

lemma of_evictRest (q : m.Quiet m₁) (ho : o.hasSlot = false) (sweeper : Sweeper) (count : Nat)
    (pools : List (TenantId × PoolId)) :
    Move m task o (m₁.evictRest task sweeper count pools) := by
  induction pools with
  | nil => exact of_finishSweep q ho sweeper .eviction rfl
  | cons e rest ih =>
    obtain ⟨t, id⟩ := e
    simp only [evictRest]
    split
    next reason hr =>
      split
      next hholds =>
        exact .close q ho (by simpa [holds] using hholds)
          (.evict (isReferenced_of_evictionReason hr))
      next => exact ih
    next => exact ih

lemma of_awaitProbes (q : m.Quiet m₁) (ho : o.hasSlot = false) (sweeper : Sweeper)
    (sweep : HealthSweep) : Move m task o (m₁.awaitProbes task sweeper sweep) := by
  unfold awaitProbes
  split
  next => exact .wait q (.plain ho rfl)
  next => exact of_finishSweep q ho sweeper .health rfl

lemma of_beginCheck (hf : m.Fresh) (ho : o.hasSlot = false) (sweeper : Sweeper) :
    Move m task o (m.beginCheck task sweeper) := by
  apply of_awaitProbes _ ho
  apply Quiet.spawnAll hf
  intro s hs
  obtain ⟨e, -, rfl⟩ := List.mem_map.1 hs
  rfl

lemma of_noteProbe (q : m.Quiet m₁) (ho : o.hasSlot = false) (sweeper : Sweeper)
    (sweep : HealthSweep) (t : TenantId) (id : PoolId) (result : Except PingFault Unit) :
    Move m task o (m₁.noteProbe task sweeper sweep t id result) := by
  cases result with
  | ok _ => exact of_awaitProbes (q.trans (.modifyPool _ _ fun p => p.standing_markHealthy)) ho _ _
  | error fault =>
    have q' := q.trans (.modifyPool m₁ id fun p => p.standing_markUnhealthy m₁.now)
    simp only [noteProbe]
    split
    next h =>
      simp only [Bool.and_eq_true, Bool.not_eq_true', holds, decide_eq_true_eq] at h
      exact .close q' ho h.2 (.probe h.1)
    next => exact of_awaitProbes q' ho _ _

lemma of_absorbProbe (sweeper : Sweeper) (sweep : HealthSweep) :
    Move m task (.stage (.probing sweeper sweep)) (m.absorbProbe task sweeper sweep) := by
  unfold absorbProbe
  split
  next t id result h => exact of_noteProbe (.dropReport m task) rfl _ _ _ _ _
  next => exact .stay

lemma of_beginRound (hf : m.Fresh) (ho : o.hasSlot = false) (loop : Loop) :
    Move m task o (m.beginRound task loop) := by
  cases loop with
  | eviction => exact of_evictRest (.refl m) ho .loop 0 _
  | health => exact of_beginCheck hf ho .loop

/-! ### Opening pools ahead of time -/

lemma of_awaitWarmed (q : m.Quiet m₁) (ho : o.hasSlot = false) (warmed : Nat)
    (first : Option PoolError) : Move m task o (m₁.awaitWarmed task warmed first) := by
  unfold awaitWarmed
  split
  next => exact .wait q (.plain ho rfl)
  next =>
    cases first with
    | some error => exact .finish q ho rfl
    | none => exact .finish q ho rfl

lemma of_afterListing (hf : m.Fresh) (ho : o.hasSlot = false)
    (result : Except StoreError (List Tenant)) :
    Move m task o (m.afterListing task result) := by
  cases result with
  | error cause => exact .finish (.refl m) ho rfl
  | ok tenants =>
    apply of_awaitWarmed _ ho
    apply Quiet.spawnAll hf
    intro s hs
    obtain ⟨t, -, rfl⟩ := List.mem_map.1 hs
    rfl

lemma of_absorbWarmed (warmed : Nat) (first : Option PoolError) :
    Move m task (.stage (.gathering warmed first)) (m.absorbWarmed task warmed first) := by
  unfold absorbWarmed
  split
  next => exact of_awaitWarmed (.dropReport m task) rfl _ _
  next => exact of_awaitWarmed (.dropReport m task) rfl _ _
  next => exact .stay

/-! ### Retiring tenants and shutting down -/

lemma of_beginRetirement (t : TenantId) (reason : String) :
    Move m task (.call (.retire t reason)) (m.beginRetirement task t reason) := by
  unfold beginRetirement
  split
  next id h => exact .close (.refl m) rfl h .retire
  next => exact .finish (.refl m) rfl rfl

lemma of_afterUpdate (t : TenantId) (status : Status) (result : Except StoreError Unit) :
    Move m task (.stage (.updating t status)) (m.afterUpdate task t status result) := by
  cases result with
  | error cause => exact .finish (.refl m) rfl rfl
  | ok _ =>
    simp only [afterUpdate]
    split
    next => exact .finish (.refl m) rfl rfl
    next hs =>
      split
      next id h => exact .close (.refl m) rfl h (.setStatus (by simpa using hs))
      next => exact .finish (.refl m) rfl rfl

lemma of_finishShutdown (q : m.Quiet m₁) (ho : o.hasSlot = false) (count : Option Nat) :
    Move m task o (m₁.finishShutdown task count) := by
  cases count with
  | none => exact .finish q ho rfl
  | some n => exact .finish q ho rfl

lemma of_closeRest (q : m.Quiet m₁) (ho : o.hasSlot = false) (hs : o.shutsDown = true)
    (count : Option Nat) (pools : List (TenantId × PoolId)) :
    Move m task o (m₁.closeRest task count pools) := by
  induction pools with
  | nil => exact of_finishShutdown q ho count
  | cons e rest ih =>
    obtain ⟨t, id⟩ := e
    simp only [closeRest]
    split
    next hholds => exact .close q ho (by simpa [holds] using hholds) (.shutdown hs)
    next => exact ih

lemma of_awaitLoops (q : m.Quiet m₁) (ho : o.hasSlot = false) (hs : o.shutsDown = true)
    (count : Option Nat) : Move m task o (m₁.awaitLoops task count) := by
  unfold awaitLoops
  split
  next => exact .wait q (.plain ho rfl)
  next => exact of_closeRest q ho hs count _

lemma of_beginShutdown (q : m.Quiet m₁) (ho : o.hasSlot = false) (hs : o.shutsDown = true)
    (count : Option Nat) : Move m task o (m₁.beginShutdown task count) := by
  have q' := q.trans (.shutDown m₁)
  simp only [beginShutdown]
  split
  next => exact of_finishShutdown q' ho count
  next => exact of_awaitLoops (q'.trans (.close _)) ho hs count

lemma of_drainRound (q : m.Quiet m₁) (ho : o.hasSlot = false) (hs : o.shutsDown = true)
    (deadline : Nat) : Move m task o (m₁.drainRound task deadline) := by
  unfold drainRound
  split
  next => exact of_beginShutdown q ho hs _
  next => exact .wait q (.plain ho rfl)

lemma of_beginLoops (hf : m.Fresh) (ho : o.hasSlot = false) :
    Move m task o (m.beginLoops task) := by
  unfold beginLoops
  split
  next => exact .finish (.refl m) ho rfl
  next =>
    have hf₀ : ({ m with started := true } : Manager).Fresh := hf
    refine .finish ((Quiet.start m).trans (.spawnAll hf₀ ?_)) ho rfl
    intro s hs
    simp only [List.mem_append, Option.mem_toList, Option.map_eq_some_iff] at hs
    rcases hs with ⟨_, -, rfl⟩ | ⟨_, -, rfl⟩ <;> rfl

/-! ### Steps -/

/-- A request does one of the things listed, for a new task. -/
theorem of_call (hf : m.Fresh) (request : Request) :
    Move { m with nextTask := m.nextTask + 1 } m.nextTask (.call request) (m.call request) := by
  set m₀ := { m with nextTask := m.nextTask + 1 } with hm₀
  have hf₀ : m₀.Fresh := fun task stage h => (hf task stage h).trans (Nat.lt_succ_self _)
  have q := Quiet.refl m₀
  cases request with
  | get t => exact of_beginGet q rfl rfl
  | lease t => exact of_beginLease q rfl rfl
  | evict => exact of_evictRest q rfl .caller 0 _
  | checkHealth => exact of_beginCheck hf₀ rfl .caller
  | retire t reason => exact of_beginRetirement t reason
  | setStatus t status => exact .wait q (.plain rfl rfl)
  | prewarm => exact .wait q (.plain rfl rfl)
  | drain patience => exact of_drainRound (Quiet.shutDown m₀) rfl rfl _
  | close => exact of_beginShutdown q rfl rfl none
  | start => exact of_beginLoops hf₀ rfl

lemma of_afterClosing (t : TenantId) (id : PoolId) (reason : String) (next : Next) :
    Move m task (.stage (.closing t id reason next)) (m.afterClosing task t id reason next) := by
  have q := Quiet.closeConnections m ((m.pools[id]?).elim m.ledger fun p =>
    m.ledger.close p.connections) (m.closures ++ [(t, reason)])
  cases next with
  | withdraw d => exact of_fail q rfl d .closed
  | evict sweeper pools count => exact of_evictRest q rfl sweeper _ pools
  | probe sweeper sweep => exact of_awaitProbes q rfl sweeper _
  | retire => exact .finish q rfl rfl
  | setStatus => exact .finish q rfl rfl
  | shutdown pools count => exact of_closeRest q rfl rfl count pools

/-- An answer makes a task do one of the things listed, or leaves it waiting. -/
theorem of_answer (hf : m.Fresh) (s : Stage) (a : Answer) :
    Move m task (.stage s) (m.answer task s a) := by
  have q := Quiet.refl m
  unfold answer
  split
  next => exact of_afterLookup q _
  next => exact of_afterOpening q _
  next =>
    split
    next => exact .giveUp q rfl rfl
    next => exact .stay
  next => exact of_afterFirstPing q _
  next =>
    split
    next => exact of_afterFirstPing q _
    next => exact .stay
  next => exact .giveUp (.closeConnections m _ m.closures) rfl rfl
  next =>
    exact of_deliver ((Quiet.closeConnections m _ m.closures).trans (.touch _ _ _)) rfl rfl
      (.inr ⟨_, rfl⟩)
  next => exact of_afterClosing _ _ _ _
  next => exact of_beginGet q rfl rfl
  next => exact of_afterListing hf rfl _
  next => exact of_absorbWarmed _ _
  next => exact .wait q (.plain rfl rfl)
  next => exact .report q rfl
  next =>
    split
    next => exact .report q rfl
    next => exact .stay
  next => exact of_absorbProbe _ _
  next => exact of_afterUpdate _ _ _
  next =>
    split
    next => exact of_drainRound q rfl rfl _
    next => exact .stay
  next =>
    split
    next => exact .stay
    next => exact of_closeRest q rfl rfl _ _
  next => exact of_rest q rfl _
  next =>
    split
    next => exact of_beginRound hf rfl _
    next => exact .stay
  next =>
    split
    next => exact .leave q rfl
    next => exact .stay
  next => exact .stay

/-! ### What a move leaves alone -/

lemma holds_enroll (m : Manager) (t : TenantId) (record : Tenant) (connections : ConnectionsId) :
    (m.enroll t record connections).holds t m.pools.length = true := by
  simp [holds, enroll, Assoc.get?_insert]

/-- A pool that was just entered serves the request for which it was made. -/
lemma deliver_enroll (m : Manager) (t : TenantId) (record : Tenant) (connections : ConnectionsId)
    (d : Demand) :
    (m.enroll t record connections).deliver task d t m.pools.length =
      match d with
      | .get => (m.enroll t record connections).finish task (.pool m.pools.length)
      | .warm parent => (m.enroll t record connections).report task parent (.warmed (.ok ()))
      | .lease => (m.enroll t record connections).lend task m.pools.length := by
  cases d with
  | get => rfl
  | warm parent => rfl
  | lease => simp only [deliver, holds_enroll, if_true]

/-- Of the tasks that were there, a move touches only its own. -/
lemma tasks_eq {m' : Manager} (h : Move m task o m') :
    m' = m ∨ ∃ m₁, m.Quiet m₁ ∧ m'.nextTask = m₁.nextTask ∧
      (m'.tasks = m₁.tasks.erase task ∨ ∃ s, m'.tasks = m₁.tasks.insert task s ∧ Reaches o s) := by
  cases h with
  | stay => exact .inl rfl
  | wait q hl => exact .inr ⟨_, q, rfl, .inr ⟨_, rfl, .leads hl⟩⟩
  | reserve q _ hd _ _ _ => exact .inr ⟨_, q, rfl, .inr ⟨_, rfl, .reserve hd⟩⟩
  | yield q ho _ => exact .inr ⟨_, q, rfl, .inr ⟨_, rfl, ho ▸ .yield⟩⟩
  | withdraw q _ _ _ | close q _ _ _ => exact .inr ⟨_, q, rfl, .inr ⟨_, rfl, .close⟩⟩
  | leave q _ | finish q _ _ | report q _ | hand q _ _ _ | lend q _ _ _ =>
    exact .inr ⟨_, q, rfl, .inl rfl⟩
  | @giveUp _ d _ _ q _ _ => cases d <;> exact .inr ⟨_, q, rfl, .inl rfl⟩
  | @enter _ d _ _ _ _ q _ _ _ =>
    rw [deliver_enroll]
    cases d <;> exact .inr ⟨_, q, rfl, .inl rfl⟩

/-- A task that waits after a move waited there before, waits for its turn, or is the one that
moved. -/
lemma get?_cases {m' : Manager} (h : Move m task o m') {k : TaskId} {s : Stage}
    (hs : m'.tasks.get? k = some s) :
    m.tasks.get? k = some s ∨ s.isQueued = true ∨ k = task ∧ Reaches o s := by
  rcases h.tasks_eq with rfl | ⟨m₁, q, -, htasks⟩
  · exact .inl hs
  · have hold : m₁.tasks.get? k = some s → m.tasks.get? k = some s ∨ s.isQueued = true ∨
        k = task ∧ Reaches o s := by
      intro hs
      rcases q.get?_or_queued hs with hs | ⟨-, hqueued⟩
      · exact .inl hs
      · exact .inr (.inl hqueued)
    rcases htasks with htasks | ⟨s', htasks, hr⟩
    · rw [htasks, Assoc.get?_erase] at hs
      split_ifs at hs
      exact hold hs
    · rw [htasks, Assoc.get?_insert] at hs
      split_ifs at hs with hk
      · cases hs
        exact .inr (.inr ⟨hk, hr⟩)
      · exact hold hs

lemma nextTask_le {m' : Manager} (h : Move m task o m') : m.nextTask ≤ m'.nextTask := by
  rcases h.tasks_eq with rfl | ⟨m₁, q, hnext, -⟩
  · exact le_rfl
  · exact hnext ▸ q.nextTask

lemma get?_other {m' : Manager} (h : Move m task o m') {k : TaskId} (hk : k ≠ task)
    (hlt : k < m.nextTask) : m'.tasks.get? k = m.tasks.get? k := by
  rcases h.tasks_eq with rfl | ⟨m₁, q, -, htasks | ⟨s, htasks, -⟩⟩
  · rfl
  · rw [htasks, Assoc.get?_erase, if_neg hk, q.get?_eq_of_lt hlt]
  · rw [htasks, Assoc.get?_insert, if_neg hk, q.get?_eq_of_lt hlt]

/-- A move notes no outcome but that of its own task. -/
lemma outcomes_other {m' : Manager} (h : Move m task o m') {k : TaskId} (hk : k ≠ task) :
    m'.outcomes.get? k = m.outcomes.get? k := by
  have hinsert : ∀ {outcomes : Assoc TaskId Outcome} (outcome : Outcome),
      outcomes = m.outcomes → (outcomes.insert task outcome).get? k = m.outcomes.get? k := by
    rintro _ outcome rfl
    rw [Assoc.get?_insert, if_neg hk]
  cases h with
  | stay => rfl
  | wait q _ | leave q _ | report q _ | reserve q _ _ _ _ _ | yield q _ _ | withdraw q _ _ _
  | close q _ _ _ => exact congrArg (·.get? k) q.outcomes
  | finish q _ _ | hand q _ _ _ | lend q _ _ _ => exact hinsert _ q.outcomes
  | @giveUp m₁ d t e q _ _ =>
    cases d with
    | get | lease => exact hinsert (.failed e) q.outcomes
    | warm => exact congrArg (·.get? k) q.outcomes
  | @enter m₁ d _ _ _ _ q _ _ _ =>
    rw [deliver_enroll]
    cases d with
    | get => exact hinsert (.pool m₁.pools.length) q.outcomes
    | lease => exact hinsert (.leased m₁.pools.length) q.outcomes
    | warm => exact congrArg (·.get? k) q.outcomes

/-- A move leaves the configuration alone, and the manager open or shut down, as it is when the move
comes to the pools. -/
lemma frame {m' : Manager} (h : Move m task o m') :
    ∃ m₁, m.Quiet m₁ ∧ m'.config = m₁.config ∧ m'.shuttingDown = m₁.shuttingDown := by
  cases h with
  | stay => exact ⟨m, .refl m, rfl, rfl⟩
  | wait q _ | leave q _ | finish q _ _ | report q _ | reserve q _ _ _ _ _ | yield q _ _
  | hand q _ _ _ | lend q _ _ _ | withdraw q _ _ _ | close q _ _ _ => exact ⟨_, q, rfl, rfl⟩
  | @giveUp _ d _ _ q _ _ => cases d <;> exact ⟨_, q, rfl, rfl⟩
  | @enter _ d _ _ _ _ q _ _ _ =>
    rw [deliver_enroll]
    cases d <;> exact ⟨_, q, rfl, rfl⟩

lemma config_eq {m' : Manager} (h : Move m task o m') : m'.config = m.config := by
  obtain ⟨m₁, q, hconfig, -⟩ := h.frame
  exact hconfig.trans q.config

lemma shuttingDown {m' : Manager} (h : Move m task o m') (hdown : m.shuttingDown = true) :
    m'.shuttingDown = true := by
  obtain ⟨m₁, q, -, heq⟩ := h.frame
  exact heq.trans (q.shuttingDown hdown)

lemma fresh {m' : Manager} (h : Move m task o m') (hf : m.Fresh) (hlt : task < m.nextTask) :
    m'.Fresh := by
  rcases h.tasks_eq with rfl | ⟨m₁, q, hnext, htasks⟩
  · exact hf
  · intro j s hj
    rw [hnext]
    rcases htasks with htasks | ⟨s', htasks, -⟩
    · rw [htasks, Assoc.get?_erase] at hj
      split_ifs at hj
      exact q.fresh hf j s hj
    · rw [htasks, Assoc.get?_insert] at hj
      split_ifs at hj with heq
      · exact heq ▸ hlt.trans_le q.nextTask
      · exact q.fresh hf j s hj

end Move

end Tenancy.Manager
