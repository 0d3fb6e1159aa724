import Tenancy.Proofs.Manager.Shutdown

/-!
# How tasks go on

A task that goes on does so for the one that started it. It starts others only to ping pools, to
open them ahead of time, or to run the loops, and tells the one that waits for it what came of that.
`Course` says so of every event that reaches a task, and how a manager comes to be closed;
`Course.of_call` and `Course.of_answer` are its cases.
-/

namespace Tenancy.Manager

variable {m m₁ m' : Manager} {task k : TaskId} {o : Origin} {e : Event} {s : Stage} {d : Demand}
  {sweeper : Sweeper}

/-! ### What tasks are for -/

/-- The pool that a task pings for another one, with its tenant. -/
def Stage.probe? : Stage → Option (TenantId × PoolId)
  | .probeQueued _ t id | .probePinging _ t id _ => some (t, id)
  | _ => none

/-- The pools that a task still has to go through to evict some. -/
def Stage.swept : Stage → List (TenantId × PoolId)
  | .closing _ _ _ (.evict _ rest _) => rest
  | _ => []

/-- Whether a task has shut the manager down, and waits for the loops or closes all pools. -/
def Stage.closesAll : Stage → Bool
  | .joining _ | .closing _ _ _ (.shutdown _ _) => true
  | _ => false

namespace Origin

/-- The task that waits for a report. -/
def parent? : Origin → Option TaskId
  | .call _ => none
  | .stage s => s.parent?

/-- The pool that the task pings for another one, with its tenant. -/
def probe? : Origin → Option (TenantId × PoolId)
  | .call _ => none
  | .stage s => s.probe?

/-- Whether the task is one of the two loops. -/
def isLoop : Origin → Bool
  | .call _ => false
  | .stage s => s.isLoop

/-- Whether the task has shut the manager down, and waits for the loops or closes all pools. -/
def closesAll : Origin → Bool
  | .call _ => false
  | .stage s => s.closesAll

/-- The pools that the task still has to go through to evict some. -/
def swept (m : Manager) : Origin → List (TenantId × PoolId)
  | .call .evict | .stage (.loopSleeping .eviction _) => m.snapshot
  | .call _ => []
  | .stage s => s.swept

/-- Whether the task can begin to ping all pools here. -/
def beginsCheck : Origin → Bool
  | .call .checkHealth | .stage (.loopSleeping .health _) => true
  | _ => false

end Origin

/-- A task that goes on does so for the same other task, pings no other pool, goes through no other
pools, and becomes no loop. -/
structure Succeeds (m : Manager) (o : Origin) (s : Stage) : Prop where
  parent : s.parent? = o.parent?
  probe : ∀ x, s.probe? = some x → o.probe? = some x
  loop : s.isLoop = true → o.isLoop = true
  swept : ∀ x ∈ s.swept, x ∈ o.swept m

/-- The tasks that a task starts. -/
inductive Started (m : Manager) (task : TaskId) (o : Origin) : Stage → Prop
  | warm {t : TenantId} (ho : o = .stage .listing) : Started m task o (.warmQueued task t)
  | probe {t : TenantId} {id : PoolId} (ho : o.beginsCheck = true) (h : (t, id) ∈ m.snapshot) :
      Started m task o (.probeQueued task t id)
  | loop {l : Loop} (ho : o = .call .start) (hopen : m.shuttingDown = false) :
      Started m task o (.loopQueued l)

/-- What a task tells the one that waits for it. The answer to a ping is that of the pool which it
was to ping. -/
structure Tells (o : Origin) (r : TaskId × Report) : Prop where
  parent : o.parent? = some r.1
  probe : ∀ t id result, r.2 = .probed t id result → o.probe? = some (t, id)

/-- What an event that reaches a task does to tasks and to reports. The manager is closed only by a
request to close or to drain, and all pools are closed only after that. Only a request to start
marks the loops as started. -/
structure Course (m : Manager) (task : TaskId) (o : Origin) (m' : Manager) : Prop where
  tasks : ∀ k s, m'.tasks.get? k = some s →
    m.tasks.get? k = some s ∨ k = task ∧ Succeeds m o s ∨ Started m task o s
  reports : ∀ r ∈ m'.reports, r ∈ m.reports ∨ Tells o r
  closed_mono : m.closed = true → m'.closed = true
  closed : m'.closed = true → m.closed = true ∨ o.mayClose = true
  shuts : ∀ s, m'.tasks.get? task = some s → s.closesAll = true →
    m'.closed = true ∨ o.closesAll = true
  started : m'.started = m.started ∨ o = .call .start

/-- What a task does before it waits or ends: it may start others, read a report, or close the
manager. -/
structure Prior (m : Manager) (task : TaskId) (o : Origin) (m₁ : Manager) : Prop where
  tasks : ∀ k s, m₁.tasks.get? k = some s → m.tasks.get? k = some s ∨ Started m task o s
  reports : ∀ r ∈ m₁.reports, r ∈ m.reports
  closed_mono : m.closed = true → m₁.closed = true
  closed : m₁.closed = true → m.closed = true ∨ o.mayClose = true
  started : m₁.started = m.started ∨ o = .call .start

namespace Prior

lemma refl (m : Manager) (task : TaskId) (o : Origin) : Prior m task o m :=
  ⟨fun _ _ => .inl, fun _ => id, id, .inl, .inl rfl⟩

/-- Other fields do not matter. -/
lemma same (p : Prior m task o m₁) (ht : m'.tasks = m₁.tasks) (hr : m'.reports = m₁.reports)
    (hc : m'.closed = m₁.closed) (hs : m'.started = m₁.started) : Prior m task o m' := by
  refine ⟨?_, ?_, ?_, ?_, ?_⟩
  · rw [ht]
    exact p.tasks
  · rw [hr]
    exact p.reports
  · rw [hc]
    exact p.closed_mono
  · rw [hc]
    exact p.closed
  · rw [hs]
    exact p.started

lemma giveSlot (p : Prior m task o m₁) : Prior m task o m₁.giveSlot := p.same rfl rfl rfl rfl

lemma modifyPool (p : Prior m task o m₁) (id : PoolId) (f : Pool → Pool) :
    Prior m task o (m₁.modifyPool id f) := p.same rfl rfl rfl rfl

lemma ledger (p : Prior m task o m₁) (ledger : Ledger) (closures : List (TenantId × String)) :
    Prior m task o { m₁ with ledger, closures } := p.same rfl rfl rfl rfl

lemma shutDown (p : Prior m task o m₁) :
    Prior m task o { m₁ with shuttingDown := true } := p.same rfl rfl rfl rfl

lemma enroll (p : Prior m task o m₁) (t : TenantId) (record : Tenant)
    (connections : ConnectionsId) : Prior m task o (m₁.enroll t record connections) :=
  p.same rfl rfl rfl rfl

lemma dropReport (p : Prior m task o m₁) : Prior m task o (m₁.dropReport task) :=
  ⟨p.tasks, fun r hr => p.reports r (List.mem_of_mem_eraseP hr), p.closed_mono, p.closed,
    p.started⟩

lemma spawnAll (p : Prior m task o m₁) {stages : List Stage}
    (h : ∀ s ∈ stages, Started m task o s) : Prior m task o (m₁.spawnAll stages) := by
  simp only [Manager.spawnAll]
  induction stages generalizing m₁ with
  | nil => exact p
  | cons s rest ih =>
    refine ih ⟨fun k s' hs' => ?_, p.reports, p.closed_mono, p.closed, p.started⟩
      fun s' hs' => h s' (List.mem_cons_of_mem _ hs')
    simp only [spawn, await, Assoc.get?_insert] at hs'
    split_ifs at hs'
    · cases hs'
      exact .inr (h s List.mem_cons_self)
    · exact p.tasks k s' hs'

end Prior

/-- A task that neither pings for another one, nor goes through pools, nor is a loop. -/
lemma Succeeds.of_plain (hp : s.parent? = o.parent?) (hprobe : s.probe? = none)
    (hloop : s.isLoop = false) (hswept : s.swept = []) : Succeeds m o s := by
  refine ⟨hp, ?_, ?_, ?_⟩
  · rw [hprobe]
    exact nofun
  · rw [hloop]
    exact nofun
  · rw [hswept]
    exact nofun

/-- A task that goes through pools. -/
lemma Succeeds.of_sweep (hp : s.parent? = o.parent?) (hprobe : s.probe? = none)
    (hloop : s.isLoop = true → o.isLoop = true) (hswept : ∀ x ∈ s.swept, x ∈ o.swept m) :
    Succeeds m o s := by
  refine ⟨hp, ?_, hloop, hswept⟩
  rw [hprobe]
  exact nofun

section Sweeper

variable {t : TenantId} {id : PoolId} {reason : String}

lemma isLoop_evict {rest : List (TenantId × PoolId)} {count : Nat}
    (h : (Stage.closing t id reason (.evict sweeper rest count)).isLoop = true) :
    sweeper = .loop := by
  cases sweeper with
  | caller => cases h
  | loop => rfl

lemma isLoop_probe {sweep : HealthSweep}
    (h : (Stage.closing t id reason (.probe sweeper sweep)).isLoop = true) : sweeper = .loop := by
  cases sweeper with
  | caller => cases h
  | loop => rfl

lemma isLoop_probing {sweep : HealthSweep} (h : (Stage.probing sweeper sweep).isLoop = true) :
    sweeper = .loop := by
  cases sweeper with
  | caller => cases h
  | loop => rfl

end Sweeper

namespace Course

/-! ### How a task waits or ends -/

lemma stay (hat : m.tasks.get? task = some s) : Course m task (.stage s) m := by
  refine ⟨fun _ _ => .inl, fun _ => .inl, id, .inl, fun s' hs' hall => .inr ?_, .inl rfl⟩
  rw [hat] at hs'
  cases hs'
  exact hall

lemma of_await (p : Prior m task o m₁) (hs : Succeeds m o s)
    (hall : s.closesAll = false ∨ m₁.closed = true ∨ o.closesAll = true) :
    Course m task o (m₁.await task s) := by
  refine ⟨fun k s' hs' => ?_, fun r hr => .inl (p.reports r hr), p.closed_mono, p.closed,
    fun s' hs' => ?_, p.started⟩
  · simp only [await, Assoc.get?_insert] at hs'
    split_ifs at hs' with hk
    · cases hs'
      exact .inr (.inl ⟨hk, hs⟩)
    · exact (p.tasks k s' hs').imp_right .inr
  · intro hcloses
    rw [get?_await] at hs'
    cases hs'
    rcases hall with hnot | hall
    · rw [hcloses] at hnot
      cases hnot
    · exact hall

/-- A task waits that has nothing to do with loops or with all pools. -/
lemma of_wait (p : Prior m task o m₁) (hp : s.parent? = o.parent?) (hprobe : s.probe? = none)
    (hloop : s.isLoop = false) (hswept : s.swept = []) (hall : s.closesAll = false) :
    Course m task o (m₁.await task s) :=
  of_await p (.of_plain hp hprobe hloop hswept) (.inl hall)

lemma of_erase (p : Prior m task o m₁) (ht : m'.tasks = m₁.tasks.erase task)
    (hr : ∀ r ∈ m'.reports, r ∈ m₁.reports ∨ Tells o r) (hc : m'.closed = m₁.closed)
    (hstarted : m'.started = m₁.started) : Course m task o m' := by
  refine ⟨fun k s hs => ?_, fun r hmem => (hr r hmem).imp_left (p.reports r), ?_, ?_,
    fun s hs => ?_, ?_⟩
  · rw [ht, Assoc.get?_erase] at hs
    split_ifs at hs
    exact (p.tasks k s hs).imp_right .inr
  · rw [hc]
    exact p.closed_mono
  · rw [hc]
    exact p.closed
  · rw [ht, Assoc.get?_erase, if_pos rfl] at hs
    cases hs
  · rw [hstarted]
    exact p.started

lemma of_leave (p : Prior m task o m₁) : Course m task o (m₁.leave task) :=
  of_erase p rfl (fun _ => .inl) rfl rfl

lemma of_finish (p : Prior m task o m₁) (outcome : Outcome) :
    Course m task o (m₁.finish task outcome) :=
  of_erase p rfl (fun _ => .inl) rfl rfl

lemma of_report (p : Prior m task o m₁) {parent : TaskId} {r : Report}
    (h : Tells o (parent, r)) : Course m task o (m₁.report task parent r) := by
  refine of_erase p rfl (fun r' hr' => ?_) rfl rfl
  rcases List.mem_append.1 hr' with hold | hnew
  · exact .inl hold
  · cases List.mem_singleton.1 hnew
    exact .inr h

lemma of_beginClose (p : Prior m task o m₁) {t : TenantId} {id : PoolId} {reason : String}
    {next : Next} (hs : Succeeds m o (.closing t id reason next))
    (hall : (Stage.closing t id reason next).closesAll = false ∨
      m₁.closed = true ∨ o.closesAll = true) :
    Course m task o (m₁.beginClose task t id reason next) :=
  of_await (p.same rfl rfl rfl rfl) hs hall

/-! ### Serving a request for a pool -/

lemma of_fail (p : Prior m task o m₁) (hp : o.parent? = d.parent?) (e : PoolError) :
    Course m task o (m₁.fail task d e) := by
  cases d with
  | get | lease => exact of_finish p _
  | warm parent => exact of_report p ⟨hp, nofun⟩

lemma of_giveUp (p : Prior m task o m₁) (hp : o.parent? = d.parent?) (e : PoolError) :
    Course m task o (m₁.giveUp task d e) :=
  of_fail p.giveSlot hp e

lemma of_lend (p : Prior m task o m₁) (id : PoolId) : Course m task o (m₁.lend task id) := by
  have p' : Prior m task o
      { m₁.modifyPool id (·.acquire m₁.now) with leases := m₁.leases.insert task id } :=
    p.same rfl rfl rfl rfl
  exact of_finish p' _

lemma of_beginCreation (p : Prior m task o m₁) (hp : o.parent? = d.parent?) (t : TenantId) :
    Course m task o (m₁.beginCreation task d t) := by
  unfold beginCreation
  split
  next => exact of_fail p hp _
  next => exact of_wait (p.same rfl rfl rfl rfl) hp.symm rfl rfl rfl rfl

lemma of_beginLease (p : Prior m task o m₁) (hp : o.parent? = none) (t : TenantId) :
    Course m task o (m₁.beginLease task t) := by
  unfold beginLease
  split
  next => exact of_fail (d := .lease) p hp _
  next =>
    split
    next => exact of_lend p _
    next => exact of_beginCreation (d := .lease) p hp t

lemma of_deliver (p : Prior m task o m₁) (hp : o.parent? = d.parent?) (t : TenantId)
    (id : PoolId) : Course m task o (m₁.deliver task d t id) := by
  cases d with
  | get => exact of_finish p _
  | warm parent => exact of_report p ⟨hp, nofun⟩
  | lease =>
    simp only [deliver]
    split
    next => exact of_lend p id
    next => exact of_beginLease p hp t

lemma of_beginGet (p : Prior m task o m₁) (hp : o.parent? = d.parent?) (t : TenantId) :
    Course m task o (m₁.beginGet task d t) := by
  unfold beginGet
  split
  next => exact of_fail p hp _
  next =>
    split
    next => exact of_deliver (p.modifyPool _ _) hp t _
    next => exact of_beginCreation p hp t

/-! ### Making a pool -/

lemma of_afterLookup (p : Prior m task o m₁) (hp : o.parent? = d.parent?) (t : TenantId)
    (result : Except StoreError Tenant) : Course m task o (m₁.afterLookup task d t result) := by
  cases result with
  | error cause => exact of_giveUp p hp _
  | ok record =>
    simp only [afterLookup]
    split
    next => exact of_wait p hp.symm rfl rfl rfl rfl
    next => exact of_giveUp p hp _

lemma of_afterOpening (p : Prior m task o m₁) (hp : o.parent? = d.parent?) (t : TenantId)
    (record : Tenant) (result : Except OpenFault (String × Nat)) :
    Course m task o (m₁.afterOpening task d t record result) := by
  cases result with
  | error fault => exact of_giveUp p hp _
  | ok opened => exact of_wait (p.same rfl rfl rfl rfl) hp.symm rfl rfl rfl rfl

lemma of_enter (p : Prior m task o m₁) (hp : o.parent? = d.parent?) (t : TenantId)
    (record : Tenant) (connections : ConnectionsId) :
    Course m task o (m₁.enter task d t record connections) := by
  unfold Manager.enter
  split
  next => exact of_wait (p.same rfl rfl rfl rfl) hp.symm rfl rfl rfl rfl
  next =>
    simp only
    split
    next =>
      have hs : Succeeds m o
          (.closing t m₁.pools.length "created during shutdown" (.withdraw d)) :=
        .of_plain hp.symm rfl rfl rfl
      exact of_beginClose (p.enroll t record connections) hs (.inl rfl)
    next => exact of_deliver (p.enroll t record connections) hp t _

lemma of_afterFirstPing (p : Prior m task o m₁) (hp : o.parent? = d.parent?) (t : TenantId)
    (record : Tenant) (connections : ConnectionsId) (result : Except PingFault Unit) :
    Course m task o (m₁.afterFirstPing task d t record connections result) := by
  cases result with
  | error fault => exact of_wait p hp.symm rfl rfl rfl rfl
  | ok _ => exact of_enter p hp t record connections

/-! ### Going through all pools -/

lemma of_rest (p : Prior m task o m₁) (hp : o.parent? = none) (hl : o.isLoop = true)
    (loop : Loop) : Course m task o (m₁.rest task loop) := by
  unfold rest
  split
  next => exact of_leave p
  next => exact of_await p (.of_sweep hp.symm rfl (fun _ => hl) (List.forall_mem_nil _)) (.inl rfl)

lemma of_finishSweep (p : Prior m task o m₁) (hp : o.parent? = none)
    (hl : sweeper = .loop → o.isLoop = true) (loop : Loop) (outcome : Outcome) :
    Course m task o (m₁.finishSweep task sweeper loop outcome) := by
  cases sweeper with
  | caller => exact of_finish p outcome
  | loop => exact of_rest p hp (hl rfl) loop

lemma of_evictRest (p : Prior m task o m₁) (hp : o.parent? = none)
    (hl : sweeper = .loop → o.isLoop = true) (count : Nat) {pools : List (TenantId × PoolId)}
    (hswept : ∀ x ∈ pools, x ∈ o.swept m) :
    Course m task o (m₁.evictRest task sweeper count pools) := by
  induction pools with
  | nil => exact of_finishSweep p hp hl _ _
  | cons x rest ih =>
    obtain ⟨t, id⟩ := x
    have hrest : ∀ x ∈ rest, x ∈ o.swept m := fun x hx => hswept x (List.mem_cons_of_mem _ hx)
    simp only [evictRest]
    split
    next =>
      split
      next =>
        exact of_beginClose p
          (.of_sweep hp.symm rfl (fun h => hl (isLoop_evict h)) hrest) (.inl rfl)
      next => exact ih hrest
    next => exact ih hrest

lemma of_awaitProbes (p : Prior m task o m₁) (hp : o.parent? = none)
    (hl : sweeper = .loop → o.isLoop = true) (sweep : HealthSweep) :
    Course m task o (m₁.awaitProbes task sweeper sweep) := by
  unfold awaitProbes
  split
  next =>
    exact of_await p
      (.of_sweep hp.symm rfl (fun h => hl (isLoop_probing h)) (List.forall_mem_nil _)) (.inl rfl)
  next => exact of_finishSweep p hp hl _ _

lemma of_beginCheck (p : Prior m task o m₁) (hp : o.parent? = none)
    (hl : sweeper = .loop → o.isLoop = true) (ho : o.beginsCheck = true)
    (he : m₁.entries = m.entries) : Course m task o (m₁.beginCheck task sweeper) := by
  refine of_awaitProbes (p.spawnAll fun s hs => ?_) hp hl _
  obtain ⟨⟨t, id⟩, hmem, rfl⟩ := List.mem_map.1 hs
  rw [snapshot, he] at hmem
  exact .probe ho hmem

lemma of_noteProbe (p : Prior m task o m₁) (hp : o.parent? = none)
    (hl : sweeper = .loop → o.isLoop = true) (sweep : HealthSweep) (t : TenantId) (id : PoolId)
    (result : Except PingFault Unit) :
    Course m task o (m₁.noteProbe task sweeper sweep t id result) := by
  cases result with
  | ok _ => exact of_awaitProbes (p.modifyPool _ _) hp hl _
  | error fault =>
    simp only [noteProbe]
    split
    next =>
      exact of_beginClose (p.modifyPool _ _)
        (.of_sweep hp.symm rfl (fun h => hl (isLoop_probe h)) (List.forall_mem_nil _)) (.inl rfl)
    next => exact of_awaitProbes (p.modifyPool _ _) hp hl _

lemma of_absorbProbe {sweep : HealthSweep}
    (hat : m.tasks.get? task = some (.probing sweeper sweep)) :
    Course m task (.stage (.probing sweeper sweep)) (m.absorbProbe task sweeper sweep) := by
  have hl : sweeper = .loop → (Stage.probing sweeper sweep).isLoop = true := by
    rintro rfl
    rfl
  unfold absorbProbe
  split
  next => exact of_noteProbe (Prior.refl m task _).dropReport (by rfl) hl _ _ _ _
  next => exact stay hat

lemma of_beginRound {loop : Loop} {wake : Nat} :
    Course m task (.stage (.loopSleeping loop wake)) (m.beginRound task loop) := by
  have p := Prior.refl m task (.stage (.loopSleeping loop wake))
  cases loop with
  | eviction => exact of_evictRest p rfl (fun _ => rfl) 0 fun _ => id
  | health => exact of_beginCheck p rfl (fun _ => rfl) rfl rfl

/-! ### Opening pools ahead of time -/

lemma of_awaitWarmed (p : Prior m task o m₁) (hp : o.parent? = none) (warmed : Nat)
    (first : Option PoolError) : Course m task o (m₁.awaitWarmed task warmed first) := by
  unfold awaitWarmed
  split
  next => exact of_wait p hp.symm rfl rfl rfl rfl
  next => cases first <;> exact of_finish p _

lemma of_afterListing (result : Except StoreError (List Tenant)) :
    Course m task (.stage .listing) (m.afterListing task result) := by
  have p := Prior.refl m task (.stage .listing)
  cases result with
  | error cause => exact of_finish p _
  | ok tenants =>
    refine of_awaitWarmed (p.spawnAll fun s hs => ?_) rfl _ _
    obtain ⟨t, -, rfl⟩ := List.mem_map.1 hs
    exact .warm rfl

lemma of_absorbWarmed {warmed : Nat} {first : Option PoolError}
    (hat : m.tasks.get? task = some (.gathering warmed first)) :
    Course m task (.stage (.gathering warmed first)) (m.absorbWarmed task warmed first) := by
  have p := (Prior.refl m task (.stage (.gathering warmed first))).dropReport
  unfold absorbWarmed
  split
  next => exact of_awaitWarmed p rfl _ _
  next => exact of_awaitWarmed p rfl _ _
  next => exact stay hat

/-! ### Retiring tenants and shutting down -/

lemma of_beginRetirement (p : Prior m task o m₁) (hp : o.parent? = none) (t : TenantId)
    (reason : String) : Course m task o (m₁.beginRetirement task t reason) := by
  unfold beginRetirement
  split
  next => exact of_beginClose p (.of_plain hp.symm rfl rfl rfl) (.inl rfl)
  next => exact of_finish p _

lemma of_afterUpdate (p : Prior m task o m₁) (hp : o.parent? = none) (t : TenantId)
    (status : Status) (result : Except StoreError Unit) :
    Course m task o (m₁.afterUpdate task t status result) := by
  cases result with
  | error cause => exact of_finish p _
  | ok _ =>
    simp only [afterUpdate]
    split
    next => exact of_finish p _
    next =>
      split
      next => exact of_beginClose p (.of_plain hp.symm rfl rfl rfl) (.inl rfl)
      next => exact of_finish p _

lemma of_finishShutdown (p : Prior m task o m₁) (count : Option Nat) :
    Course m task o (m₁.finishShutdown task count) := by
  cases count <;> exact of_finish p _

lemma of_closeRest (p : Prior m task o m₁) (hp : o.parent? = none)
    (hall : m₁.closed = true ∨ o.closesAll = true) (count : Option Nat)
    (pools : List (TenantId × PoolId)) : Course m task o (m₁.closeRest task count pools) := by
  induction pools with
  | nil => exact of_finishShutdown p count
  | cons x rest ih =>
    obtain ⟨t, id⟩ := x
    simp only [closeRest]
    split
    next => exact of_beginClose p (.of_plain hp.symm rfl rfl rfl) (.inr hall)
    next => exact ih

lemma of_beginShutdown (p : Prior m task o m₁) (hp : o.parent? = none)
    (ho : o.mayClose = true) (count : Option Nat) :
    Course m task o (m₁.beginShutdown task count) := by
  simp only [beginShutdown]
  split
  next => exact of_finishShutdown p.shutDown count
  next =>
    have p' : Prior m task o { m₁ with shuttingDown := true, closed := true } :=
      ⟨p.tasks, p.reports, fun _ => rfl, fun _ => .inr ho, p.started⟩
    unfold awaitLoops
    split
    next => exact of_await p' (.of_plain hp.symm rfl rfl rfl) (.inr (.inl rfl))
    next => exact of_closeRest p' hp (.inl rfl) count _

lemma of_drainRound (p : Prior m task o m₁) (hp : o.parent? = none) (ho : o.mayClose = true)
    (deadline : Nat) : Course m task o (m₁.drainRound task deadline) := by
  unfold drainRound
  split
  next => exact of_beginShutdown p hp ho _
  next => exact of_wait p hp.symm rfl rfl rfl rfl

lemma of_beginLoops (p : Prior m task (.call .start) m₁)
    (hdown : m₁.shuttingDown = m.shuttingDown) :
    Course m task (.call .start) (m₁.beginLoops task) := by
  unfold beginLoops
  split
  next => exact of_finish p _
  next hopen =>
    simp only [Bool.or_eq_true, not_or, Bool.not_eq_true] at hopen
    have p' : Prior m task (.call .start) { m₁ with started := true } :=
      ⟨p.tasks, p.reports, p.closed_mono, p.closed, .inr rfl⟩
    refine of_finish (p'.spawnAll fun s hs => ?_) _
    simp only [List.mem_append, Option.mem_toList, Option.map_eq_some_iff] at hs
    rcases hs with ⟨_, -, rfl⟩ | ⟨_, -, rfl⟩ <;> exact .loop rfl (hdown ▸ hopen.1)

/-! ### Steps -/

theorem of_call (m : Manager) (request : Request) :
    Course m m.nextTask (.call request) (m.call request) := by
  have p : Prior m m.nextTask (.call request) { m with nextTask := m.nextTask + 1 } :=
    (Prior.refl m _ _).same rfl rfl rfl rfl
  have hcaller : Sweeper.caller = .loop → (Origin.call request).isLoop = true := nofun
  cases request with
  | get t => exact of_beginGet p rfl t
  | lease t => exact of_beginLease p rfl t
  | evict => exact of_evictRest p rfl hcaller 0 fun _ => id
  | checkHealth => exact of_beginCheck p rfl hcaller rfl rfl
  | retire t reason => exact of_beginRetirement p rfl t reason
  | setStatus t status => exact of_wait p rfl rfl rfl rfl rfl
  | prewarm => exact of_wait p rfl rfl rfl rfl rfl
  | drain patience => exact of_drainRound p.shutDown rfl rfl _
  | close => exact of_beginShutdown p rfl rfl none
  | start => exact of_beginLoops p rfl

lemma of_afterClosing (m : Manager) (task : TaskId) (t : TenantId) (id : PoolId)
    (reason : String) (next : Next) :
    Course m task (.stage (.closing t id reason next)) (m.afterClosing task t id reason next) := by
  set o := Origin.stage (.closing t id reason next) with ho
  have p := (Prior.refl m task o).ledger
    ((m.pools[id]?).elim m.ledger fun p => m.ledger.close p.connections)
    (m.closures ++ [(t, reason)])
  cases next with
  | withdraw d => exact of_fail p rfl _
  | evict sweeper pools count =>
    refine of_evictRest p rfl ?_ _ fun _ hx => hx
    rintro rfl
    rfl
  | probe sweeper sweep =>
    refine of_awaitProbes p rfl ?_ _
    rintro rfl
    rfl
  | retire | setStatus => exact of_finish p _
  | shutdown pools count => exact of_closeRest p rfl (.inr rfl) count pools

theorem of_answer (hat : m.tasks.get? task = some s) (a : Answer) :
    Course m task (.stage s) (m.answer task s a) := by
  have p := Prior.refl m task (.stage s)
  unfold answer
  split
  next => exact of_afterLookup p rfl _ _
  next => exact of_afterOpening p rfl _ _ _
  next =>
    split
    next => exact of_giveUp p rfl _
    next => exact stay hat
  next => exact of_afterFirstPing p rfl _ _ _ _
  next =>
    split
    next => exact of_afterFirstPing p rfl _ _ _ _
    next => exact stay hat
  next => exact of_giveUp (p.ledger _ m.closures) rfl _
  next => exact of_deliver ((p.ledger _ m.closures).modifyPool _ _) rfl _ _
  next => exact of_afterClosing _ _ _ _ _ _
  next => exact of_beginGet p rfl _
  next => exact of_afterListing _
  next => exact of_absorbWarmed hat
  next => exact of_await p ⟨rfl, fun _ => id, nofun, nofun⟩ (.inl rfl)
  next =>
    refine of_report p ⟨rfl, ?_⟩
    rintro _ _ _ ⟨⟩
    rfl
  next =>
    split
    next =>
      refine of_report p ⟨rfl, ?_⟩
      rintro _ _ _ ⟨⟩
      rfl
    next => exact stay hat
  next => exact of_absorbProbe hat
  next => exact of_afterUpdate p rfl _ _ _
  next =>
    split
    next => exact of_drainRound p rfl rfl _
    next => exact stay hat
  next =>
    split
    next => exact stay hat
    next => exact of_closeRest p rfl (.inr rfl) _ _
  next => exact of_rest p rfl rfl _
  next =>
    split
    next => exact of_beginRound
    next => exact stay hat
  next =>
    split
    next => exact of_leave p
    next => exact stay hat
  next => exact stay hat

/-- An event that reaches a task goes on for the same other task, and closes the manager only where
the request is to close or to drain. -/
theorem of_step (ho : e.origin? m = some (task, o)) : Course m task o (m.step e) := by
  cases Event.Drives.of_origin? ho with
  | call request => exact of_call m request
  | @resume _ s a hs =>
    rw [step_resume hs]
    exact of_answer hs a

end Course

/-- An event that neither reaches a task nor cancels any leaves tasks and reports alone. -/
lemma tasks_of_unreached (ho : e.origin? m = none) (he : e.isCancel = false) :
    (m.step e).tasks = m.tasks ∧ (m.step e).reports = m.reports ∧
      (m.step e).closed = m.closed := by
  cases e with
  | call => cases ho
  | resume task a =>
    have hnone : m.tasks.get? task = none := Option.map_eq_none_iff.1 ho
    simp only [step, resume, hnone, and_self]
  | drop lease =>
    simp only [step, dropLease]
    split <;> exact ⟨rfl, rfl, rfl⟩
  | advance | touch | acquire | release => exact ⟨rfl, rfl, rfl⟩
  | cancel => cases he

/-- An event that reaches no task does not start the loops. -/
lemma started_of_unreached (ho : e.origin? m = none) : (m.step e).started = m.started := by
  cases e with
  | call => cases ho
  | resume task a =>
    have hnone : m.tasks.get? task = none := Option.map_eq_none_iff.1 ho
    simp only [step, resume, hnone]
  | drop lease =>
    simp only [step, dropLease]
    split <;> rfl
  | advance | touch | acquire | release => rfl
  | cancel task =>
    simp only [step, cancel]
    split
    next => split <;> rfl
    next => rfl

end Tenancy.Manager
