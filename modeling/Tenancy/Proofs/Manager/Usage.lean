import Tenancy.Proofs.Manager.Grants
import Tenancy.Proofs.Manager.Closing

/-!
# When pools were last used

A pool that a request gets, or that is given back, counts as used at that time, and no later event
sets the time back. `Noted` says so of what happens at one point in time, and `Noted.step` of every
event. `UsedSince.runInMemory`: what was used at one time was last used then or later, whatever has
happened since. `Touches` lists the events that count as a use.
-/

namespace Tenancy.Manager

variable {m m₁ m₂ m' : Manager} {task k : TaskId} {s : Stage} {e : Event} {t : TenantId}
  {id : PoolId} {time : Nat}

/-- A pool was last used at a time, or later. -/
def UsedSince (m : Manager) (id : PoolId) (time : Nat) : Prop :=
  ∀ p, m.pools[id]? = some p → time ≤ p.lastUsed

/-- At one point in time no use of a pool is forgotten, and the pools that requests get are used. -/
structure Noted (m m' : Manager) : Prop where
  now : m'.now = m.now
  kept : ∀ {id time}, time ≤ m.now → m.UsedSince id time → m'.UsedSince id time
  given : ∀ {k outcome id}, m'.outcomes.get? k = some outcome → outcome.pool? = some id →
    m.outcomes.get? k = some outcome ∨ m'.UsedSince id m.now

lemma UsedSince.of_pools (h : m.UsedSince id time) (hp : m'.pools = m.pools) :
    m'.UsedSince id time := by
  intro p hp'
  exact h p (hp ▸ hp')

/-- A change of a pool that does not set the time of its last use back. -/
lemma UsedSince.modifyPool (h : m.UsedSince id time) (other : PoolId) {f : Pool → Pool}
    (hf : ∀ p, p.lastUsed ≤ (f p).lastUsed) : (m.modifyPool other f).UsedSince id time := by
  intro p hp
  simp only [Manager.modifyPool, List.getElem?_modify] at hp
  obtain ⟨p₀, hp₀, rfl⟩ := Option.map_eq_some_iff.1 hp
  split_ifs
  · exact (h p₀ hp₀).trans (hf p₀)
  · exact h p₀ hp₀

/-- A change of a pool that counts as a use. -/
lemma usedSince_modifyPool (m : Manager) (id : PoolId) {f : Pool → Pool}
    (hf : ∀ p, time ≤ (f p).lastUsed) : (m.modifyPool id f).UsedSince id time := by
  intro p hp
  simp only [modifyPool, List.getElem?_modify] at hp
  obtain ⟨p₀, -, rfl⟩ := Option.map_eq_some_iff.1 hp
  simpa using hf p₀

namespace Noted

lemma refl (m : Manager) : m.Noted m := ⟨rfl, fun _ h => h, fun h _ => .inl h⟩

lemma trans (u : m.Noted m₁) (u' : m₁.Noted m₂) : m.Noted m₂ := by
  refine ⟨u'.now.trans u.now, fun hle h => u'.kept (u.now ▸ hle) (u.kept hle h), fun h hp => ?_⟩
  rcases u'.given h hp with h | hused
  · rcases u.given h hp with h | hused
    · exact .inl h
    · exact .inr (u'.kept u.now.ge hused)
  · exact .inr (u.now ▸ hused)

/-- What leaves pools, outcomes and the time alone. -/
lemma of_eq (u : m.Noted m₁) (hn : m₂.now = m₁.now) (hp : m₂.pools = m₁.pools)
    (ho : m₂.outcomes = m₁.outcomes) : m.Noted m₂ := by
  refine u.trans ⟨hn, fun _ h => h.of_pools hp, fun h _ => .inl ?_⟩
  rwa [ho] at h

lemma modifyPool (u : m.Noted m₁) (id : PoolId) {f : Pool → Pool}
    (hf : ∀ p, p.lastUsed ≤ (f p).lastUsed) : m.Noted (m₁.modifyPool id f) :=
  u.trans ⟨rfl, fun _ h => h.modifyPool id hf, fun h _ => .inl h⟩

lemma touch (u : m.Noted m₁) (id : PoolId) (now : Nat) :
    m.Noted (m₁.modifyPool id (·.touch now)) :=
  u.modifyPool id fun _ => le_max_left _ _

/-- A request that gets a pool ends when the pool is used. -/
lemma finish (u : m.Noted m₁) {outcome : Outcome}
    (h : ∀ id, outcome.pool? = some id → m₁.UsedSince id m.now) :
    m.Noted (m₁.finish task outcome) := by
  refine u.trans ⟨rfl, fun _ h => h.of_pools rfl, fun {k outcome' id} hk hp => ?_⟩
  simp only [Manager.finish, Assoc.get?_insert] at hk
  split_ifs at hk
  · cases hk
    exact .inr (u.now ▸ (h id hp).of_pools rfl)
  · exact .inl hk

/-- A request that gets no pool ends. -/
lemma finish_other (u : m.Noted m₁) {outcome : Outcome} (h : outcome.pool? = none) :
    m.Noted (m₁.finish task outcome) :=
  u.finish fun id hid => by
    rw [h] at hid
    cases hid

lemma enroll (u : m.Noted m₁) (t : TenantId) (record : Tenant) (connections : ConnectionsId) :
    m.Noted (m₁.enroll t record connections) := by
  refine u.trans ⟨rfl, fun hle h p hp => ?_, fun h _ => .inl h⟩
  simp only [Manager.enroll, List.getElem?_append, List.getElem?_singleton] at hp
  split_ifs at hp
  · exact h p hp
  · cases hp
    exact hle

lemma usedSince_enroll (m : Manager) (t : TenantId) (record : Tenant)
    (connections : ConnectionsId) :
    (m.enroll t record connections).UsedSince m.pools.length m.now := by
  intro p hp
  simp only [Manager.enroll, List.getElem?_concat_length, Option.some.injEq] at hp
  subst hp
  exact le_rfl

lemma spawnAll (u : m.Noted m₁) (stages : List Stage) : m.Noted (m₁.spawnAll stages) := by
  simp only [Manager.spawnAll]
  induction stages generalizing m₁ with
  | nil => exact u
  | cons s rest ih =>
    have hspawn : m.Noted (m₁.spawn s) := u.of_eq rfl rfl rfl
    exact ih hspawn

/-! ### Serving a request for a pool -/

lemma fail (u : m.Noted m₁) (d : Demand) (e : PoolError) : m.Noted (m₁.fail task d e) := by
  cases d with
  | get | lease => exact u.finish_other rfl
  | warm parent => exact u.of_eq rfl rfl rfl

lemma giveUp (u : m.Noted m₁) (d : Demand) (e : PoolError) : m.Noted (m₁.giveUp task d e) := by
  have hslot : m.Noted m₁.giveSlot := u.of_eq rfl rfl rfl
  exact hslot.fail d e

lemma lend (u : m.Noted m₁) (id : PoolId) : m.Noted (m₁.lend task id) := by
  have hused : (m₁.modifyPool id (·.acquire m₁.now)).UsedSince id m.now :=
    usedSince_modifyPool m₁ id fun _ => u.now ▸ le_max_right _ _
  have hacquire : m.Noted
      { m₁.modifyPool id (·.acquire m₁.now) with leases := m₁.leases.insert task id } :=
    (u.modifyPool id fun _ => le_max_left _ _).of_eq rfl rfl rfl
  refine hacquire.finish fun id' hid => ?_
  cases hid
  exact hused.of_pools rfl

lemma beginCreation (u : m.Noted m₁) (d : Demand) (t : TenantId) :
    m.Noted (m₁.beginCreation task d t) := by
  unfold Manager.beginCreation
  split
  · exact u.fail d _
  · exact u.of_eq rfl rfl rfl

lemma beginLease (u : m.Noted m₁) (t : TenantId) : m.Noted (m₁.beginLease task t) := by
  unfold Manager.beginLease
  split
  · exact u.fail .lease _
  · split
    · exact u.lend _
    · exact u.beginCreation .lease t

/-- A pool is handed out only after it was used. -/
lemma deliver (u : m.Noted m₁) (h : m₁.UsedSince id m.now) (d : Demand) (t : TenantId) :
    m.Noted (m₁.deliver task d t id) := by
  cases d with
  | get =>
    refine u.finish fun id' hid => ?_
    cases hid
    exact h
  | warm parent => exact u.of_eq rfl rfl rfl
  | lease =>
    simp only [Manager.deliver]
    split
    · exact u.lend id
    · exact u.beginLease t

/-- A pool that is there is used when it is handed out. -/
lemma deliver_touch (u : m.Noted m₁) (id : PoolId) (d : Demand) (t : TenantId) :
    m.Noted ((m₁.modifyPool id (·.touch m₁.now)).deliver task d t id) :=
  (u.touch id m₁.now).deliver
    (usedSince_modifyPool m₁ id fun _ => u.now ▸ le_max_right _ _) d t

lemma beginGet (u : m.Noted m₁) (d : Demand) (t : TenantId) :
    m.Noted (m₁.beginGet task d t) := by
  unfold Manager.beginGet
  split
  · exact u.fail d _
  · split
    · exact u.deliver_touch _ d t
    · exact u.beginCreation d t

/-! ### Making a pool -/

lemma afterLookup (u : m.Noted m₁) (d : Demand) (t : TenantId)
    (result : Except StoreError Tenant) : m.Noted (m₁.afterLookup task d t result) := by
  cases result with
  | error cause => exact u.giveUp d _
  | ok record =>
    simp only [Manager.afterLookup]
    split
    · exact u.of_eq rfl rfl rfl
    · exact u.giveUp d _

lemma afterOpening (u : m.Noted m₁) (d : Demand) (t : TenantId) (record : Tenant)
    (result : Except OpenFault (String × Nat)) :
    m.Noted (m₁.afterOpening task d t record result) := by
  cases result with
  | error fault => exact u.giveUp d _
  | ok opened => exact u.of_eq rfl rfl rfl

lemma beginClose (u : m.Noted m₁) (t : TenantId) (id : PoolId) (reason : String) (next : Next) :
    m.Noted (m₁.beginClose task t id reason next) :=
  (u.modifyPool id (f := fun p => { p with closed := true }) fun _ => le_rfl).of_eq rfl rfl rfl

lemma enter (u : m.Noted m₁) (d : Demand) (t : TenantId) (record : Tenant)
    (connections : ConnectionsId) : m.Noted (m₁.enter task d t record connections) := by
  unfold Manager.enter
  split
  · exact u.of_eq rfl rfl rfl
  · have henroll := u.enroll t record connections
    simp only
    split
    · exact henroll.beginClose t _ _ _
    · exact henroll.deliver (u.now ▸ usedSince_enroll m₁ t record connections) d t

lemma afterFirstPing (u : m.Noted m₁) (d : Demand) (t : TenantId) (record : Tenant)
    (connections : ConnectionsId) (result : Except PingFault Unit) :
    m.Noted (m₁.afterFirstPing task d t record connections result) := by
  cases result with
  | error fault => exact u.of_eq rfl rfl rfl
  | ok _ => exact u.enter d t record connections

/-! ### Going through all pools -/

lemma rest (u : m.Noted m₁) (loop : Loop) : m.Noted (m₁.rest task loop) := by
  unfold Manager.rest
  split <;> exact u.of_eq rfl rfl rfl

lemma finishSweep (u : m.Noted m₁) (sweeper : Sweeper) (loop : Loop) {outcome : Outcome}
    (h : outcome.pool? = none) : m.Noted (m₁.finishSweep task sweeper loop outcome) := by
  cases sweeper with
  | caller => exact u.finish_other h
  | loop => exact u.rest loop

lemma evictRest (u : m.Noted m₁) (sweeper : Sweeper) (count : Nat)
    (pools : List (TenantId × PoolId)) : m.Noted (m₁.evictRest task sweeper count pools) := by
  induction pools with
  | nil => exact u.finishSweep sweeper .eviction rfl
  | cons x rest ih =>
    simp only [Manager.evictRest]
    split
    · split
      · exact u.beginClose _ _ _ _
      · exact ih
    · exact ih

lemma awaitProbes (u : m.Noted m₁) (sweeper : Sweeper) (sweep : HealthSweep) :
    m.Noted (m₁.awaitProbes task sweeper sweep) := by
  unfold Manager.awaitProbes
  split
  · exact u.of_eq rfl rfl rfl
  · exact u.finishSweep sweeper .health rfl

lemma beginCheck (u : m.Noted m₁) (sweeper : Sweeper) : m.Noted (m₁.beginCheck task sweeper) :=
  (u.spawnAll _).awaitProbes sweeper _

lemma noteProbe (u : m.Noted m₁) (sweeper : Sweeper) (sweep : HealthSweep) (t : TenantId)
    (id : PoolId) (result : Except PingFault Unit) :
    m.Noted (m₁.noteProbe task sweeper sweep t id result) := by
  cases result with
  | ok _ =>
    have hmark : m.Noted (m₁.modifyPool id fun p => p.markHealthy.2) :=
      u.modifyPool id fun _ => le_rfl
    exact hmark.awaitProbes sweeper _
  | error fault =>
    have hmark : m.Noted (m₁.modifyPool id fun p => (p.markUnhealthy m₁.now).2) := by
      refine u.modifyPool id fun p => ?_
      unfold Pool.markUnhealthy
      split <;> exact le_rfl
    simp only [Manager.noteProbe]
    split
    · exact hmark.beginClose _ _ _ _
    · exact hmark.awaitProbes sweeper _

lemma absorbProbe (u : m.Noted m₁) (sweeper : Sweeper) (sweep : HealthSweep) :
    m.Noted (m₁.absorbProbe task sweeper sweep) := by
  unfold Manager.absorbProbe
  have hdrop : m.Noted (m₁.dropReport task) := u.of_eq rfl rfl rfl
  split
  · exact hdrop.noteProbe sweeper sweep _ _ _
  · exact u

lemma beginRound (u : m.Noted m₁) (loop : Loop) : m.Noted (m₁.beginRound task loop) := by
  cases loop with
  | eviction => exact u.evictRest .loop 0 _
  | health => exact u.beginCheck .loop

/-! ### Opening pools ahead of time -/

lemma awaitWarmed (u : m.Noted m₁) (warmed : Nat) (first : Option PoolError) :
    m.Noted (m₁.awaitWarmed task warmed first) := by
  unfold Manager.awaitWarmed
  split
  · exact u.of_eq rfl rfl rfl
  · split <;> exact u.finish_other rfl

lemma afterListing (u : m.Noted m₁) (result : Except StoreError (List Tenant)) :
    m.Noted (m₁.afterListing task result) := by
  cases result with
  | error cause => exact u.finish_other rfl
  | ok tenants => exact (u.spawnAll _).awaitWarmed 0 none

lemma absorbWarmed (u : m.Noted m₁) (warmed : Nat) (first : Option PoolError) :
    m.Noted (m₁.absorbWarmed task warmed first) := by
  unfold Manager.absorbWarmed
  have hdrop : m.Noted (m₁.dropReport task) := u.of_eq rfl rfl rfl
  split
  · exact hdrop.awaitWarmed _ _
  · exact hdrop.awaitWarmed _ _
  · exact u

/-! ### Retiring tenants and shutting down -/

lemma beginRetirement (u : m.Noted m₁) (t : TenantId) (reason : String) :
    m.Noted (m₁.beginRetirement task t reason) := by
  unfold Manager.beginRetirement
  split
  · exact u.beginClose _ _ _ _
  · exact u.finish_other rfl

lemma afterUpdate (u : m.Noted m₁) (t : TenantId) (status : Status)
    (result : Except StoreError Unit) : m.Noted (m₁.afterUpdate task t status result) := by
  cases result with
  | error cause => exact u.finish_other rfl
  | ok _ =>
    simp only [Manager.afterUpdate]
    split
    · exact u.finish_other rfl
    · split
      · exact u.beginClose _ _ _ _
      · exact u.finish_other rfl

lemma finishShutdown (u : m.Noted m₁) (count : Option Nat) :
    m.Noted (m₁.finishShutdown task count) := by
  cases count <;> exact u.finish_other rfl

lemma closeRest (u : m.Noted m₁) (count : Option Nat) (pools : List (TenantId × PoolId)) :
    m.Noted (m₁.closeRest task count pools) := by
  induction pools with
  | nil => exact u.finishShutdown count
  | cons x rest ih =>
    simp only [Manager.closeRest]
    split
    · exact u.beginClose _ _ _ _
    · exact ih

lemma beginShutdown (u : m.Noted m₁) (count : Option Nat) :
    m.Noted (m₁.beginShutdown task count) := by
  have hdown : m.Noted { m₁ with shuttingDown := true } := u.of_eq rfl rfl rfl
  have hclosed : m.Noted { m₁ with shuttingDown := true, closed := true } := u.of_eq rfl rfl rfl
  simp only [Manager.beginShutdown]
  split
  · exact hdown.finishShutdown count
  · unfold Manager.awaitLoops
    split
    · exact u.of_eq rfl rfl rfl
    · exact hclosed.closeRest count _

lemma drainRound (u : m.Noted m₁) (deadline : Nat) : m.Noted (m₁.drainRound task deadline) := by
  unfold Manager.drainRound
  split
  · exact u.beginShutdown _
  · exact u.of_eq rfl rfl rfl

lemma beginLoops (u : m.Noted m₁) : m.Noted (m₁.beginLoops task) := by
  unfold Manager.beginLoops
  have hstarted : m.Noted { m₁ with started := true } := u.of_eq rfl rfl rfl
  split
  · exact u.finish_other rfl
  · exact (hstarted.spawnAll _).finish_other rfl

/-! ### Events -/

lemma call (m : Manager) (request : Request) : m.Noted (m.call request) := by
  have u : m.Noted { m with nextTask := m.nextTask + 1 } := (refl m).of_eq rfl rfl rfl
  cases request with
  | get t => exact u.beginGet .get t
  | lease t => exact u.beginLease t
  | evict => exact u.evictRest .caller 0 _
  | checkHealth => exact u.beginCheck .caller
  | retire t reason => exact u.beginRetirement t reason
  | setStatus | prewarm => exact u.of_eq rfl rfl rfl
  | drain patience =>
    have hdown : m.Noted { m with nextTask := m.nextTask + 1, shuttingDown := true } :=
      u.of_eq rfl rfl rfl
    exact hdown.drainRound _
  | close => exact u.beginShutdown none
  | start => exact u.beginLoops

lemma afterClosing (u : m.Noted m₁) (t : TenantId) (id : PoolId) (reason : String) (next : Next) :
    m.Noted (m₁.afterClosing task t id reason next) := by
  have hclosed (ledger : Ledger) (closures : List (TenantId × String)) :
      m.Noted { m₁ with ledger, closures } := u.of_eq rfl rfl rfl
  cases next with
  | withdraw d => exact (hclosed _ _).fail d _
  | evict sweeper pools count => exact (hclosed _ _).evictRest sweeper _ pools
  | probe sweeper sweep => exact (hclosed _ _).awaitProbes sweeper _
  | retire | setStatus => exact (hclosed _ _).finish_other rfl
  | shutdown pools count => exact (hclosed _ _).closeRest count pools

theorem answer (m : Manager) (task : TaskId) (s : Stage) (a : Answer) :
    m.Noted (m.answer task s a) := by
  have u := refl m
  have hclosed (ledger : Ledger) : m.Noted { m with ledger } := u.of_eq rfl rfl rfl
  unfold Manager.answer
  split
  next => exact u.afterLookup _ _ _
  next => exact u.afterOpening _ _ _ _
  next =>
    split
    · exact u.giveUp _ _
    · exact u
  next => exact u.afterFirstPing _ _ _ _ _
  next =>
    split
    · exact u.afterFirstPing _ _ _ _ _
    · exact u
  next => exact (hclosed _).giveUp _ _
  next => exact (hclosed _).deliver_touch _ _ _
  next => exact u.afterClosing _ _ _ _
  next => exact u.beginGet _ _
  next => exact u.afterListing _
  next => exact u.absorbWarmed _ _
  next => exact u.of_eq rfl rfl rfl
  next => exact u.of_eq rfl rfl rfl
  next => split <;> exact u.of_eq rfl rfl rfl
  next => exact u.absorbProbe _ _
  next => exact u.afterUpdate _ _ _
  next =>
    split
    · exact u.drainRound _
    · exact u
  next =>
    split
    · exact u
    · exact u.closeRest _ _
  next => exact u.rest _
  next =>
    split
    · exact u.beginRound _
    · exact u
  next => split <;> exact u.of_eq rfl rfl rfl
  next => exact u

/-- What happens at one point in time: every event but that time goes on. -/
theorem step (m : Manager) (he : ¬∃ nanos, e = .advance nanos) : m.Noted (m.step e) := by
  cases e with
  | call request => exact call m request
  | resume task a =>
    simp only [Manager.step, resume]
    split
    · exact answer m task _ a
    · exact refl m
  | advance nanos => exact absurd ⟨nanos, rfl⟩ he
  | drop lease =>
    simp only [Manager.step, dropLease]
    split
    · exact ((refl m).modifyPool _ fun _ => le_max_left _ _).of_eq rfl rfl rfl
    · exact refl m
  | touch id => exact (refl m).touch id _
  | acquire id => exact (refl m).modifyPool id fun _ => le_max_left _ _
  | release id => exact (refl m).modifyPool id fun _ => le_max_left _ _
  | cancel task =>
    simp only [Manager.step, cancel]
    split
    · split
      · exact refl m
      · exact (refl m).of_eq rfl rfl rfl
    · exact refl m

lemma settle (m : Manager) : m.Noted m.settle :=
  settle_induction (fun _ _ _ u _ _ => u.trans (step _ (by simp))) (refl m)

end Noted

/-! ### Over time -/

/-- Time goes on, and no use of a pool is forgotten. -/
lemma now_le_step (m : Manager) (e : Event) : m.now ≤ (m.step e).now := by
  by_cases he : ∃ nanos, e = .advance nanos
  · obtain ⟨nanos, rfl⟩ := he
    exact Nat.le_add_right _ _
  · exact (Noted.step m he).now.ge

lemma UsedSince.step (hle : time ≤ m.now) (h : m.UsedSince id time) (e : Event) :
    (m.step e).UsedSince id time := by
  by_cases he : ∃ nanos, e = .advance nanos
  · obtain ⟨nanos, rfl⟩ := he
    exact h.of_pools rfl
  · exact (Noted.step m he).kept hle h

theorem UsedSince.runInMemory (hle : time ≤ m.now) (h : m.UsedSince id time)
    (events : List Event) : (m.runInMemory events).UsedSince id time := by
  have hrun : time ≤ (m.runInMemory events).now ∧ (m.runInMemory events).UsedSince id time :=
    runInMemory_induction (I := fun m => time ≤ m.now ∧ m.UsedSince id time)
      (fun m e ⟨hle, h⟩ => ⟨hle.trans (now_le_step m e), h.step hle e⟩) ⟨hle, h⟩ events
  exact hrun.2

/-! ### Uses -/

/-- With an event a pool is used, over a backend in memory. -/
inductive Touches (m : Manager) : Event → PoolId → Prop
  /-- A request gets the pool, or a lease of it. -/
  | got {e : Event} {k : TaskId} {outcome id} (hnew : m.outcomes.get? k = none)
      (hk : (m.step e).settle.outcomes.get? k = some outcome) (hp : outcome.pool? = some id) :
      Touches m e id
  /-- The pool was not there before. -/
  | entered {e : Event} {id : PoolId} (hnew : m.pools.length ≤ id) : Touches m e id
  /-- The pool is found when pools are opened ahead of time. -/
  | warmed {k parent : TaskId} {t : TenantId} {id : PoolId}
      (hk : m.tasks.get? k = some (.warmQueued parent t)) (hopen : m.shuttingDown = false)
      (ht : m.entries.get? t = some id) : Touches m (.resume k .proceed) id
  /-- The pool is found when other connections of its tenant come too late. -/
  | yielded {k : TaskId} {d : Demand} {t : TenantId} {record connections deadline} {id : PoolId}
      (hk : m.tasks.get? k = some (.pinging d t record connections deadline))
      (ht : m.entries.get? t = some id) : Touches m (.resume k (.pinged (.ok ()))) id
  /-- A lease of the pool is given back. -/
  | dropped {lease : TaskId} {id : PoolId} (hlease : m.leases.get? lease = some id) :
      Touches m (.drop lease) id
  | touched {id : PoolId} : Touches m (.touch id) id
  | acquired {id : PoolId} : Touches m (.acquire id) id
  | released {id : PoolId} : Touches m (.release id) id

/-- A task that yields to another pool uses that one, at once. -/
lemma usedSince_of_yielding {d : Demand} {connections : ConnectionsId} (hs : m.Settled)
    (ht : m'.tasks = m.tasks.insert k (.yielding d t connections id)) (hn : m'.now = m.now) :
    m'.settle.UsedSince id m.now := by
  have hk : m'.tasks.get? k = some (.yielding d t connections id) := by
    simp [ht, Assoc.get?_insert]
  have hdone : m'.settle = m' ∨ (m'.settle.now = m.now ∧ m'.settle.UsedSince id m.now) := by
    refine settle_induction
      (I := fun m₂ => m₂ = m' ∨ (m₂.now = m.now ∧ m₂.UsedSince id m.now)) ?_ (.inl rfl)
    rintro m₂ i s (rfl | ⟨hnow, hused⟩) hi hc
    · have hik : i = k := by
        by_contra hne
        rw [ht, Assoc.get?_insert, if_neg hne] at hi
        rw [hs i s hi] at hc
        cases hc
      subst hik
      have hyield : m₂.Noted (m₂.step (.resume i .closed)) := .step m₂ (by simp)
      refine .inr ⟨hyield.now.trans hn, ?_⟩
      rw [step_resume hk]
      set closed := { m₂ with ledger := m₂.ledger.close connections }
      set touched := closed.modifyPool id (·.touch closed.now)
      have hused : touched.UsedSince id touched.now :=
        usedSince_modifyPool closed id fun _ => le_max_right _ _
      have hdeliver : touched.Noted (touched.deliver i d t id) := (Noted.refl _).deliver hused d t
      exact hdeliver.kept hn.ge (hn ▸ hused)
    · have hstep : m₂.Noted (m₂.step (.resume i .closed)) := .step m₂ (by simp)
      exact .inr ⟨hstep.now.trans hnow, hstep.kept hnow.ge hused⟩
  rcases hdone with heq | ⟨-, hused⟩
  · have hsettled := settled_settle m' k _ (heq ▸ hk)
    cases hsettled
  · exact hused

/-- A pool that is used with an event was last used at that time, or later. -/
theorem Touches.usedSince (hs : m.Settled) (h : Touches m e id) :
    (m.step e).settle.UsedSince id m.now := by
  -- Whatever the event does at first is not undone when tasks go on.
  have hsettle {m' : Manager} (hle : m.now ≤ m'.now) (hused : m'.UsedSince id m.now) :
      m'.settle.UsedSince id m.now := (Noted.settle m').kept hle hused
  have hmodify {f : Pool → Pool} (hf : ∀ p, m.now ≤ (f p).lastUsed) :
      (m.modifyPool id f).UsedSince id m.now := usedSince_modifyPool m id hf
  cases h with
  | @got e k outcome _ hnew hk hp =>
    by_cases he : ∃ nanos, e = .advance nanos
    · obtain ⟨nanos, rfl⟩ := he
      have hadvance : (m.step (.advance nanos)).Settled := hs
      rw [settle_eq_self hadvance] at hk
      exact absurd (hnew.symm.trans hk) (by simp)
    · rcases ((Noted.step m he).trans (.settle _)).given hk hp with hold | hused
      · rw [hnew] at hold
        cases hold
      · exact hused
  | entered hnew =>
    have habsent : m.UsedSince id m.now := fun p hp => by
      rw [List.getElem?_eq_none hnew] at hp
      cases hp
    exact hsettle (now_le_step m e) (habsent.step le_rfl e)
  | @warmed k parent t _ hk hopen ht =>
    refine hsettle (now_le_step m _) ?_
    simp only [step_resume hk, answer, beginGet, hopen, ht]
    exact hmodify fun _ => le_max_right _ _
  | @yielded k d t record connections deadline _ hk ht =>
    have hstep : m.step (.resume k (.pinged (.ok ()))) =
        m.giveSlot.await k (.yielding d t connections id) := by
      simp only [step_resume hk, answer, afterFirstPing, enter, ht]
    rw [hstep]
    exact usedSince_of_yielding hs rfl rfl
  | @dropped lease _ hlease =>
    refine hsettle (now_le_step m _) ?_
    simp only [step, dropLease, hlease]
    exact (hmodify fun _ => le_max_right _ _).of_pools rfl
  | touched => exact hsettle le_rfl (hmodify fun _ => le_max_right _ _)
  | acquired => exact hsettle le_rfl (hmodify fun _ => le_max_right _ _)
  | released => exact hsettle le_rfl (hmodify fun _ => le_max_right _ _)

end Tenancy.Manager
