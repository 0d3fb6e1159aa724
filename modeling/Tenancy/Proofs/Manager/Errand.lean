import Tenancy.Proofs.Manager.Connections
import Tenancy.Proofs.Manager.Grants

/-!
# Requests for pools, and nothing else

While no pool is closed but those that come too late, a task that gets a pool for a request does one
of a few things, which `Errand` lists. One of the tenants is singled out: its record is active, its
connections are opened, and they answer the first ping. `CalmTurn.of_step` says that nothing else
happens, and `Calm.step` that it stays so.
-/

namespace Tenancy.Manager

/-! ### What may happen -/

/-- Whether a task gets a pool for a request, or is a loop that is asleep. No connections of the
tenant `t` have failed the first ping. -/
def Stage.isCalm (t : TenantId) : Stage → Bool
  | .lookingUp d _ | .opening d _ _ _ | .pinging d _ _ _ _ | .yielding d _ _ _ =>
    d.parent?.isNone
  | .rejecting d tenant _ _ => d.parent?.isNone && tenant ≠ t
  | .loopSleeping _ _ => true
  | _ => false

/-- Whether a task may be told an answer. Loops are not woken up, and the tenant `t` is active, and
its connections are opened and answer the first ping in time. -/
def Stage.allows (t : TenantId) : Stage → Answer → Bool
  | .lookingUp _ tenant, .tenant result => tenant ≠ t || result.toOption.any Tenant.isActive
  | .opening _ tenant _ _, .opened result => tenant ≠ t || result.isOk
  | .pinging _ tenant _ _ _, .pinged result => tenant ≠ t || result.isOk
  | .opening _ tenant _ _, .elapsed | .pinging _ tenant _ _ _, .elapsed => tenant ≠ t
  | .loopSleeping _ _, .elapsed => false
  | _, _ => true

/-- Whether an event goes with requests for pools alone. -/
def Event.isCalm (m : Manager) (t : TenantId) : Event → Bool
  | .call (.get _) | .call (.lease _) => true
  | .call _ | .cancel _ => false
  | .resume k a => (m.tasks.get? k).all (·.allows t a)
  | _ => true

/-- Whether all events, each when it happens, go with requests for pools alone. -/
def calmly (m : Manager) (t : TenantId) : List Event → Bool
  | [] => true
  | e :: events => e.isCalm m t && (m.step e).calmly t events

/-- Only requests for pools are carried out. Tasks of the tenant `t` that yield to another pool do
so to the one in use. -/
structure Calm (t : TenantId) (m : Manager) : Prop where
  up : m.shuttingDown = false
  tasks : ∀ k s, m.tasks.get? k = some s → s.isCalm t = true
  late : ∀ k d c winner, m.tasks.get? k = some (.yielding d t c winner) →
    m.entries.get? t = some winner

/-! ### What a task does -/

/-- Between two states nothing happens to tasks and to the pools in use. -/
structure Aside (m m' : Manager) : Prop where
  config : m'.config = m.config
  entries : m'.entries = m.entries
  slots : m'.slots = m.slots
  shuttingDown : m'.shuttingDown = m.shuttingDown
  tasks : m'.tasks = m.tasks
  nextTask : m.nextTask ≤ m'.nextTask
  outcomes : m'.outcomes = m.outcomes
  connectionsOf : m'.connectionsOf = m.connectionsOf

variable {m m₁ m' : Manager} {k : TaskId} {e : Event} {t : TenantId} {id : PoolId}

namespace Aside

lemma refl (m : Manager) : m.Aside m := ⟨rfl, rfl, rfl, rfl, rfl, le_rfl, rfl, rfl⟩

lemma modifyPool (h : m.Aside m₁) (id : PoolId) {f : Pool → Pool}
    (hf : ∀ p, (f p).connections = p.connections) : m.Aside (m₁.modifyPool id f) :=
  ⟨h.config, h.entries, h.slots, h.shuttingDown, h.tasks, h.nextTask, h.outcomes,
    (connectionsOf_modifyPool m₁ id hf).trans h.connectionsOf⟩

lemma isFull_eq (h : m.Aside m₁) : m₁.isFull = m.isFull := by
  rw [isFull, isFull, h.config, h.slots]

end Aside

/-- Gives a pool for what it was wanted. -/
def grant (m : Manager) (k : TaskId) (id : PoolId) : Demand → Manager
  | .get => m.finish k (.pool id)
  | .lease => m.lend k id
  | .warm parent => m.report k parent (.warmed (.ok ()))

/-- Where a task looks for the pool of its tenant: at the request, or when its own connections have
come too late and are closed. -/
inductive Begins (m : Manager) : Origin → Demand → TenantId → Manager → Prop
  | call {r d t m₁} (ho : (Origin.call r).demand? = some (d, t)) (a : m.Aside m₁)
      (hl : m₁.ledger = m.ledger) : Begins m (.call r) d t m₁
  | late {d t c winner m₁} (a : m.Aside m₁) (hl : m₁.ledger = m.ledger.close c) :
      Begins m (.stage (.yielding d t c winner)) d t m₁

/-- What a task does that gets a pool for a request, or is a loop, and takes up at `o`. -/
inductive Errand (t : TenantId) (m : Manager) (k : TaskId) : Origin → Manager → Prop
  | stay {o} : Errand t m k o m
  | leave {loop wake} : Errand t m k (.stage (.loopSleeping loop wake)) (m.leave k)
  | refuse {o d t' m₁} (b : Begins m o d t' m₁) (hnone : m.entries.get? t' = none)
      (hfull : m.isFull = true) : Errand t m k o (m₁.fail k d (.limitReached m.config.maxPools))
  | reserve {o d t' m₁} (b : Begins m o d t' m₁) (hnone : m.entries.get? t' = none)
      (hp : d.parent? = none) : Errand t m k o (m₁.takeSlot.await k (.lookingUp d t'))
  | serve {o d t' m₁ id} (b : Begins m o d t' m₁) (h : t' = t → m.entries.get? t = some id) :
      Errand t m k o (m₁.grant k id d)
  | look {d t' record} (hp : d.parent? = none) :
      Errand t m k (.stage (.lookingUp d t')) (m.await k (.opening d t' record m.connectDeadline))
  | connect {d t' record deadline} (database : String) (size : Nat) (hp : d.parent? = none) :
      Errand t m k (.stage (.opening d t' record deadline))
        ({ m with ledger := m.ledger.open database size }.await k
          (.pinging d t' record m.ledger.next m.connectDeadline))
  | enter {d t' record c deadline} (hnone : m.entries.get? t' = none) :
      Errand t m k (.stage (.pinging d t' record c deadline))
        ((m.enroll t' record c).grant k m.pools.length d)
  | yield {d t' record c deadline winner} (hp : d.parent? = none)
      (h : m.entries.get? t' = some winner) :
      Errand t m k (.stage (.pinging d t' record c deadline))
        (m.giveSlot.await k (.yielding d t' c winner))
  | reject {d t' record c deadline fault} (hp : d.parent? = none) (ht : t' ≠ t) :
      Errand t m k (.stage (.pinging d t' record c deadline))
        (m.await k (.rejecting d t' c fault))
  | giveUp {s d t' m₁ error} (hs : s.demand? = some (d, t')) (a : m.Aside m₁)
      (hl : m₁.ledger = m.ledger ∨ ∃ c, m₁.ledger = m.ledger.close c) (ht : t' ≠ t) :
      Errand t m k (.stage s) (m₁.giveUp k d error)

variable {o : Origin} {s : Stage} {d : Demand} {t' : TenantId}

lemma Begins.aside (b : Begins m o d t' m₁) : m.Aside m₁ := by
  cases b <;> assumption

lemma Begins.demand (b : Begins m o d t' m₁) : o.demand? = some (d, t') := by
  cases b with
  | call ho => exact ho
  | late => rfl

lemma deliver_enroll_eq_grant (m : Manager) (k : TaskId) (d : Demand) (t : TenantId)
    (record : Tenant) (c : ConnectionsId) :
    (m.enroll t record c).deliver k d t m.pools.length =
      (m.enroll t record c).grant k m.pools.length d := by
  rw [Move.deliver_enroll]
  cases d <;> rfl

namespace Errand

lemma of_beginCreation (b : Begins m o d t' m₁) (hnone : m.entries.get? t' = none)
    (hp : d.parent? = none) : Errand t m k o (m₁.beginCreation k d t') := by
  have a := b.aside
  unfold beginCreation
  rw [a.config]
  split
  next hfull => exact .refuse b hnone (a.isFull_eq ▸ hfull)
  next => exact .reserve b hnone hp

lemma of_beginLease (b : Begins m o .lease t' m₁) (hopen : m.shuttingDown = false) :
    Errand t m k o (m₁.beginLease k t') := by
  have a := b.aside
  simp only [beginLease, a.shuttingDown, hopen, Bool.false_eq_true, if_false, a.entries]
  split
  next id h => exact .serve b fun heq => heq ▸ h
  next hnone => exact of_beginCreation b hnone rfl

lemma of_call (hopen : m.shuttingDown = false) {r : Request}
    (hd : (Origin.call r).demand? = some (d, t')) :
    Errand t m k (.call r) (m.admitRequest k r) := by
  cases r with
  | get tenant =>
    cases hd
    simp only [admitRequest, beginGet, hopen, Bool.false_eq_true, if_false]
    split
    next id h =>
      have a := (Aside.refl m).modifyPool id (f := (·.touch m.now)) fun _ => rfl
      exact serve (d := .get) (.call rfl a rfl) fun heq => heq ▸ h
    next hnone => exact of_beginCreation (.call rfl (.refl m) rfl) hnone rfl
  | lease tenant =>
    cases hd
    exact of_beginLease (.call rfl (.refl m) rfl) hopen
  | _ => cases hd

lemma of_afterLookup (hp : d.parent? = none) {result : Except StoreError Tenant}
    (hactive : t' = t → result.toOption.any Tenant.isActive = true) :
    Errand t m k (.stage (.lookingUp d t')) (m.afterLookup k d t' result) := by
  cases result with
  | error cause => exact .giveUp rfl (.refl m) (.inl rfl) fun heq => by cases hactive heq
  | ok record =>
    simp only [afterLookup]
    split
    next => exact .look hp
    next hinactive =>
      exact .giveUp rfl (.refl m) (.inl rfl) fun heq => hinactive (hactive heq)

lemma of_afterOpening (hp : d.parent? = none) {record : Tenant} {deadline : Nat}
    {result : Except OpenFault (String × Nat)} (hok : t' = t → result.isOk = true) :
    Errand t m k (.stage (.opening d t' record deadline))
      (m.afterOpening k d t' record result) := by
  cases result with
  | error fault => exact .giveUp rfl (.refl m) (.inl rfl) fun heq => by cases hok heq
  | ok opened => exact .connect opened.1 opened.2 hp

lemma of_afterFirstPing (hopen : m.shuttingDown = false) (hp : d.parent? = none)
    {record : Tenant} {c : ConnectionsId} {deadline : Nat} {result : Except PingFault Unit}
    (hok : t' = t → result.isOk = true) :
    Errand t m k (.stage (.pinging d t' record c deadline))
      (m.afterFirstPing k d t' record c result) := by
  cases result with
  | error fault => exact .reject hp fun heq => by cases hok heq
  | ok =>
    simp only [afterFirstPing, Manager.enter]
    split
    next winner h => exact .yield hp h
    next hnone =>
      split
      next hdown => exact absurd (hopen.symm.trans hdown) (by simp)
      next =>
        have henter : Errand t m k (.stage (.pinging d t' record c deadline))
            ((m.enroll t' record c).grant k m.pools.length d) := .enter hnone
        rwa [← deliver_enroll_eq_grant] at henter

lemma of_afterYielding (hopen : m.shuttingDown = false) (hp : d.parent? = none)
    {c : ConnectionsId} {winner : PoolId} (hlate : t' = t → m.entries.get? t = some winner) :
    Errand t m k (.stage (.yielding d t' c winner)) (m.afterYielding k d t' c winner) := by
  have hclose : m.Aside { m with ledger := m.ledger.close c } :=
    ⟨rfl, rfl, rfl, rfl, rfl, le_rfl, rfl, rfl⟩
  have a := hclose.modifyPool winner (f := (·.touch m.now)) fun _ => rfl
  cases d with
  | get => exact serve (d := .get) (.late a rfl) hlate
  | warm => cases hp
  | lease =>
    simp only [afterYielding, deliver]
    split
    next h => exact serve (d := .lease) (.late a rfl) hlate
    next => exact of_beginLease (.late a rfl) hopen

/-- A task that may be told an answer does one of the things listed. -/
theorem of_answer (hopen : m.shuttingDown = false) (hs : s.isCalm t = true) {a : Answer}
    (ha : s.allows t a = true)
    (hlate : ∀ d c winner, s = .yielding d t c winner → m.entries.get? t = some winner) :
    Errand t m k (.stage s) (m.answer k s a) := by
  cases s with
  | lookingUp d t' =>
    have hp : d.parent? = none := Option.isNone_iff_eq_none.1 hs
    cases a with
    | tenant result => exact of_afterLookup hp fun heq => by simpa [Stage.allows, heq] using ha
    | _ => exact .stay
  | opening d t' record deadline =>
    have hp : d.parent? = none := Option.isNone_iff_eq_none.1 hs
    cases a with
    | opened result => exact of_afterOpening hp fun heq => by simpa [Stage.allows, heq] using ha
    | elapsed =>
      simp only [answer]
      split
      next => exact .giveUp rfl (.refl m) (.inl rfl) (by simpa [Stage.allows] using ha)
      next => exact .stay
    | _ => exact .stay
  | pinging d t' record c deadline =>
    have hp : d.parent? = none := Option.isNone_iff_eq_none.1 hs
    cases a with
    | pinged result =>
      exact of_afterFirstPing hopen hp fun heq => by simpa [Stage.allows, heq] using ha
    | elapsed =>
      simp only [answer]
      split
      next =>
        have hne : t' ≠ t := by simpa [Stage.allows] using ha
        exact of_afterFirstPing hopen hp fun heq => absurd heq hne
      next => exact .stay
    | _ => exact .stay
  | rejecting d t' c fault =>
    have hne : t' ≠ t := by
      have h := (Bool.and_eq_true_iff.1 hs).2
      simpa using h
    cases a with
    | closed =>
      have hclose : m.Aside { m with ledger := m.ledger.close c } :=
        ⟨rfl, rfl, rfl, rfl, rfl, le_rfl, rfl, rfl⟩
      exact .giveUp rfl hclose (.inr ⟨c, rfl⟩) hne
    | _ => exact .stay
  | yielding d t' c winner =>
    have hp : d.parent? = none := Option.isNone_iff_eq_none.1 hs
    cases a with
    | closed => exact of_afterYielding hopen hp fun heq => hlate d c winner (heq ▸ rfl)
    | _ => exact .stay
  | loopSleeping loop wake =>
    cases a with
    | elapsed => cases ha
    | proceed =>
      simp only [answer]
      split
      next => exact .leave
      next => exact .stay
    | _ => exact .stay
  | _ => cases hs

/-! ### What it leaves alone -/

lemma tasks_grant (m : Manager) (k : TaskId) (id : PoolId) (d : Demand) :
    (m.grant k id d).tasks = m.tasks.erase k := by
  cases d <;> rfl

lemma entries_grant (m : Manager) (k : TaskId) (id : PoolId) (d : Demand) :
    (m.grant k id d).entries = m.entries := by
  cases d <;> rfl

lemma connectionsOf_grant (m : Manager) (k : TaskId) (id : PoolId) (d : Demand) :
    (m.grant k id d).connectionsOf = m.connectionsOf := by
  cases d with
  | get | warm => rfl
  | lease => exact connectionsOf_lend m k id

lemma entries_fail (m : Manager) (k : TaskId) (d : Demand) (error : PoolError) :
    (m.fail k d error).entries = m.entries := by
  cases d <;> rfl

lemma outcomes_grant_other (m : Manager) (id : PoolId) (d : Demand) {i : TaskId} (hi : i ≠ k) :
    (m.grant k id d).outcomes.get? i = m.outcomes.get? i := by
  cases d with
  | get | lease => simp [grant, lend, finish, modifyPool, Assoc.get?_insert, hi]
  | warm => rfl

lemma outcomes_fail_other (m : Manager) (d : Demand) (error : PoolError) {i : TaskId}
    (hi : i ≠ k) : (m.fail k d error).outcomes.get? i = m.outcomes.get? i := by
  cases d with
  | get | lease => simp [fail, finish, Assoc.get?_insert, hi]
  | warm => rfl

/-- The task stays where it is, or ends, or goes on for the same tenant. -/
lemma tasks_cases (h : Errand t m k o m') :
    m'.tasks = m.tasks ∨ m'.tasks = m.tasks.erase k ∨
      ∃ s, m'.tasks = m.tasks.insert k s ∧ s.isCalm t = true ∧ s.demand? = o.demand? ∧
        ∀ d c winner, s = .yielding d t c winner → m.entries.get? t = some winner := by
  cases h with
  | stay => exact .inl rfl
  | leave => exact .inr (.inl rfl)
  | @refuse _ d t' m₁ b _ _ =>
    rw [← b.aside.tasks]
    exact .inr (.inl (tasks_fail m₁ k d _))
  | @serve _ d t' m₁ id b _ =>
    rw [← b.aside.tasks]
    exact .inr (.inl (tasks_grant m₁ k id d))
  | @reserve _ d t' m₁ b _ hp =>
    rw [← b.aside.tasks]
    exact .inr (.inr ⟨_, rfl, Option.isNone_iff_eq_none.2 hp, b.demand.symm, nofun⟩)
  | look hp | connect _ _ hp =>
    exact .inr (.inr ⟨_, rfl, Option.isNone_iff_eq_none.2 hp, rfl, nofun⟩)
  | enter => exact .inr (.inl (tasks_grant _ k _ _))
  | @yield d t' record c deadline winner hp h =>
    refine .inr (.inr ⟨_, rfl, Option.isNone_iff_eq_none.2 hp, rfl, ?_⟩)
    rintro _ _ _ ⟨⟩
    exact h
  | reject hp ht =>
    refine .inr (.inr ⟨_, rfl, ?_, rfl, nofun⟩)
    simp [Stage.isCalm, hp, ht]
  | @giveUp s d t' m₁ error _ a _ _ =>
    rw [← a.tasks]
    exact .inr (.inl (tasks_fail m₁.giveSlot k d error))

/-- Pools in use stay so. -/
lemma entries_kept (h : Errand t m k o m') {tenant : TenantId}
    (ht : m.entries.get? tenant = some id) : m'.entries.get? tenant = some id := by
  cases h with
  | stay | leave | look | connect | yield | reject => exact ht
  | refuse b _ _ => rw [entries_fail, b.aside.entries, ht]
  | reserve b _ _ =>
    rw [← b.aside.entries] at ht
    exact ht
  | serve b _ => rw [entries_grant, b.aside.entries, ht]
  | @enter d t' record c deadline hnone =>
    have hne : tenant ≠ t' := by
      rintro rfl
      rw [hnone] at ht
      cases ht
    rw [entries_grant, enroll, Assoc.get?_insert, if_neg hne, ht]
  | @giveUp s d t' m₁ error _ a _ _ =>
    rw [← a.entries] at ht
    rw [Manager.giveUp, entries_fail]
    exact ht

lemma frame (h : Errand t m k o m') :
    m'.config = m.config ∧ m'.shuttingDown = m.shuttingDown ∧ m.nextTask ≤ m'.nextTask := by
  cases h with
  | stay | leave | look | connect | yield | reject => exact ⟨rfl, rfl, le_rfl⟩
  | @refuse _ d t' m₁ b _ _ =>
    cases d <;> exact ⟨b.aside.config, b.aside.shuttingDown, b.aside.nextTask⟩
  | reserve b _ _ => exact ⟨b.aside.config, b.aside.shuttingDown, b.aside.nextTask⟩
  | @serve _ d t' m₁ id b _ =>
    cases d <;> exact ⟨b.aside.config, b.aside.shuttingDown, b.aside.nextTask⟩
  | @enter d t' record c deadline _ => cases d <;> exact ⟨rfl, rfl, le_rfl⟩
  | @giveUp s d t' m₁ error _ a _ _ =>
    cases d <;> exact ⟨a.config, a.shuttingDown, a.nextTask⟩

lemma get?_other (h : Errand t m k o m') {i : TaskId} (hi : i ≠ k) :
    m'.tasks.get? i = m.tasks.get? i := by
  rcases h.tasks_cases with htasks | htasks | ⟨s, htasks, -⟩
  · rw [htasks]
  · rw [htasks, Assoc.get?_erase, if_neg hi]
  · rw [htasks, Assoc.get?_insert, if_neg hi]

lemma outcomes_other (h : Errand t m k o m') {i : TaskId} (hi : i ≠ k) :
    m'.outcomes.get? i = m.outcomes.get? i := by
  cases h with
  | stay | leave | look | connect | yield | reject => rfl
  | refuse b _ _ => rw [outcomes_fail_other _ _ _ hi, b.aside.outcomes]
  | reserve b _ _ => exact congrArg (·.get? i) b.aside.outcomes
  | serve b _ => rw [outcomes_grant_other _ _ _ hi, b.aside.outcomes]
  | enter => exact outcomes_grant_other _ _ _ hi
  | @giveUp _ d _ m₁ error _ a _ _ =>
    rw [Manager.giveUp, outcomes_fail_other m₁.giveSlot d error hi]
    exact congrArg (·.get? i) a.outcomes

end Errand

/-! ### Steps -/

/-- What an event does that goes with requests for pools alone. -/
inductive CalmTurn (t : TenantId) (m : Manager) (e : Event) (m' : Manager) : Prop
  | act {m₀ k o} (ho : e.origin? m = some (k, o)) (a : m.Aside m₀) (hl : m₀.ledger = m.ledger)
      (hat : o.At m₀ k) (h : Errand t m₀ k o m')
  | beside (ho : e.origin? m = none) (a : m.Aside m') (hl : m'.ledger = m.ledger)

theorem CalmTurn.of_step (hf : m.Fresh) (h : Calm t m) (he : e.isCalm m t = true) :
    CalmTurn t m e (m.step e) := by
  cases e with
  | call r =>
    have a : m.Aside { m with nextTask := m.nextTask + 1 } :=
      ⟨rfl, rfl, rfl, rfl, rfl, Nat.le_succ _, rfl, rfl⟩
    obtain ⟨d, t', hd⟩ : ∃ d t', (Origin.call r).demand? = some (d, t') := by
      cases r with
      | get tenant => exact ⟨.get, tenant, rfl⟩
      | lease tenant => exact ⟨.lease, tenant, rfl⟩
      | _ => cases he
    exact .act rfl a rfl hf.get?_nextTask (.of_call (m := { m with nextTask := m.nextTask + 1 })
      h.up hd)
  | resume k a =>
    cases hs : m.tasks.get? k with
    | none =>
      refine .beside (by simp [Event.origin?, hs]) ?_ ?_ <;> simp only [step, resume, hs]
      exact .refl m
    | some s =>
      have ha : s.allows t a = true := by simpa [Event.isCalm, hs] using he
      rw [step_resume hs]
      have ho : (Event.resume k a).origin? m = some (k, .stage s) := by simp [Event.origin?, hs]
      refine .act ho (.refl m) rfl hs (.of_answer h.up (h.tasks k s hs) ha ?_)
      rintro d c winner rfl
      exact h.late k d c winner hs
  | advance => exact .beside rfl ⟨rfl, rfl, rfl, rfl, rfl, le_rfl, rfl, rfl⟩ rfl
  | drop lease =>
    simp only [step, dropLease]
    split
    next id _ =>
      have a := (Aside.refl m).modifyPool id (f := (·.release m.now)) fun _ => rfl
      exact .beside rfl ⟨a.config, a.entries, a.slots, a.shuttingDown, a.tasks, a.nextTask,
        a.outcomes, a.connectionsOf⟩ rfl
    next => exact .beside rfl (.refl m) rfl
  | touch id | acquire id | release id =>
    exact .beside rfl ((Aside.refl m).modifyPool id fun _ => rfl) rfl
  | cancel => cases he

/-- A request for a pool, and whatever else goes with requests for pools alone, leaves it so. -/
theorem Calm.step (hf : m.Fresh) (h : Calm t m) (he : e.isCalm m t = true) :
    Calm t (m.step e) := by
  have hturn := CalmTurn.of_step hf h he
  generalize m.step e = m' at hturn ⊢
  cases hturn with
  | beside _ a _ =>
    refine ⟨a.shuttingDown.trans h.up, fun k s hs => ?_, fun k d c winner hs => ?_⟩
    · exact h.tasks k s (a.tasks ▸ hs)
    · rw [a.entries]
      exact h.late k d c winner (a.tasks ▸ hs)
  | @act m₀ k o _ a _ _ herrand =>
    have hother : ∀ {i s}, i ≠ k → m'.tasks.get? i = some s → m.tasks.get? i = some s := by
      intro i s hi hs
      rw [← hs, herrand.get?_other hi, a.tasks]
    have hself : ∀ {s}, m'.tasks.get? k = some s → m.tasks.get? k = some s ∨
        s.isCalm t = true ∧
          ∀ d c winner, s = .yielding d t c winner → m.entries.get? t = some winner := by
      intro s hs
      rcases herrand.tasks_cases with htasks | htasks | ⟨s', htasks, hcalm, -, hlate⟩
      · exact .inl (by rw [← hs, htasks, a.tasks])
      · simp [htasks, Assoc.get?_erase] at hs
      · simp only [htasks, Assoc.get?_insert, if_true, Option.some.injEq] at hs
        subst hs
        exact .inr ⟨hcalm, a.entries ▸ hlate⟩
    have hentries : ∀ {id}, m.entries.get? t = some id → m'.entries.get? t = some id :=
      fun ht => herrand.entries_kept (a.entries ▸ ht)
    refine ⟨herrand.frame.2.1.trans (a.shuttingDown.trans h.up), fun i s hs => ?_,
      fun i d c winner hs => ?_⟩
    · by_cases hi : i = k
      · subst hi
        rcases hself hs with hs | ⟨hcalm, -⟩
        · exact h.tasks _ s hs
        · exact hcalm
      · exact h.tasks i s (hother hi hs)
    · by_cases hi : i = k
      · subst hi
        rcases hself hs with hs | ⟨-, hlate⟩
        · exact hentries (h.late _ d c winner hs)
        · exact hentries (hlate d c winner rfl)
      · exact hentries (h.late i d c winner (hother hi hs))

end Tenancy.Manager
