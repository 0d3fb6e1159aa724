import Tenancy.Proofs.Manager.Shutdown

/-!
# Pools that are still made after the shutdown

A task that makes a pool when the manager is shut down goes on as before. When it comes to enter the
pool, no other one is in use any more, so that it closes its own; wherever it ends, it fails and
gives its slot back. `Nearer` lists what an event can mean for such a task.

`shutdown_final`: when the request that shuts the manager down has ended, no pool is in use and none
is open, and only tasks that made a pool before have slots; and so it stays.
-/

namespace Tenancy.Manager

variable {m m₁ m' : Manager} {task k : TaskId} {o : Origin} {e : Event} {s : Stage} {d : Demand}
  {t : TenantId} {n : Nat}

/-! ### What becomes of a task that makes a pool -/

/-- How many answers a task waits for, at most, before it enters its pool. -/
def Stage.waits : Stage → Nat
  | .lookingUp _ _ => 3
  | .opening _ _ _ _ => 2
  | .pinging _ _ _ _ _ => 1
  | _ => 0

/-- A task fails: its request does, or it tells so the task that started it. -/
def Fails (m m' : Manager) (k : TaskId) : Demand → Prop
  | .get | .lease => ∃ error, m'.outcomes.get? k = some (.failed error)
  | .warm parent => ∃ error, m'.reports = m.reports ++ [(parent, .warmed (.error error))]

/-- Whether an answer is the one that a task which makes a pool waits for. -/
def Stage.fits : Stage → Answer → Bool
  | .lookingUp _ _, .tenant _ | .opening _ _ _ _, .opened _ | .pinging _ _ _ _ _, .pinged _ => true
  | _, _ => false

/-- A task that makes a pool comes nearer to its end: it goes on for the same tenant, or it fails,
gives its slot back and leaves no open connections. -/
inductive Nearer (m : Manager) (k : TaskId) (s : Stage) (m' : Manager) : Prop
  | goesOn {s'} (h : m'.tasks.get? k = some s') (hslot : s'.hasSlot = true)
      (hd : s'.demand? = s.demand?) (hlt : s'.waits < s.waits)
  | fails {d : Demand} {t : TenantId} (h : m'.tasks.get? k = none) (hd : s.demand? = some (d, t))
      (hfails : Fails m m' k d) (hslots : m'.slots = m.slots - 1)
      (hclosed : ∀ c, s.connections? m.connectionsOf = some c → m'.ledger.isClosed c = true)

namespace Nearer

lemma of_fail (m₁ : Manager) (hd : s.demand? = some (d, t)) (hr : m₁.reports = m.reports)
    (hslots : m₁.slots = m.slots - 1)
    (hclosed : ∀ c, s.connections? m.connectionsOf = some c → m₁.ledger.isClosed c = true)
    (error : PoolError) : Nearer m k s (m₁.fail k d error) := by
  refine .fails (get?_fail m₁ k d error) hd ?_ ?_ ?_
  · cases d with
    | get | lease => exact ⟨error, by simp [fail, finish, Assoc.get?_insert]⟩
    | warm parent => exact ⟨error, congrArg (· ++ _) hr⟩
  · cases d <;> exact hslots
  · rw [ledger_fail]
    exact hclosed

/-- A task that has no connections yet gives up. -/
lemma of_giveUp (h : m.Settled) (hd : s.demand? = some (d, t))
    (hc : s.connections? m.connectionsOf = none) (error : PoolError) :
    Nearer m k s (m.giveUp k d error).settle := by
  have hsettled : (m.giveUp k d error).Settled := h.erase (tasks_fail m.giveSlot k d error)
  rw [settle_eq_self hsettled]
  refine of_fail (m := m) m.giveSlot hd rfl rfl (fun c hsome => ?_) error
  rw [hc] at hsome
  cases hsome

lemma of_rejected (h : m.Settled) {record : Tenant} {id : ConnectionsId} {deadline : Nat}
    (fault : PingFault) :
    Nearer m k (.pinging d t record id deadline) (m.await k (.rejecting d t id fault)).settle := by
  have hend : ((m.await k (.rejecting d t id fault)).answer k (.rejecting d t id fault)
      .closed).tasks = (m.await k (.rejecting d t id fault)).tasks.erase k :=
    tasks_fail _ k d _
  have hd : (Stage.pinging d t record id deadline).demand? = some (d, t) := rfl
  rw [settle_eq_answer h rfl rfl hend]
  refine of_fail (m := m) { m.await k (.rejecting d t id fault) with
    ledger := m.ledger.close id }.giveSlot hd rfl rfl ?_ _
  rintro c ⟨⟩
  simp [giveSlot, Ledger.isClosed_close]

/-- A pool that is entered too late is closed at once. -/
lemma of_enter (h : m.Settled) (hdown : Down m) {record : Tenant} {id : ConnectionsId}
    {deadline : Nat} : Nearer m k (.pinging d t record id deadline)
      (m.enter k d t record id).settle := by
  obtain ⟨reason, henter⟩ : ∃ reason, m.enter k d t record id =
      (m.enroll t record id).beginClose k t m.pools.length reason (.withdraw d) := by
    refine ⟨"created during shutdown", ?_⟩
    simp [enter, hdown.entries t, hdown.down, enroll]
  set stage : Stage := .closing t m.pools.length reason (.withdraw d) with hstage
  rw [henter]
  generalize hm' : (m.enroll t record id).beginClose k t m.pools.length reason (.withdraw d) = m'
  have hconnections : m'.connectionsOf m.pools.length = some id := by
    rw [← hm', connectionsOf_beginClose, connectionsOf_enroll_length]
  have hanswer : m'.answer k stage .closed = (m'.closeHeld stage).fail k d .closed :=
    afterClosing_eq m' k t m.pools.length reason (.withdraw d)
  have hend : (m'.answer k stage .closed).tasks = m'.tasks.erase k := by
    rw [hanswer, tasks_fail]
    rfl
  have htasks : m'.tasks = m.tasks.insert k stage := by
    rw [← hm']
    rfl
  rw [settle_eq_answer h htasks rfl hend, hanswer]
  refine of_fail _ rfl ?_ ?_ ?_ .closed
  · rw [← hm']
    rfl
  · rw [← hm']
    rfl
  · rintro c ⟨⟩
    simp [closeHeld, hstage, Stage.connections?, hconnections, Ledger.isClosed_close]

lemma of_afterFirstPing (h : m.Settled) (hdown : Down m) {record : Tenant} {id : ConnectionsId}
    {deadline : Nat} (result : Except PingFault Unit) :
    Nearer m k (.pinging d t record id deadline)
      (m.afterFirstPing k d t record id result).settle := by
  cases result with
  | error fault => exact of_rejected h fault
  | ok => exact of_enter h hdown

/-- An answer brings a task nearer to its end, if it is the one that the task waits for, or that the
deadline is over; any other one has no effect. -/
lemma of_answer (h : m.Settled) (hdown : Down m) (hs : m.tasks.get? k = some s)
    (hslot : s.hasSlot = true) (a : Answer) :
    Nearer m k s (m.answer k s a).settle ∨ s.fits a = false ∧ m.answer k s a = m := by
  have hnext : ∀ {m₁ : Manager} {s' : Stage}, m₁.tasks = m.tasks → s'.isClosing = false →
      s'.hasSlot = true → s'.demand? = s.demand? → s'.waits < s.waits →
      Nearer m k s (m₁.await k s').settle := by
    intro m₁ s' ht hc hslot' hd hlt
    have hsettled : (m₁.await k s').Settled := h.insert (congrArg (·.insert k s') ht) hc
    rw [settle_eq_self hsettled]
    exact .goesOn (by simp [await, Assoc.get?_insert]) hslot' hd hlt
  cases s with
  | lookingUp d t =>
    cases a with
    | tenant result =>
      left
      cases result with
      | error cause => exact of_giveUp h rfl rfl _
      | ok record =>
        simp only [answer, afterLookup]
        split
        next => exact hnext rfl rfl rfl rfl (Nat.lt_succ_self 2)
        next => exact of_giveUp h rfl rfl _
    | _ => exact .inr ⟨rfl, rfl⟩
  | opening d t record deadline =>
    cases a with
    | opened result =>
      left
      cases result with
      | error fault => exact of_giveUp h rfl rfl _
      | ok opened => exact hnext rfl rfl rfl rfl (Nat.lt_succ_self 1)
    | elapsed =>
      simp only [answer]
      split
      next => exact .inl (of_giveUp h rfl rfl _)
      next => exact .inr ⟨rfl, rfl⟩
    | _ => exact .inr ⟨rfl, rfl⟩
  | pinging d t record id deadline =>
    cases a with
    | pinged result => exact .inl (of_afterFirstPing h hdown result)
    | elapsed =>
      simp only [answer]
      split
      next => exact .inl (of_afterFirstPing h hdown _)
      next => exact .inr ⟨rfl, rfl⟩
    | _ => exact .inr ⟨rfl, rfl⟩
  | rejecting => cases h k _ hs
  | _ => cases hslot

/-- Nobody but the task itself changes what becomes of it. -/
theorem of_event (hf : m.Fresh) (h : m.Settled) (hdown : Down m) (hs : m.tasks.get? k = some s)
    (hslot : s.hasSlot = true) (he : e.isCancel = false) :
    (m.step e).settle.tasks.get? k = some s ∨ Nearer m k s (m.step e).settle := by
  have hlt := hf k s hs
  by_cases hk : ∃ o, e.origin? m = some (k, o)
  · obtain ⟨o, ho⟩ := hk
    obtain ⟨a, -, rfl, -, -⟩ := Event.exists_resume ho hlt
    rw [step_resume hs]
    rcases of_answer h hdown hs hslot a with hnearer | ⟨-, heq⟩
    · exact .inr hnearer
    · rw [heq, settle_eq_self h]
      exact .inl hs
  · have ht := Turn.of_step hf e
    have hkept := ht.get?_of_not_reached hlt (fun o ho => hk ⟨o, ho⟩) he
    rw [get?_settle (ht.fresh hf) (hlt.trans_le ht.nextTask_le), hkept]
    · exact .inl hs
    · rw [hkept]
      exact h k

end Nearer

/-! ### Until the task has ended -/

/-- Between two events after the shutdown, when no pool is in use any more. -/
structure Quelled (m : Manager) : Prop where
  fresh : m.Fresh
  settled : m.Settled
  down : Down m

lemma Quelled.event (h : Quelled m) (e : Event) : Quelled (m.step e).settle := by
  have hstep : ∀ {m : Manager} (e : Event), m.Fresh ∧ Down m → (m.step e).Fresh ∧ Down (m.step e) :=
    fun e h => ⟨h.1.step e, h.2.turn (Turn.of_step h.1 e)⟩
  have hsettle := settle_induction (I := fun m => m.Fresh ∧ Down m)
    (fun _ _ _ h _ _ => hstep _ h) (hstep e ⟨h.fresh, h.down⟩)
  exact ⟨hsettle.1, settled_settle _, hsettle.2⟩

lemma Quelled.runInMemory (h : Quelled m) (events : List Event) :
    Quelled (m.runInMemory events) := by
  induction events generalizing m with
  | nil => exact h
  | cons e rest ih => exact ih (h.event e)

/-- A task has ended, or makes a pool and waits for so many answers at most. -/
structure Within (m : Manager) (k : TaskId) (n : Nat) : Prop where
  started : k < m.nextTask
  waits : ∀ s, m.tasks.get? k = some s → s.hasSlot = true ∧ s.waits ≤ n

namespace Within

lemma quiet_of_none (hm : Quelled m) (hlt : k < m.nextTask) (hk : m.tasks.get? k = none)
    (he : e.isCancel = false) : (m.step e).settle.tasks.get? k = none := by
  have ht := Turn.of_step hm.fresh e
  have hkept : (m.step e).tasks.get? k = none :=
    (ht.get?_of_not_reached hlt (Event.origin?_ne_of_ended hlt hk) he).trans hk
  rw [get?_settle (ht.fresh hm.fresh) (hlt.trans_le ht.nextTask_le), hkept]
  simp [hkept]

lemma event (hm : Quelled m) (h : Within m k n) (he : e.isCancel = false) :
    Within (m.step e).settle k n := by
  have ht := Turn.of_step hm.fresh e
  refine ⟨h.started.trans_le (ht.nextTask_le.trans (nextTask_le_settle (ht.fresh hm.fresh))), ?_⟩
  intro s' hs'
  cases hs : m.tasks.get? k with
  | some s =>
    obtain ⟨hslot, hle⟩ := h.waits s hs
    rcases Nearer.of_event hm.fresh hm.settled hm.down hs hslot he with hstay | hnearer
    · rw [hstay] at hs'
      cases hs'
      exact ⟨hslot, hle⟩
    · cases hnearer with
      | goesOn hnext hslot' _ hlt =>
        rw [hnext] at hs'
        cases hs'
        exact ⟨hslot', hlt.le.trans hle⟩
      | fails hnone =>
        rw [hnone] at hs'
        cases hs'
  | none =>
    rw [quiet_of_none hm h.started hs he] at hs'
    cases hs'

/-- The answer that the task waits for is one less to come. -/
lemma answer (hm : Quelled m) (h : Within m k (n + 1)) {a : Answer}
    (hfit : ∀ s : Stage, s.waits = n + 1 → s.fits a = true) :
    Within (m.step (.resume k a)).settle k n := by
  by_cases hall : ∀ s, m.tasks.get? k = some s → s.waits ≤ n
  · exact event hm ⟨h.started, fun s hs => ⟨(h.waits s hs).1, hall s hs⟩⟩ rfl
  · push Not at hall
    obtain ⟨s, hs, hlt⟩ := hall
    obtain ⟨hslot, hle⟩ := h.waits s hs
    refine ⟨(event hm h rfl).started, fun s' hs' => ?_⟩
    rw [step_resume hs] at hs'
    rcases Nearer.of_answer hm.settled hm.down hs hslot a with hnearer | ⟨hmisfit, -⟩
    · cases hnearer with
      | goesOn hnext hslot' _ hlt' =>
        rw [hnext] at hs'
        cases hs'
        exact ⟨hslot', Nat.le_of_lt_succ (hlt'.trans_le hle)⟩
      | fails hnone =>
        rw [hnone] at hs'
        cases hs'
    · rw [hfit s (le_antisymm hle hlt)] at hmisfit
      cases hmisfit

lemma runInMemory (hm : Quelled m) (h : Within m k n) {events : List Event}
    (hcancel : ∀ e ∈ events, e.isCancel = false) : Within (m.runInMemory events) k n := by
  induction events generalizing m with
  | nil => exact h
  | cons e rest ih =>
    have hevent := event hm h (hcancel e (by simp))
    exact ih (hm.event e) hevent fun e' he' => hcancel e' (by simp [he'])

lemma answered (hm : Quelled m) (h : Within m k (n + 1)) {a : Answer} {events : List Event}
    (hcancel : ∀ e ∈ events, e.isCancel = false) (ha : .resume k a ∈ events)
    (hfit : ∀ s : Stage, s.waits = n + 1 → s.fits a = true) :
    Within (m.runInMemory events) k n := by
  obtain ⟨before, after, rfl⟩ := List.append_of_mem ha
  have hbefore : ∀ e ∈ before, e.isCancel = false := fun e he => hcancel e (by simp [he])
  have hm' := hm.runInMemory before
  rw [runInMemory_append]
  exact runInMemory (hm'.event _) (answer hm' (runInMemory hm h hbefore) hfit)
    fun e he => hcancel e (by simp [he])

/-- A task that is told what it waits for, one thing after another, ends. -/
theorem ended (hm : Quelled m) (h : Within m k 3) {record : Except StoreError Tenant}
    {opened : Except OpenFault (String × Nat)} {pinged : Except PingFault Unit}
    {events : List Event} (hcancel : ∀ e ∈ events, e.isCancel = false)
    (hsub : [.resume k (.tenant record), .resume k (.opened opened),
      .resume k (.pinged pinged)].Sublist events) :
    (m.runInMemory events).tasks.get? k = none := by
  obtain ⟨first, events, rfl, hfirst, hsub⟩ := List.cons_sublist_iff.1 hsub
  obtain ⟨second, third, rfl, hsecond, hsub⟩ := List.cons_sublist_iff.1 hsub
  have hthird := List.singleton_sublist.1 hsub
  have hm₁ := hm.runInMemory first
  have hm₂ := hm₁.runInMemory second
  have h₁ := answered hm h (fun e he => hcancel e (by simp [he])) hfirst
    (fun s hs => by cases s <;> simp_all [Stage.waits, Stage.fits])
  have h₂ := answered hm₁ h₁ (fun e he => hcancel e (by simp [he])) hsecond
    (fun s hs => by cases s <;> simp_all [Stage.waits, Stage.fits])
  have h₃ := answered hm₂ h₂ (fun e he => hcancel e (by simp [he])) hthird
    (fun s hs => by cases s <;> simp_all [Stage.waits, Stage.fits])
  rw [runInMemory_append, runInMemory_append]
  cases hs : ((((m.runInMemory first).runInMemory second).runInMemory third).tasks.get? k) with
  | none => rfl
  | some s =>
    obtain ⟨hslot, hle⟩ := h₃.waits s hs
    have hc := (hm₂.runInMemory third).settled k s hs
    cases s <;> simp_all [Stage.hasSlot, Stage.waits, Stage.isClosing]

end Within

/-! ### Who has slots -/

/-- A task makes a pool and has a slot for it. -/
def HasSlot (m : Manager) (k : TaskId) : Prop :=
  ∃ s, m.tasks.get? k = some s ∧ s.hasSlot = true

lemma Quiet.hasSlot_of (q : m.Quiet m₁) (h : m₁.HasSlot k) : m.HasSlot k := by
  obtain ⟨s, hs, hslot⟩ := h
  rcases q.get?_or_queued hs with hs | ⟨-, hqueued⟩
  · exact ⟨s, hs, hslot⟩
  · rw [Stage.hasSlot_of_isQueued hqueued] at hslot
    cases hslot

/-- When the manager is shut down, no task takes a slot. -/
lemma Move.hasSlot_of_shutDown (h : Move m task o m') (hat : o.At m task)
    (hdown : m'.shuttingDown = true) (hk : m'.HasSlot k) : m.HasSlot k := by
  obtain ⟨s, hs, hslot⟩ := hk
  have hended : ∀ {m₁ : Manager}, m.Quiet m₁ → (m₁.tasks.erase task).get? k = some s →
      m.HasSlot k := by
    intro m₁ q hs
    rw [Assoc.get?_erase] at hs
    split_ifs at hs
    exact q.hasSlot_of ⟨s, hs, hslot⟩
  have hwaits : ∀ {m₁ : Manager} {s' : Stage}, m.Quiet m₁ →
      (s'.hasSlot = true → o.hasSlot = true) → (m₁.tasks.insert task s').get? k = some s →
      m.HasSlot k := by
    intro m₁ s' q hkept hs
    rw [Assoc.get?_insert] at hs
    split_ifs at hs with heq
    · cases hs
      subst heq
      cases o with
      | call => cases hkept hslot
      | stage s₀ => exact ⟨s₀, hat, hkept hslot⟩
    · exact q.hasSlot_of ⟨s, hs, hslot⟩
  cases h with
  | stay => exact ⟨s, hs, hslot⟩
  | wait q hl => exact hwaits q (fun h => hl.hasSlot ▸ h) hs
  | leave q _ | finish q _ _ | report q _ | hand q _ _ _ | lend q _ _ _ => exact hended q hs
  | reserve q _ _ hopen _ _ => exact absurd (hopen.symm.trans hdown) (by simp)
  | @giveUp _ d _ _ q _ _ => cases d <;> exact hended q hs
  | yield q _ _ | withdraw q _ _ _ | close q _ _ _ => exact hwaits q (fun h => by cases h) hs
  | @enter _ d _ _ _ _ q _ _ _ =>
    rw [deliver_enroll] at hs
    cases d <;> exact hended q hs

lemma Turn.hasSlot_of_shutDown (h : Turn m e m') (hdown : m'.shuttingDown = true)
    (hk : m'.HasSlot k) : m.HasSlot k := by
  cases h with
  | act _ q _ hat hm => exact q.hasSlot_of (hm.hasSlot_of_shutDown hat hdown hk)
  | aside _ q => exact q.hasSlot_of hk
  | acquire | release | drop => exact hk
  | cancel =>
    obtain ⟨s, hs, hslot⟩ := hk
    simp only [Assoc.get?_filter] at hs
    exact ⟨s, Option.eq_some_of_filter_eq_some hs, hslot⟩

/-- Tasks that have slots some time after the shutdown had them before. -/
lemma hasSlot_of_runInMemory (hf : m.Fresh) (hdown : (m.step e).shuttingDown = true)
    (events : List Event) (hk : (m.runInMemory (e :: events)).HasSlot k) : m.HasSlot k := by
  have hstep : ∀ (m₂ : Manager) (e : Event),
      m₂.Fresh ∧ m₂.shuttingDown = true ∧ (m₂.HasSlot k → m.HasSlot k) →
      (m₂.step e).Fresh ∧ (m₂.step e).shuttingDown = true ∧
        ((m₂.step e).HasSlot k → m.HasSlot k) := by
    rintro m₂ e ⟨hf₂, hdown₂, h⟩
    have ht := Turn.of_step hf₂ e
    have hdown' := ht.shuttingDown hdown₂
    exact ⟨ht.fresh hf₂, hdown', fun hk => h (ht.hasSlot_of_shutDown hdown' hk)⟩
  have hfirst := settle_induction (I := fun m₂ =>
    m₂.Fresh ∧ m₂.shuttingDown = true ∧ (m₂.HasSlot k → m.HasSlot k))
    (fun m₂ _ _ h _ _ => hstep m₂ _ h)
    ⟨hf.step e, hdown, (Turn.of_step hf e).hasSlot_of_shutDown hdown⟩
  exact (runInMemory_induction hstep hfirst events).2.2 hk

/-! ### From the shutdown on -/

lemma Closing.runInMemory (hf : m.Fresh) (h : Closing m k) {events : List Event}
    (hcancel : ∀ e ∈ events, e.isCancel = false) : Closing (m.runInMemory events) k := by
  induction events generalizing m with
  | nil => exact h
  | cons e rest ih =>
    have hsettle := settle_induction (I := fun m => m.Fresh ∧ Closing m k)
      (fun m i s h _ _ => ⟨h.1.step _, h.2.step h.1 rfl⟩)
      ⟨hf.step e, h.step hf (hcancel e (by simp))⟩
    exact ih hsettle.1 hsettle.2 fun e' he' => hcancel e' (by simp [he'])

/-- When the request that shuts the manager down has ended, no pool is in use. -/
lemma Performs.quelled {c : Config} {past meanwhile : List Event}
    (h : Performs ((new c).runInMemory past) e k)
    (hcancel : ∀ e' ∈ meanwhile, e'.isCancel = false)
    (hended : ((new c).runInMemory (past ++ e :: meanwhile)).outcomes.get? k ≠ none) :
    Quelled ((new c).runInMemory (past ++ e :: meanwhile)) := by
  obtain ⟨-, hpast, -⟩ := regular_orderly_runInMemory c past
  obtain ⟨-, hr, -⟩ := regular_orderly_runInMemory c (past ++ e :: meanwhile)
  have hstep := h.closing hpast.fresh
  have hsettle := settle_induction (I := fun m => m.Fresh ∧ Closing m k)
    (fun m i s h _ _ => ⟨h.1.step _, h.2.step h.1 rfl⟩) ⟨hpast.fresh.step e, hstep⟩
  have hclosing := hsettle.2.runInMemory hsettle.1 hcancel
  have hnone := hr.get?_eq_none_of_ended hended
  refine ⟨hr.fresh, settled_runInMemory c _, ?_⟩
  rw [runInMemory_append] at hnone ⊢
  exact hclosing.isDown hnone

lemma Quelled.snapshot_eq_nil (h : Quelled m) : m.snapshot = [] := by
  refine List.eq_nil_iff_forall_not_mem.2 ?_
  rintro ⟨t, id⟩ hmem
  have hsome := (h.down.entries t).symm.trans (Assoc.get?_eq_some_iff.2 hmem)
  cases hsome

/-- When no pool is in use and no task closes one, all are closed. -/
lemma Quelled.closed (h : Quelled m) (hmap : Mapped m.entries m.pools) (hd : m.Disposed)
    {id : PoolId} {p : Pool} (hp : m.pools[id]? = some p) :
    p.closed = true ∧ m.ledger.isClosed p.connections = true := by
  constructor
  · by_contra hopen
    obtain ⟨t, ht⟩ := (hmap.unclosed_iff hp).1 (by simpa using hopen)
    rw [h.down.entries t] at ht
    cases ht
  · have hc : m.connectionsOf id = some p.connections := by simp [connectionsOf, hp]
    rcases (hd id _ hc).2 with hclosed | ⟨t, ht⟩ | ⟨k, t, reason, next, hk⟩
    · exact hclosed
    · rw [h.down.entries t] at ht
      cases ht
    · cases h.settled k _ hk

/-- Connections that are open are those that tasks try with a first ping. -/
lemma Quelled.exists_pinging (h : Quelled m) (hb : m.Booked) {c : ConnectionsId}
    (hc : m.ledger.isClosed c = false) :
    ∃ k d t record deadline, m.tasks.get? k = some (.pinging d t record c deadline) := by
  have hheld : c ∈ m.held := hb.held.mem_iff.2 (Ledger.mem_openIds.2 hc)
  rcases List.mem_append.1 hheld with hentry | htask
  · obtain ⟨t, id, ht, -⟩ := Assoc.mem_collect.1 hentry
    rw [h.down.entries t] at ht
    cases ht
  · obtain ⟨k, s, hs, hsome⟩ := Assoc.mem_collect.1 htask
    have hclosing := h.settled k s hs
    cases s with
    | pinging d t record id deadline =>
      cases hsome
      exact ⟨k, d, t, record, deadline, hs⟩
    | rejecting | yielding | closing => cases hclosing
    | _ => cases hsome

/-- Over a backend in memory, however tasks take turns, as long as none is cancelled: when the
request that shuts the manager down has ended, and ever after, no pool is in use, and all that ever
were are closed with their connections. The slots are those of the tasks that make a pool; such a
task had its slot before the manager was shut down, and it alone can hold connections that are open.
Every event leaves it where it is or brings it nearer to its end, which is an error, and when it has
been told what it waits for it has ended. -/
theorem shutdown_final (c : Config) (past : List Event) (e : Event) (k : TaskId)
    (meanwhile later : List Event)
    (hcancel : ∀ e' ∈ past ++ e :: (meanwhile ++ later), e'.isCancel = false)
    (hperforms : Performs ((new c).runInMemory past) e k)
    (hended : ((new c).runInMemory (past ++ e :: meanwhile)).outcomes.get? k ≠ none) :
    let m := (new c).runInMemory (past ++ e :: (meanwhile ++ later))
    m.snapshot = [] ∧
    (∀ (id : PoolId) (p : Pool), m.pools[id]? = some p →
      p.closed = true ∧ m.ledger.isClosed p.connections = true) ∧
    m.slots = m.creations ∧
    (∀ i, m.HasSlot i → ∀ before e', before ++ [e'] <+: past ++ [e] →
      (((new c).runInMemory before).step e').shuttingDown = true →
        ((new c).runInMemory before).HasSlot i) ∧
    (∀ id, m.ledger.isClosed id = false →
      ∃ i d t record deadline, m.tasks.get? i = some (.pinging d t record id deadline)) ∧
    ∀ i s, m.tasks.get? i = some s → s.hasSlot = true →
      (∀ e', e'.isCancel = false →
        (m.step e').settle.tasks.get? i = some s ∨ Nearer m i s (m.step e').settle) ∧
      ∀ record opened pinged next, (∀ e' ∈ next, e'.isCancel = false) →
        [.resume i (.tenant record), .resume i (.opened opened),
          .resume i (.pinged pinged)].Sublist next →
        (m.runInMemory next).tasks.get? i = none := by
  intro m
  have hquelled : Quelled m := by
    have hanswered := hperforms.quelled (fun e' he' => hcancel e' (by simp [he'])) hended
    have hlater := hanswered.runInMemory later
    rwa [← runInMemory_append, List.append_assoc, List.cons_append] at hlater
  obtain ⟨-, hr, -⟩ := regular_orderly_runInMemory c (past ++ e :: (meanwhile ++ later))
  obtain ⟨events, hrun, hevents⟩ := exists_run_eq (new c) (past ++ e :: (meanwhile ++ later))
  have hm : m = (new c).run events := hrun
  have hnone : ∀ e ∈ events, e.isCancel = false := by
    intro e he
    rcases hevents e he with he | he
    · exact hcancel e he
    · exact isCancel_of_isClosed he
  refine ⟨hquelled.snapshot_eq_nil,
    fun id p => hquelled.closed hr.mapped (hm ▸ disposed_run c hnone), ?_, ?_,
    fun id => hquelled.exists_pinging (hm ▸ booked_run c hnone), ?_⟩
  · have hslots : m.slots = m.snapshot.length + m.creations := hm ▸ (accounted_run c hnone).slots
    rw [hslots, hquelled.snapshot_eq_nil]
    simp
  · intro i hi before e' hprefix hdown
    obtain ⟨between, hbetween⟩ := hprefix
    have hsplit : past ++ e :: (meanwhile ++ later) =
        before ++ e' :: (between ++ (meanwhile ++ later)) := by
      have h := congrArg (· ++ (meanwhile ++ later)) hbetween
      simpa using h.symm
    have hi' : ((new c).runInMemory (past ++ e :: (meanwhile ++ later))).HasSlot i := hi
    rw [hsplit, runInMemory_append] at hi'
    obtain ⟨-, hbefore, -⟩ := regular_orderly_runInMemory c before
    exact hasSlot_of_runInMemory hbefore.fresh hdown _ hi'
  · intro i s hs hslot
    refine ⟨fun e' he' =>
      Nearer.of_event hquelled.fresh hquelled.settled hquelled.down hs hslot he', ?_⟩
    intro record opened pinged next hnext hsub
    refine Within.ended hquelled ⟨hquelled.fresh i s hs, fun s' hs' => ?_⟩ hnext hsub
    rw [hs] at hs'
    cases hs'
    exact ⟨hslot, by cases s <;> simp [Stage.waits]⟩

/-- A pool is in use, both loops are asleep, and two requests make pools for other tenants: one of
them tries its connections, and the other one waits for the record. -/
def underWay : List Event :=
  .call (.get "acme") :: acmeOpens 0 ++
    [.call .start, .resume 2 .proceed, .resume 3 .proceed, .call (.lease "globex"),
      .call (.get "initech"), .resume 4 (.tenant (.ok globex)),
      .resume 4 (.opened (.ok ("globex_db", 2)))]

/-- The loops end, and the request goes on that shuts the manager down. -/
def loopsEnd : List Event := [.resume 2 .proceed, .resume 3 .proceed, .resume 6 .proceed]

lemma performs_underWay :
    Performs ((new (.new "app" "secret")).runInMemory underWay) (.call .close) 6 := by
  have hnext : ((new (.new "app" "secret")).runInMemory underWay).nextTask = 6 := by decide +kernel
  refine ⟨by decide +kernel, by decide +kernel, .call .close, ?_, rfl⟩
  rw [Event.origin?, hnext]

/-- The two requests still make their pools when the other one is closed. They have the slots, one
of them has the only open connections, and when they answer it is closed. -/
theorem shutdown_final_underWay :
    let start := new (.new "app" "secret")
    let m := start.runInMemory (underWay ++ .call .close :: (loopsEnd ++ [.call (.get "acme")]))
    Performs (start.runInMemory underWay) (.call .close) 6 ∧
    m.snapshot = [] ∧ m.pools.length = 1 ∧ m.slots = m.creations ∧ m.slots = 2 ∧
    m.HasSlot 4 ∧ (∀ i, m.HasSlot i → (start.runInMemory underWay).HasSlot i) ∧
    m.ledger.isClosed 1 = false ∧
    (∃ s, m.tasks.get? 4 = some s ∧ Nearer m 4 s (m.step (.resume 4 (.pinged (.ok ())))).settle) ∧
    (m.runInMemory (acmeOpens 5)).tasks.get? 5 = none := by
  have hcancel : ∀ e ∈ underWay ++ Event.call .close :: (loopsEnd ++ [.call (.get "acme")]),
      e.isCancel = false := by decide
  obtain ⟨hempty, -, hslots, hbefore, -, hfates⟩ := shutdown_final (.new "app" "secret") underWay
    (.call .close) 6 loopsEnd [.call (.get "acme")] hcancel performs_underWay (by decide +kernel)
  intro start m
  have hdown : ((start.runInMemory underWay).step (.call .close)).shuttingDown = true := by
    decide +kernel
  have hping : (m.tasks.get? 4).map Stage.hasSlot = some true := by decide +kernel
  have hlook : (m.tasks.get? 5).map Stage.hasSlot = some true := by decide +kernel
  have hleft : (m.step (.resume 4 (.pinged (.ok ())))).settle.tasks.get? 4 = none := by
    decide +kernel
  obtain ⟨s, hs, hslot⟩ := Option.map_eq_some_iff.1 hping
  obtain ⟨s', hs', hslot'⟩ := Option.map_eq_some_iff.1 hlook
  refine ⟨performs_underWay, hempty, by decide +kernel, hslots, by decide +kernel, ⟨s, hs, hslot⟩,
    fun i hi => hbefore i hi underWay _ (List.prefix_refl _) hdown, by decide +kernel,
    ⟨s, hs, ?_⟩, ?_⟩
  · refine ((hfates 4 s hs hslot).1 (.resume 4 (.pinged (.ok ()))) rfl).resolve_left ?_
    rw [hleft]
    exact nofun
  · exact (hfates 5 s' hs' hslot').2 _ _ _ (acmeOpens 5) (by decide) (List.Sublist.refl _)

end Tenancy.Manager
