import Tenancy.Proofs.Manager.Closers
import Tenancy.Proofs.Manager.Kinship

/-!
# What a sweep touches

A task that goes through all pools does so with those that are in use when it begins. It takes its
time, and meanwhile pools are closed and others come into use, also of the same tenants. `Confined`
says that whatever the task has still to do, itself or by tasks that it has started, is about the
pools that it found. `sweeps_confined` says what follows, and how sweeps and other requests that
would close the same pools get on with each other.
-/

namespace Tenancy.Manager

variable {m m₁ m' : Manager} {task k : TaskId} {o : Origin} {e : Event} {s : Stage} {t : TenantId}
  {id id' : PoolId} {found : List (TenantId × PoolId)} {sweeper : Sweeper} {duty : Duty} {n : Nat}

/-! ### Sweeps -/

/-- Whether a task goes through pools, to evict some or to ping all. -/
def Stage.sweeps : Stage → Bool
  | .closing _ _ _ (.evict _ _ _) | .closing _ _ _ (.probe _ _) | .probing _ _ => true
  | _ => false

/-- Whether the task may begin here to go through all pools. -/
def Origin.beginsSweep : Origin → Bool
  | .call .evict | .call .checkHealth | .stage (.loopSleeping _ _) => true
  | _ => false

/-- With an event a task may begin to go through all pools. -/
def BeginsSweep (m : Manager) (e : Event) (k : TaskId) : Prop :=
  ∃ o, e.origin? m = some (k, o) ∧ o.beginsSweep = true

/-- A task goes through pools. -/
def isSweeping (m : Manager) (k : TaskId) : Bool := (m.tasks.get? k).elim false Stage.sweeps

/-- An event reaches a task, or one that reports to it. -/
def Event.Serves (m : Manager) (e : Event) (k : TaskId) : Prop :=
  ∃ task o, e.origin? m = some (task, o) ∧ (task = k ∨ o.parent? = some k)

/-- A pool stays as it is, in use or not. -/
structure Untouched (m m' : Manager) (id : PoolId) : Prop where
  pool : m'.pools[id]? = m.pools[id]?
  entries : ∀ t, m'.entries.get? t = some id ↔ m.entries.get? t = some id

lemma exists_of_isSweeping (h : m.isSweeping k = true) :
    ∃ s, m.tasks.get? k = some s ∧ s.sweeps = true := by
  cases hs : m.tasks.get? k with
  | none => simp [isSweeping, hs] at h
  | some s => exact ⟨s, rfl, by simpa [isSweeping, hs] using h⟩

/-- An answer to a task that goes through pools is one of the events of the sweep. -/
lemma serves_of_isSweeping (h : m.isSweeping k = true) (a : Answer) :
    (Event.resume k a).Serves m k := by
  obtain ⟨s, hs, -⟩ := exists_of_isSweeping h
  exact ⟨k, .stage s, by rw [Event.origin?, hs, Option.map_some], .inl rfl⟩

namespace Untouched

lemma of_eq (hp : m'.pools = m.pools) (he : m'.entries = m.entries) : Untouched m m' id :=
  ⟨by rw [hp], fun _ => by rw [he]⟩

lemma trans (h : Untouched m m₁ id) (h' : Untouched m₁ m' id) : Untouched m m' id :=
  ⟨h'.pool.trans h.pool, fun t => (h'.entries t).trans (h.entries t)⟩

lemma of_modifyPool (h : id' ≠ id) (f : Pool → Pool) : Untouched m (m.modifyPool id' f) id := by
  refine ⟨?_, fun _ => .rfl⟩
  rw [modifyPool, List.getElem?_modify]
  cases m.pools[id]? <;> simp [h]

lemma of_beginClose (ht : m.entries.get? t = some id') (h : id' ≠ id) (reason : String)
    (next : Next) : Untouched m (m.beginClose task t id' reason next) id := by
  refine ⟨(of_modifyPool (m := m) h fun p => { p with closed := true }).pool, fun t' => ?_⟩
  simp only [beginClose, modifyPool, giveSlot, await, Assoc.get?_erase]
  split_ifs with heq
  · subst heq
    simp [ht, h]
  · rfl

/-! ### What a sweep does to other pools -/

lemma of_finishSweep (sweeper : Sweeper) (loop : Loop) (outcome : Outcome) :
    Untouched m (m.finishSweep task sweeper loop outcome) id := by
  cases sweeper with
  | caller => exact of_eq rfl rfl
  | loop =>
    simp only [finishSweep, rest]
    split <;> exact of_eq rfl rfl

lemma of_evictRest (count : Nat) {pools : List (TenantId × PoolId)} (h : ∀ t, (t, id) ∉ pools) :
    Untouched m (m.evictRest task sweeper count pools) id := by
  induction pools with
  | nil => exact of_finishSweep _ _ _
  | cons x rest ih =>
    obtain ⟨t, id'⟩ := x
    have hrest := ih fun t' ht' => h t' (List.mem_cons_of_mem _ ht')
    simp only [evictRest]
    split
    next =>
      split
      next hholds =>
        refine of_beginClose (by simpa [holds] using hholds) ?_ _ _
        rintro rfl
        exact h t List.mem_cons_self
      next => exact hrest
    next => exact hrest

lemma of_awaitProbes (sweep : HealthSweep) :
    Untouched m (m.awaitProbes task sweeper sweep) id := by
  unfold awaitProbes
  split
  next => exact of_eq rfl rfl
  next => exact of_finishSweep _ _ _

lemma of_spawnAll (m : Manager) (stages : List Stage) : Untouched m (m.spawnAll stages) id := by
  simp only [spawnAll]
  induction stages generalizing m with
  | nil => exact of_eq rfl rfl
  | cons s rest ih =>
    have hspawn : Untouched m (m.spawn s) id := of_eq rfl rfl
    exact hspawn.trans (ih (m.spawn s))

lemma of_beginCheck : Untouched m (m.beginCheck task sweeper) id :=
  (of_spawnAll m _).trans (of_awaitProbes _)

lemma of_noteProbe (h : id' ≠ id) (sweep : HealthSweep) (t : TenantId)
    (result : Except PingFault Unit) :
    Untouched m (m.noteProbe task sweeper sweep t id' result) id := by
  cases result with
  | ok _ => exact (of_modifyPool h _).trans (of_awaitProbes _)
  | error fault =>
    simp only [noteProbe]
    split
    next hclose =>
      simp only [Bool.and_eq_true, holds, decide_eq_true_eq] at hclose
      exact (of_modifyPool h _).trans (of_beginClose hclose.2 h _ _)
    next => exact (of_modifyPool h _).trans (of_awaitProbes _)

lemma not_mem_snapshot (h : m.Gone id) (t : TenantId) : (t, id) ∉ m.snapshot :=
  fun ht => h t (Assoc.get?_eq_some_iff.2 ht)

/-- When a sweep begins it may evict the first pool at once. -/
lemma of_begins (h : m.BeginsSweep e k) (hg : m.Gone id) : Untouched m (m.step e) id := by
  obtain ⟨o, ho, hbegins⟩ := h
  cases Event.Drives.of_origin? ho with
  | call request =>
    have hnext : Untouched m { m with nextTask := m.nextTask + 1 } id := of_eq rfl rfl
    cases request with
    | evict => exact hnext.trans (of_evictRest 0 (not_mem_snapshot hg))
    | checkHealth => exact hnext.trans of_beginCheck
    | _ => cases hbegins
  | @resume _ s a hs =>
    rw [step_resume hs]
    cases s with
    | loopSleeping loop wake =>
      cases a with
      | elapsed =>
        simp only [answer]
        split
        next =>
          cases loop with
          | eviction => exact of_evictRest 0 (not_mem_snapshot hg)
          | health => exact of_beginCheck
        next => exact of_eq rfl rfl
      | proceed =>
        simp only [answer]
        split <;> exact of_eq rfl rfl
      | _ => exact of_eq rfl rfl
    | _ => cases hbegins

end Untouched

/-! ### What a sweep still has to do -/

/-- All that a task has still to do is about pools that were found. -/
structure Confined (m : Manager) (k : TaskId) (found : List (TenantId × PoolId)) : Prop where
  swept : ∀ s, m.tasks.get? k = some s → ∀ x ∈ s.swept, x ∈ found
  probes : ∀ j s, m.tasks.get? j = some s → s.parent? = some k → ∃ x ∈ found, s.probe? = some x
  answers : ∀ t id result, (k, .probed t id result) ∈ m.reports → (t, id) ∈ found

/-- When a sweep begins, nothing is left to do of an earlier one. -/
lemma BeginsSweep.confined (hf : m.Fresh) (hkin : m.Kin) (h : m.BeginsSweep e k) :
    Confined (m.step e) k m.snapshot := by
  obtain ⟨o, ho, hbegins⟩ := h
  have c := Course.of_step ho
  have hparent : o.parent? = none := by
    cases o with
    | call => rfl
    | stage s => cases s <;> first | rfl | cases hbegins
  have hswept : ∀ x ∈ o.swept m, x ∈ m.snapshot := by
    cases o with
    | call request => cases request <;> first | exact fun _ => id | exact nofun
    | stage s =>
      cases s with
      | loopSleeping loop wake => cases loop <;> first | exact fun _ => id | exact nofun
      | _ => cases hbegins
  have hbefore (s : Stage) (hs : m.tasks.get? k = some s) :
      s.awaitsReports = false ∧ s.swept = [] := by
    cases Event.Drives.of_origin? ho with
    | call =>
      rw [hf.get?_nextTask] at hs
      cases hs
    | resume a hs' =>
      rw [hs'] at hs
      cases hs
      cases s <;> first | exact ⟨rfl, rfl⟩ | cases hbegins
  have hnone : m.expectsReports k ≠ true := by
    intro hexpects
    obtain ⟨s, hs, hawaits⟩ := hkin k hexpects
    rw [(hbefore s hs).1] at hawaits
    cases hawaits
  refine ⟨fun s hs x hx => ?_, fun j s hj hp => ?_, fun t id result hr => ?_⟩
  · rcases c.tasks k s hs with hold | ⟨-, hsucc⟩ | hstarted
    · rw [(hbefore s hold).2] at hx
      cases hx
    · exact hswept x (hsucc.swept x hx)
    · cases hstarted <;> cases hx
  · rcases c.tasks j s hj with hold | ⟨-, hsucc⟩ | hstarted
    · exact absurd (expectsReports_of_child hold hp) hnone
    · rw [hsucc.parent, hparent] at hp
      cases hp
    · cases hstarted with
      | warm ho' =>
        subst ho'
        cases hbegins
      | probe _ hmem => exact ⟨_, hmem, rfl⟩
      | loop => cases hp
  · rcases c.reports _ hr with hold | htells
    · exact absurd (expectsReports_iff.2 (.inr ⟨_, hold⟩)) hnone
    · exact absurd (htells.parent.symm.trans hparent) (by simp)

/-- A task that pings a pool for another one goes on to do so. -/
lemma probe?_answer {x : TenantId × PoolId} {s' : Stage} (hat : m.tasks.get? task = some s)
    (hx : s.probe? = some x) (a : Answer)
    (hs' : (m.answer task s a).tasks.get? task = some s') : s'.probe? = some x := by
  have hstay {s₁ : Stage} (h : m.tasks.get? task = some s₁) : s₁.probe? = some x := by
    rw [hat] at h
    cases h
    exact hx
  have hreport {parent : TaskId} {r : Report} :
      (m.report task parent r).tasks.get? task ≠ some s' := by
    simp [report, leave, Assoc.get?_erase]
  cases s with
  | probeQueued parent t id =>
    cases a with
    | proceed =>
      simp only [answer, get?_await] at hs'
      cases hs'
      exact hx
    | _ => exact hstay hs'
  | probePinging parent t id deadline =>
    cases a with
    | pinged result => exact absurd hs' hreport
    | elapsed =>
      simp only [answer] at hs'
      split at hs'
      · exact absurd hs' hreport
      · exact hstay hs'
    | _ => exact hstay hs'
  | _ => cases hx

/-- An event that reaches no task neither starts one nor reports anything. -/
lemma subset_of_unreached (ho : e.origin? m = none) :
    (∀ k s, (m.step e).tasks.get? k = some s → m.tasks.get? k = some s) ∧
      ∀ r ∈ (m.step e).reports, r ∈ m.reports := by
  cases e with
  | cancel task =>
    simp only [step, cancel]
    split
    next =>
      split
      next => exact ⟨fun _ _ => id, fun _ => id⟩
      next =>
        refine ⟨fun k s hs => ?_, fun r hr => (List.mem_filter.1 hr).1⟩
        rw [Assoc.get?_filter] at hs
        exact Option.eq_some_of_filter_eq_some hs
    next => exact ⟨fun _ _ => id, fun _ => id⟩
  | _ =>
    obtain ⟨htasks, hreports, -⟩ := tasks_of_unreached ho rfl
    rw [htasks, hreports]
    exact ⟨fun _ _ => id, fun _ => id⟩

/-- As long as the sweep goes on, what it has to do is about the same pools. -/
lemma Confined.step (hf : m.Fresh) (h : Confined m k found) (hk : m.isSweeping k = true)
    (e : Event) : Confined (m.step e) k found := by
  obtain ⟨s₀, hs₀, hsweeps⟩ := exists_of_isSweeping hk
  cases ho : e.origin? m with
  | none =>
    obtain ⟨htasks, hreports⟩ := subset_of_unreached ho
    exact ⟨fun s hs => h.swept s (htasks k s hs), fun j s hj => h.probes j s (htasks j s hj),
      fun t id result hr => h.answers t id result (hreports _ hr)⟩
  | some reached =>
    obtain ⟨task, o⟩ := reached
    have c := Course.of_step ho
    have hself (heq : task = k) : o = .stage s₀ := by
      subst heq
      cases Event.Drives.of_origin? ho with
      | call =>
        rw [hf.get?_nextTask] at hs₀
        cases hs₀
      | resume a hs =>
        rw [hs] at hs₀
        cases hs₀
        rfl
    have hchild (hp : o.parent? = some k) : ∃ a s₁ x, e = .resume task a ∧ o = .stage s₁ ∧
        m.tasks.get? task = some s₁ ∧ x ∈ found ∧ s₁.probe? = some x := by
      cases Event.Drives.of_origin? ho with
      | call => cases hp
      | resume a hs =>
        obtain ⟨x, hx, hprobe⟩ := h.probes task _ hs hp
        exact ⟨a, _, x, rfl, rfl, hs, hx, hprobe⟩
    refine ⟨fun s hs x hx => ?_, fun j s hj hp => ?_, fun t id result hr => ?_⟩
    · rcases c.tasks k s hs with hold | ⟨heq, hsucc⟩ | hstarted
      · exact h.swept s hold x hx
      · have hmem := hsucc.swept x hx
        rw [hself heq.symm] at hmem
        cases s₀ with
        | closing t id reason next => exact h.swept _ hs₀ x hmem
        | probing => cases hmem
        | _ => cases hsweeps
      · cases hstarted <;> cases hx
    · rcases c.tasks j s hj with hold | ⟨rfl, hsucc⟩ | hstarted
      · exact h.probes j s hold hp
      · obtain ⟨a, s₁, x, rfl, -, hs₁, hx, hprobe⟩ := hchild (hsucc.parent.symm.trans hp)
        rw [step_resume hs₁] at hj
        exact ⟨x, hx, probe?_answer hs₁ hprobe a hj⟩
      · -- A task that goes through pools starts no others.
        cases hstarted with
        | warm ho' =>
          cases hp
          rw [hself rfl] at ho'
          cases ho'
          cases hsweeps
        | probe hbegins =>
          cases hp
          rw [hself rfl] at hbegins
          cases s₀ <;> first | cases hbegins | cases hsweeps
        | loop => cases hp
    · rcases c.reports _ hr with hold | htells
      · exact h.answers t id result hold
      · obtain ⟨a, s₁, x, -, rfl, -, hx, hprobe⟩ := hchild htells.parent
        have heq := (htells.probe t id result rfl).symm.trans hprobe
        cases heq
        exact hx

lemma mem_of_nextReport? {r : Report} (h : m.nextReport? k = some r) : (k, r) ∈ m.reports := by
  obtain ⟨⟨k', r'⟩, hfind, rfl⟩ := Option.map_eq_some_iff.1 h
  have hk := List.find?_some hfind
  simp only [decide_eq_true_eq] at hk
  exact hk ▸ List.mem_of_find?_eq_some hfind

/-- No event of the sweep touches a pool that was not found. -/
lemma Confined.untouched (hf : m.Fresh) (h : Confined m k found) (hk : m.isSweeping k = true)
    (he : e.Serves m k) (hid : ∀ t, (t, id) ∉ found) : Untouched m (m.step e) id := by
  obtain ⟨s₀, hs₀, hsweeps⟩ := exists_of_isSweeping hk
  obtain ⟨task, o, ho, hserves⟩ := he
  cases Event.Drives.of_origin? ho with
  | call =>
    rcases hserves with rfl | hp
    · rw [hf.get?_nextTask] at hs₀
      cases hs₀
    · cases hp
  | @resume _ s a hs =>
    rw [step_resume hs]
    rcases hserves with rfl | hp
    · rw [hs] at hs₀
      cases hs₀
      have hclosed (ledger : Ledger) (closures : List (TenantId × String)) :
          Untouched m { m with ledger, closures } id := .of_eq rfl rfl
      cases s₀ with
      | closing t id' reason next =>
        cases a with
        | closed =>
          cases next with
          | evict sweeper rest count =>
            exact (hclosed _ _).trans
              (.of_evictRest _ fun t ht => hid t (h.swept _ hs _ ht))
          | probe sweeper sweep => exact (hclosed _ _).trans (.of_awaitProbes _)
          | _ => cases hsweeps
        | _ => exact .of_eq rfl rfl
      | probing sweeper sweep =>
        cases a with
        | proceed =>
          simp only [answer, absorbProbe]
          split
          next t id' result hr =>
            have hne : id' ≠ id := by
              rintro rfl
              exact hid t (h.answers t id' result (mem_of_nextReport? hr))
            have hdrop : Untouched m (m.dropReport task) id := .of_eq rfl rfl
            exact hdrop.trans (.of_noteProbe hne _ _ _)
          next => exact .of_eq rfl rfl
        | _ => exact .of_eq rfl rfl
      | _ => cases hsweeps
    · obtain ⟨x, -, hprobe⟩ := h.probes task s hs hp
      cases s with
      | probeQueued | probePinging =>
        cases a with
        | elapsed =>
          simp only [answer]
          first | exact .of_eq rfl rfl | split <;> exact .of_eq rfl rfl
        | _ => exact .of_eq rfl rfl
      | _ => cases hprobe

/-! ### Pools that are no longer their tenants' -/

/-- A sweep passes over pools that are no longer their tenants'. -/
lemma evictRest_append {stale : List (TenantId × PoolId)}
    (h : ∀ x ∈ stale, m.holds x.1 x.2 = false) (count : Nat) (rest : List (TenantId × PoolId)) :
    m.evictRest task sweeper count (stale ++ rest) = m.evictRest task sweeper count rest := by
  induction stale with
  | nil => rfl
  | cons x stale ih =>
    obtain ⟨t, id⟩ := x
    have hholds : m.holds t id = false := h (t, id) List.mem_cons_self
    have hrest := ih fun x hx => h x (List.mem_cons_of_mem _ hx)
    rw [List.cons_append, evictRest, hholds]
    split
    next => exact hrest
    next => exact hrest

/-- So does the request that closes all pools. -/
lemma closeRest_append {stale : List (TenantId × PoolId)}
    (h : ∀ x ∈ stale, m.holds x.1 x.2 = false) (count : Option Nat)
    (rest : List (TenantId × PoolId)) :
    m.closeRest task count (stale ++ rest) = m.closeRest task count rest := by
  induction stale with
  | nil => rfl
  | cons x stale ih =>
    obtain ⟨t, id⟩ := x
    have hholds : m.holds t id = false := h (t, id) List.mem_cons_self
    rw [List.cons_append, closeRest, hholds]
    exact ih fun x hx => h x (List.mem_cons_of_mem _ hx)

/-- A pool that does not answer is only marked if it is no longer its tenant's. -/
lemma noteProbe_of_stale (h : m.holds t id = false) (sweep : HealthSweep) (fault : PingFault) :
    m.noteProbe task sweeper sweep t id (.error fault) =
      (m.modifyPool id fun p => (p.markUnhealthy m.now).2).awaitProbes task sweeper
        { sweep with checked := sweep.checked + 1, failed := sweep.failed + 1 } := by
  have hholds : (m.modifyPool id fun p => (p.markUnhealthy m.now).2).holds t id = false := h
  simp only [noteProbe, hholds, Bool.and_false, Bool.false_eq_true, if_false]

/-! ### What a sweep counts -/

lemma Stage.exists_account?_of_sweeps (h : s.sweeps = true) : ∃ x, s.account? = some x := by
  cases s with
  | closing t id reason next => cases next <;> first | exact ⟨_, rfl⟩ | cases h
  | probing => exact ⟨_, rfl⟩
  | _ => cases h

lemma GoesOn.of_isSweeping (h : GoesOn m k duty n) (hk : m.isSweeping k = true) :
    Counts m k duty n := by
  cases h with
  | still h => exact h
  | rests _ h =>
    obtain ⟨s, hs, hsweeps⟩ := exists_of_isSweeping hk
    obtain ⟨x, hx⟩ := Stage.exists_account?_of_sweeps hsweeps
    rw [h s hs] at hx
    cases hx

/-- A sweep that begins has closed no pool. -/
lemma BeginsSweep.counts (h : m.BeginsSweep e k) (hk : (m.step e).isSweeping k = true) :
    ∃ duty, Counts (m.step e) k duty 0 := by
  suffices ∃ duty, GoesOn (m.step e) k duty 0 from this.imp fun _ h => h.of_isSweeping hk
  obtain ⟨o, ho, hbegins⟩ := h
  cases Event.Drives.of_origin? ho with
  | call request =>
    cases request with
    | evict | checkHealth => exact ⟨_, .of_call rfl⟩
    | _ => cases hbegins
  | @resume _ s a hs =>
    rw [step_resume hs] at hk ⊢
    have hidle : m.isSweeping k ≠ true := by
      intro hsweeping
      obtain ⟨s', hs', hsweeps⟩ := exists_of_isSweeping hsweeping
      rw [hs] at hs'
      cases hs'
      cases s with
      | loopSleeping => cases hsweeps
      | _ => cases hbegins
    cases s with
    | loopSleeping loop wake =>
      cases a with
      | elapsed =>
        simp only [answer] at hk ⊢
        split at hk
        next hdue =>
          rw [if_pos hdue]
          exact GoesOn.of_beginRound m k loop
        next => exact absurd hk hidle
      | proceed =>
        simp only [answer] at hk
        split at hk
        next => simp [isSweeping, leave, Assoc.get?_erase] at hk
        next => exact absurd hk hidle
      | _ => exact absurd hk hidle
    | _ => cases hbegins

/-- As long as a sweep goes on, also that of a loop, it has counted the pools that it has closed. -/
lemma Counts.run (hr : Regular m) (h : Counts m k duty n) {later : List Event}
    (hk : ∀ early late, later = early ++ late → (m.run early).isSweeping k = true) :
    Counts (m.run later) k duty (n + (m.closedBy k later).length) := by
  induction later generalizing m n with
  | nil => exact h
  | cons e rest ih =>
    have hnext : (m.step e).isSweeping k = true := hk [e] rest rfl
    obtain ⟨s, hs, -⟩ := exists_of_isSweeping (hk [] _ rfl)
    obtain ⟨s', hs', -⟩ := exists_of_isSweeping hnext
    have hstep : Counts (m.step e) k duty (n + (m.closedBy k [e]).length) := by
      rcases h.step hr (hr.fresh k s hs) e with hgoes | ⟨hcancelled, -⟩
      · exact hgoes.of_isSweeping hnext
      · rw [hcancelled.1] at hs'
        cases hs'
    have hrest := ih (hr.step e) hstep fun early late heq =>
      hk (e :: early) late (congrArg (e :: ·) heq)
    have happend : m.closedBy k (e :: rest) = m.closedBy k [e] ++ (m.step e).closedBy k rest :=
      closedBy_append m k [e] rest
    rwa [happend, List.length_append, ← Nat.add_assoc]

/-! ### Every run -/

/-- From when a sweep has begun, all that it has to do is about the pools that it found. -/
lemma Confined.run (hf : m.Fresh) (h : Confined m k found) {later : List Event}
    (hk : ∀ early late, later = early ++ late → (m.run early).isSweeping k = true) :
    Confined (m.run later) k found := by
  induction later generalizing m with
  | nil => exact h
  | cons e rest ih =>
    refine ih (hf.step e) (h.step hf (hk [] _ rfl) e) fun early late heq => ?_
    exact hk (e :: early) late (congrArg (e :: ·) heq)

/-- However events follow one another. First, a task that goes through all pools, with those that it
has started, leaves every pool alone that was not in use when it began, also one that a tenant got
instead of another. Second, pools that are no longer their tenants' make no difference to those that
would close them: they are passed over, and neither closed nor counted. Third, of all that would
close a pool one has closed it in the end, if none is cancelled, and never two; and with the event
that takes the pool out of use one slot is given back. Fourth, the one that has closed it says so,
and no other does: whoever asks for an eviction, a check or a retirement is told how many pools the
task has closed for that, and at any time before the task has counted them right, also if it is a
loop. -/
theorem sweeps_confined (c : Config) (past : List Event) :
    let m := (new c).run past
    (∀ e k later e' id, m.BeginsSweep e k →
      (∀ early late, later = early ++ late → ((m.step e).run early).isSweeping k = true) →
      e'.Serves ((m.step e).run later) k → m.Gone id →
      Untouched m (m.step e) id ∧
      Untouched ((m.step e).run later) (((m.step e).run later).step e') id) ∧
    (∀ (m₁ : Manager) (task : TaskId) (stale : List (TenantId × PoolId)),
      (∀ x ∈ stale, m₁.holds x.1 x.2 = false) →
      (∀ sweeper n rest,
        m₁.evictRest task sweeper n (stale ++ rest) = m₁.evictRest task sweeper n rest) ∧
      (∀ count rest, m₁.closeRest task count (stale ++ rest) = m₁.closeRest task count rest) ∧
      ∀ sweeper sweep fault, ∀ x ∈ stale,
        m₁.noteProbe task sweeper sweep x.1 x.2 (.error fault) =
          (m₁.modifyPool x.2 fun p => (p.markUnhealthy m₁.now).2).awaitProbes task sweeper
            { sweep with checked := sweep.checked + 1, failed := sweep.failed + 1 }) ∧
    (∀ id < m.pools.length,
      let places := m.entries.countValues (· = id) + m.tasks.countValues (Stage.closesPool id) +
        ((new c).closings past).count id
      places ≤ 1 ∧ ((∀ e ∈ past, e.isCancel = false) → places = 1)) ∧
    (∀ e t id, m.entries.get? t = some id → (m.step e).entries.get? t ≠ some id →
      (m.step e).slots = m.slots - 1 ∧ ∃ task o reason next, e.origin? m = some (task, o) ∧
        (m.step e).tasks.get? task = some (.closing t id reason next)) ∧
    (∀ id ∈ (new c).closings past, ∃! k, id ∈ (new c).closedBy k past) ∧
    (∀ k, ((new c).closedBy k past).Nodup) ∧
    (∀ k r duty, (k, r) ∈ (new c).requests past → r.duty? = some duty →
      Counts m k duty ((new c).closedBy k past).length ∨ Cancelled m k ∧ .cancel k ∈ past) ∧
    ∀ e k later, m.BeginsSweep e k →
      (∀ early late, later = early ++ late → ((m.step e).run early).isSweeping k = true) →
      ∃ duty, Counts ((m.step e).run later) k duty ((m.step e).closedBy k later).length := by
  intro m
  have hr : Regular m := (Regular.new c).run past
  have hf : m.Fresh := hr.fresh
  refine ⟨?_, ?_, ?_, ?_, ?_, ?_, ?_, ?_⟩
  · intro e k later e' id hbegins hsweeping hserves hgone
    refine ⟨.of_begins hbegins hgone, ?_⟩
    have hconfined := (hbegins.confined hf (kin_run c past)).run (hf.step e) hsweeping
    have hk := hsweeping later [] (List.append_nil later).symm
    exact hconfined.untouched ((hf.step e).run later) hk hserves (Untouched.not_mem_snapshot hgone)
  · intro m₁ task stale hstale
    refine ⟨fun sweeper n rest => evictRest_append hstale n rest,
      fun count rest => closeRest_append hstale count rest, fun sweeper sweep fault x hx => ?_⟩
    exact noteProbe_of_stale (hstale x hx) sweep fault
  · intro id hid
    have hplaces : m.places id =
        m.entries.countValues (· = id) + m.tasks.countValues (Stage.closesPool id) := by
      rw [places, if_pos hid, Nat.zero_add]
    simp only [← hplaces]
    exact ⟨places_add_count_closings_le c past id, fun h => places_add_count_closings c h id⟩
  · intro e t id ht hne
    exact (Turn.of_step hf e).taken_out ht hne
  · exact fun id hid => existsUnique_closedBy c hid
  · exact fun k => nodup_closedBy c k past
  · exact fun k r duty hrequest hduty => counts_run c hrequest hduty
  · intro e k later hbegins hsweeping
    obtain ⟨duty, hcounts⟩ := hbegins.counts (hsweeping [] later rfl)
    have hrun := hcounts.run (hr.step e) hsweeping
    exact ⟨duty, by rwa [Nat.zero_add] at hrun⟩

/-- The pool of a tenant is in use. -/
def acmeInUse : List Event := .call (.get "acme") :: acmeOpens 0

/-- While a check of all pools waits for the answer of the pool, that one is retired, and the tenant
gets another one. Then the ping fails. -/
def replacedWhilePinged : List Event :=
  [.resume 2 .proceed, .call (.retire "acme" "moved"), .resume 3 .closed, .call (.get "acme")] ++
    acmeOpens 4 ++ [.resume 2 (.pinged (.error .closed))]

/-- The check leaves the other pool alone, and the first one has been closed by the request to
retire it, and by no other: the one who made that request is told so, and the check has closed
none. -/
theorem sweeps_confined_replacedWhilePinged :
    let m := (new (.new "app" "secret")).run acmeInUse
    let m' := (m.step (.call .checkHealth)).run replacedWhilePinged
    let past := acmeInUse ++ .call .checkHealth :: replacedWhilePinged
    m.BeginsSweep (.call .checkHealth) 1 ∧ m.Gone 1 ∧ m'.entries.get? "acme" = some 1 ∧
    Untouched m' (m'.step (.resume 1 .proceed)) 1 ∧
    (m'.step (.resume 1 .proceed)).outcomes.get? 1 = some (.swept ⟨1, 1, 0, 0⟩) ∧
    ((new (.new "app" "secret")).closings past).count 0 = 1 ∧
    (3, .retire "acme" "moved") ∈ (new (.new "app" "secret")).requests past ∧
    m'.outcomes.get? 3 = some (.retired true) ∧ Counts m' 3 .retirement 1 ∧
    ∃ duty, Counts m' 1 duty 0 := by
  intro m m' past
  have hbegins : m.BeginsSweep (.call .checkHealth) 1 := ⟨.call .checkHealth, rfl, rfl⟩
  have hgone : m.Gone 1 := by
    have hentries : m.entries.toList = [("acme", 0)] := by decide +kernel
    intro t ht
    rw [Assoc.get?_eq_some_iff, hentries] at ht
    cases List.mem_singleton.1 ht
  have hsweeping : ∀ early late, replacedWhilePinged = early ++ late →
      ((m.step (.call .checkHealth)).run early).isSweeping 1 = true := by
    intro early late heq
    have hprefixes : ∀ n < 9, ((m.step (.call .checkHealth)).run
        (replacedWhilePinged.take n)).isSweeping 1 = true := by decide +kernel
    have hlength := congrArg List.length heq
    rw [List.length_append] at hlength
    have htake : replacedWhilePinged.take early.length = early := by
      rw [heq, List.take_left]
    rw [← htake]
    exact hprefixes _ (by change 8 = _ at hlength; omega)
  have hserves : (Event.resume 1 .proceed).Serves m' 1 :=
    serves_of_isSweeping (hsweeping replacedWhilePinged [] (List.append_nil _).symm) .proceed
  obtain ⟨hconfined, -, -, -, -, -, -, hcounts⟩ :=
    sweeps_confined (.new "app" "secret") acmeInUse
  obtain ⟨-, -, -, -, -, -, htold, -⟩ := sweeps_confined (.new "app" "secret") past
  have hrequest : (3, .retire "acme" "moved") ∈ (new (.new "app" "secret")).requests past := by
    decide +kernel
  have hretired : m'.outcomes.get? 3 = some (.retired true) := by decide +kernel
  refine ⟨hbegins, hgone, by decide +kernel, ?_, by decide +kernel, by decide +kernel, hrequest,
    hretired, ?_, ?_⟩
  · exact (hconfined _ 1 replacedWhilePinged _ 1 hbegins hsweeping hserves hgone).2
  · have hrun : (new (.new "app" "secret")).run past = m' :=
      (run_append _ acmeInUse _).trans (run_cons m _ replacedWhilePinged)
    have hclosed : (new (.new "app" "secret")).closedBy 3 past = [0] := by decide +kernel
    rcases htold 3 _ .retirement hrequest rfl with htold | ⟨⟨-, hnone⟩, -⟩
    · rwa [hrun, hclosed] at htold
    · rw [hrun, hretired] at hnone
      cases hnone
  · have hclosed : (m.step (.call .checkHealth)).closedBy 1 replacedWhilePinged = [] := by
      decide +kernel
    obtain ⟨duty, hcounts⟩ := hcounts _ 1 replacedWhilePinged hbegins hsweeping
    exact ⟨duty, by rwa [hclosed] at hcounts⟩

end Tenancy.Manager
