import Tenancy.Proofs.Manager.Warming

/-!
# The course of a request to open pools

While nothing else is in progress, whatever happens leads a request to open pools from one state to
another: `Warming.step`, and over a run `Warming.run`. It never hangs, `Warming.exists_heard`, and
when it has ended every tenant was tried, `Warming.ended`.
-/

namespace Tenancy.Manager

variable {m₀ m m' : Manager} {k j : TaskId} {t : TenantId} {s : Stage} {a : Answer} {e : Event}
  {events : List Event} {tenants : List TenantId} {records : List Tenant} {log : List Attempt}
  {read : List (Except PoolError Unit)} {work : Nat} {outcome : Outcome}

/-! ### What the request itself does -/

/-- Only the task `k` goes on, which reports to nobody. -/
structure Passes (m : Manager) (k : TaskId) (m' : Manager) : Prop where
  others : ∀ i ≠ k, m'.tasks.get? i = m.tasks.get? i
  before : ∀ s, m.tasks.get? k = some s → s.parent? = none
  after : ∀ s, m'.tasks.get? k = some s → s.parent? = none
  reports : m'.reports = m.reports
  config : m'.config = m.config
  shuttingDown : m'.shuttingDown = m.shuttingDown
  entries : m'.entries = m.entries
  pools : m'.pools = m.pools
  slots : m'.slots = m.slots
  ledger : m'.ledger = m.ledger

lemma Passes.of_awaitWarmed (hk : ∀ s, m.tasks.get? k = some s → s.parent? = none) (warmed : Nat)
    (first : Option PoolError) : Passes m k (m.awaitWarmed k warmed first) := by
  have hfinish (outcome : Outcome) : Passes m k (m.finish k outcome) := by
    refine ⟨fun i hi => ?_, hk, fun s hs => ?_, rfl, rfl, rfl, rfl, rfl, rfl, rfl⟩
    · rw [finish, leave, Assoc.get?_erase, if_neg hi]
    · rw [finish, leave, Assoc.get?_erase, if_pos rfl] at hs
      cases hs
  unfold awaitWarmed
  split
  next =>
    refine ⟨fun i hi => ?_, hk, fun s hs => ?_, rfl, rfl, rfl, rfl, rfl, rfl, rfl⟩
    · rw [await, Assoc.get?_insert, if_neg hi]
    · rw [get?_await] at hs
      cases hs
      rfl
  next =>
    split
    next => exact hfinish _
    next => exact hfinish _

/-- A task that tries to get a pool waits where it did. -/
lemma Passes.get?_of_tries (h : Passes m k m') (hj : m'.tasks.get? j = some s)
    (ht : s.tries? k = some t) : m.tasks.get? j = some s := by
  have hne : j ≠ k := by
    rintro rfl
    rw [Stage.tries?_of_parent? (h.after s hj)] at ht
    cases ht
  rwa [← h.others j hne]

/-- What is collected from the tasks that try stays the same. -/
lemma Passes.collect_perm {γ : Type} {f : Stage → Option γ} (h : Passes m k m')
    (hf : ∀ s, s.tries? k = none → f s = none) : (m'.tasks.collect f).Perm (m.tasks.collect f) := by
  have hnone {m : Manager} (hk : ∀ s, m.tasks.get? k = some s → s.parent? = none) :
      (m.tasks.get? k).bind f = none := by
    rw [Option.bind_eq_none_iff]
    intro s hs
    exact hf s (Stage.tries?_of_parent? (hk s hs))
  have hperm := Assoc.collect_append_perm h.others f
  rwa [hnone h.before, hnone h.after, Option.toList_none, List.append_nil, List.append_nil] at hperm

lemma Passes.warmingWork_eq (h : Passes m k m') : m'.warmingWork k = m.warmingWork k := by
  have hsum := (h.collect_perm (f := fun s => (s.tries? k).map fun _ => s.toGo)
    fun s hs => by rw [hs, Option.map_none]).sum_eq
  rw [warmingWork, warmingWork, effort, effort, unread, unread, h.reports, hsum]

lemma awaitWarmed_of_idle (h : ¬ m.expectsReports k = true) :
    m.awaitWarmed k (countOk read) (firstError? read) = m.finish k (verdict read) := by
  unfold awaitWarmed verdict
  rw [if_neg h]
  cases firstError? read <;> rfl

lemma Reader.of_awaitWarmed
    (hk : ∀ s, m.tasks.get? k = some s → s.parent? = none) (hout : m.outcomes.get? k = none) :
    Reader k read (m.awaitWarmed k (countOk read) (firstError? read)) := by
  by_cases hexp : m.expectsReports k = true
  · unfold awaitWarmed
    rw [if_pos hexp]
    refine .gathering (get?_await m k _) ?_ hout
    rcases expectsReports_iff.1 hexp with ⟨j, s, hj, hp⟩ | hreport
    · have hne : j ≠ k := by
        rintro rfl
        rw [hk s hj] at hp
        cases hp
      refine expectsReports_of_child (j := j) ?_ hp
      rw [await, Assoc.get?_insert, if_neg hne, hj]
    · exact expectsReports_iff.2 (.inr hreport)
  · rw [awaitWarmed_of_idle hexp]
    refine .ended ?_ ?_ ?_
    · rw [finish, leave, Assoc.get?_erase, if_pos rfl]
    · rw [Bool.eq_false_iff]
      exact fun h => hexp (expectsReports_of_finish h)
    · rw [finish, Assoc.get?_insert, if_pos rfl]

namespace Underway

lemma of_still (h : Underway m₀ tenants log read m) (hs : Still m m') :
    Underway m₀ tenants log read m' where
  idle := h.idle
  config := hs.config.trans h.config
  isOpen := hs.shuttingDown.trans h.isOpen
  older := by
    rw [hs.tasks]
    exact h.older
  newer := by
    rw [hs.tasks]
    exact h.newer
  tenants := by
    rw [trying, hs.tasks]
    exact h.tenants
  results := by
    rw [unread, hs.reports]
    exact h.results
  entered := by
    rw [Entered, hs.entries]
    exact h.entered
  pools := by
    rw [hs.entries, hs.pools]
    exact h.pools
  yielding := by
    rw [hs.tasks, hs.entries]
    exact h.yielding

lemma of_passes (h : Underway m₀ tenants log read m) (hp : Passes m m₀.nextTask m') :
    Underway m₀ tenants log read m' where
  idle := h.idle
  config := hp.config.trans h.config
  isOpen := hp.shuttingDown.trans h.isOpen
  older i hi := (hp.others i hi.ne).trans (h.older i hi)
  newer i s hi hs := h.newer i s hi (by rwa [hp.others i hi.ne'] at hs)
  tenants := ((hp.collect_perm fun _ hs => hs).append_left _).trans h.tenants
  results := by
    rw [unread, hp.reports]
    exact h.results
  entered := by
    rw [Entered, hp.entries]
    exact h.entered
  pools := by
    rw [hp.entries, hp.pools]
    exact h.pools
  yielding i s t hi ht hyield := by
    rw [hp.entries]
    exact h.yielding i s t (hp.get?_of_tries hi ht) ht hyield

/-- The request reads the result that was told first. -/
lemma of_read {r : Except PoolError Unit} (h : Underway m₀ tenants log read m)
    (hr : m.nextReport? m₀.nextTask = some (.warmed r)) :
    Underway m₀ tenants log (read ++ [r]) (m.dropReport m₀.nextTask) ∧
      (m.dropReport m₀.nextTask).warmingWork m₀.nextTask + 1 = m.warmingWork m₀.nextTask := by
  obtain ⟨⟨k, r'⟩, hfind, rfl⟩ := Option.map_eq_some_iff.1 hr
  have hk : k = m₀.nextTask := by simpa using List.find?_some hfind
  subst hk
  have hcons : m.unread m₀.nextTask =
      (m₀.nextTask, .warmed r) :: (m.dropReport m₀.nextTask).unread m₀.nextTask :=
    filter_eq_cons_of_find? hfind
  constructor
  · refine ⟨h.idle, h.config, h.isOpen, h.older, h.newer, h.tenants, ?_, h.entered, h.pools,
      h.yielding⟩
    obtain ⟨unread, hlog, hunread⟩ := h.results
    rw [hcons] at hunread
    cases unread with
    | nil => cases hunread
    | cons r' rest =>
      rw [List.map_cons, List.cons_eq_cons] at hunread
      obtain ⟨heq, hrest⟩ := hunread
      cases heq
      exact ⟨rest, by rw [hlog, List.append_assoc, List.singleton_append], hrest⟩
  · rw [warmingWork, warmingWork, hcons, List.length_cons]
    rfl

lemma trying_eq_nil (h : Underway m₀ [] [] read m) : m.trying m₀.nextTask = [] :=
  List.perm_nil.1 h.tenants

end Underway

lemma tries?_warmQueued (k : TaskId) (t : TenantId) : (Stage.warmQueued k t).tries? k = some t :=
  Stage.tries?_eq_some_iff.2 rfl

/-- What is collected from the tasks that are started for the tenants. -/
lemma filterMap_warmQueued {γ : Type} (k : TaskId) (records : List Tenant) {f : Stage → Option γ}
    {g : TenantId → γ} (hf : ∀ t, f (.warmQueued k t) = some (g t)) :
    (records.map fun t => Stage.warmQueued k t.id).filterMap f = records.map fun t => g t.id := by
  rw [List.filterMap_map, ← List.filterMap_eq_map]
  apply List.filterMap_congr
  intro t _
  exact hf t.id

/-- The request starts a task for each tenant that is listed. -/
lemma Underway.of_spawned (h : Underway m₀ [] [] [] m) (hlt : m₀.nextTask < m.nextTask)
    (hsp : Spawned m (records.map fun t => .warmQueued m₀.nextTask t.id) m') :
    Underway m₀ (records.map (·.id)) [] [] m' where
  idle := h.idle
  config := (congrArg Manager.config hsp.manager).trans h.config
  isOpen := (congrArg Manager.shuttingDown hsp.manager).trans h.isOpen
  older i hi := (hsp.older i (hi.trans hlt)).trans (h.older i hi)
  newer i s hi hs := by
    rcases Nat.lt_or_ge i m.nextTask with hold | hnew
    · rw [hsp.older i hold] at hs
      exact h.newer i s hi hs
    · obtain ⟨t, -, rfl⟩ := List.mem_map.1 (hsp.newer i s hnew hs)
      exact ⟨t.id, tries?_warmQueued _ _⟩
  tenants := by
    rw [trying, hsp.collect, ← trying, h.trying_eq_nil,
      filterMap_warmQueued _ _ (tries?_warmQueued m₀.nextTask)]
    exact .refl _
  results := by
    rw [unread, hsp.manager]
    exact h.results
  entered := by
    rw [Entered, hsp.manager]
    exact h.entered
  pools := by
    rw [hsp.manager]
    exact h.pools
  yielding i s t hi ht hyield := by
    rcases Nat.lt_or_ge i m.nextTask with hold | hnew
    · rw [hsp.older i hold] at hi
      rw [h.not_tries hi] at ht
      cases ht
    · obtain ⟨t, -, rfl⟩ := List.mem_map.1 (hsp.newer i s hnew hi)
      cases hyield

lemma Underway.warmingWork_of_spawned (h : Underway m₀ [] [] [] m)
    (hsp : Spawned m (records.map fun t => .warmQueued m₀.nextTask t.id) m') :
    m'.warmingWork m₀.nextTask = 6 * records.length := by
  have hnone : m.tasks.collect (fun s => (s.tries? m₀.nextTask).map fun _ => s.toGo) = [] := by
    rw [List.eq_nil_iff_forall_not_mem]
    intro n hn
    obtain ⟨i, s, hi, hs⟩ := Assoc.mem_collect.1 hn
    rw [h.not_tries hi] at hs
    cases hs
  have hunread : m'.unread m₀.nextTask = [] := by
    obtain ⟨unread, hlog, hunread⟩ := h.results
    cases unread with
    | nil =>
      rw [Manager.unread, hsp.manager]
      exact hunread
    | cons => cases hlog
  rw [warmingWork, effort, hsp.collect, hnone, hunread, filterMap_warmQueued (g := fun _ => 6)]
  · simp [mul_comm]
  · intro t
    rw [tries?_warmQueued]
    rfl

lemma absorbWarmed_eq {r : Except PoolError Unit}
    (hr : m.nextReport? k = some (.warmed r)) :
    m.absorbWarmed k (countOk read) (firstError? read) =
      (m.dropReport k).awaitWarmed k (countOk (read ++ [r])) (firstError? (read ++ [r])) := by
  simp only [absorbWarmed, hr, countOk, firstError?, List.countP_append, List.findSome?_append]
  cases r with
  | ok u =>
    cases u
    simp [Except.isOk, Except.toBool]
  | error e => simp [Except.isOk, Except.toBool]

namespace Warming

variable {m₁ : Manager}

lemma attempt?_self (hk : m.tasks.get? k = some s) (hs : s.parent? = none) :
    (Event.resume k a).attempt? m k = none := by
  refine attempt?_of_none fun s' hs' => ?_
  rw [hk] at hs'
  cases hs'
  exact Stage.tries?_of_parent? hs

/-- The request waits for the attempts that have not ended, or it ends. -/
lemma of_awaitWarmed (h : Underway m₀ tenants log read m₁)
    (hkeep : ∀ s, m₁.tasks.get? m₀.nextTask = some s → s.parent? = none)
    (hout : m₁.outcomes.get? m₀.nextTask = none) (hnone : e.attempt? m m₀.nextTask = none)
    (hwork : m₁.warmingWork m₀.nextTask + 1 ≤ work) :
    Advances m₀ tenants log work m e
      (m₁.awaitWarmed m₀.nextTask (countOk read) (firstError? read)) := by
  have hpass := Passes.of_awaitWarmed hkeep (countOk read) (firstError? read)
  have hstands := Warming.reading (h.of_passes hpass) (.of_awaitWarmed hkeep hout)
  rw [hpass.warmingWork_eq] at hstands
  refine ⟨m₁.warmingWork m₀.nextTask, ?_, ?_⟩
  · rw [hnone, Option.toList_none, List.append_nil]
    exact hstands
  · have := Bool.toNat_le (e.isHeard m)
    omega

/-- The tenants are listed. -/
lemma of_lists (h : Underway m₀ [] [] [] m) (hf : m.Fresh)
    (hk : m.tasks.get? m₀.nextTask = some .listing) (hout : m.outcomes.get? m₀.nextTask = none) :
    Advances m₀ (records.map (·.id)) [] (6 * records.length + 1) m
      (.resume m₀.nextTask (.tenants (.ok records)))
      (m.afterListing m₀.nextTask (.ok records)) := by
  have hlt : m₀.nextTask < m.nextTask := hf _ _ hk
  have hsp := hf.spawned (records.map fun t => .warmQueued m₀.nextTask t.id)
  refine of_awaitWarmed (h.of_spawned hlt hsp) ?_ ?_ (attempt?_self hk rfl) ?_
  · intro s hs
    rw [hsp.older _ hlt, hk] at hs
    cases hs
    rfl
  · rw [hsp.manager]
    exact hout
  · rw [h.warmingWork_of_spawned hsp]

/-- The request reads a result. -/
lemma of_reads {r : Except PoolError Unit} (h : Underway m₀ tenants log read m)
    (hk : m.tasks.get? m₀.nextTask = some (.gathering (countOk read) (firstError? read)))
    (hout : m.outcomes.get? m₀.nextTask = none)
    (hr : m.nextReport? m₀.nextTask = some (.warmed r)) :
    Advances m₀ tenants log (m.warmingWork m₀.nextTask) m (.resume m₀.nextTask .proceed)
      (m.absorbWarmed m₀.nextTask (countOk read) (firstError? read)) := by
  obtain ⟨hread, hwork⟩ := h.of_read hr
  rw [absorbWarmed_eq hr]
  refine of_awaitWarmed hread ?_ hout (attempt?_self hk rfl) hwork.le
  intro s hs
  rw [show m.tasks.get? m₀.nextTask = some s from hs] at hk
  cases hk
  rfl

lemma of_still (h : Warming m₀ tenants log m work) (hs : Still m m')
    (hnone : e.attempt? m m₀.nextTask = none) (hheard : e.isHeard m = false) :
    Advances m₀ tenants log work m e m' := by
  refine ⟨work, ?_, by rw [hheard]; exact (Nat.zero_add _).le⟩
  rw [hnone, Option.toList_none, List.append_nil]
  cases h with
  | listing h hk hout =>
    exact .listing (h.of_still hs) (by rw [hs.tasks, hk]) (by rw [hs.outcomes, hout])
  | reading h hr =>
    have hwork : m.warmingWork m₀.nextTask = m'.warmingWork m₀.nextTask := by
      rw [warmingWork, warmingWork, effort, effort, unread, unread, hs.tasks, hs.reports]
    have hexp : m'.expectsReports m₀.nextTask = m.expectsReports m₀.nextTask := by
      rw [Bool.eq_iff_iff, expectsReports_iff, expectsReports_iff, hs.tasks, hs.reports]
    rw [hwork]
    refine .reading (h.of_still hs) ?_
    cases hr with
    | gathering hk hleft hout =>
      exact .gathering (by rw [hs.tasks, hk]) (by rw [hexp, hleft]) (by rw [hs.outcomes, hout])
    | ended hk hleft hout =>
      exact .ended (by rw [hs.tasks, hk]) (by rw [hexp, hleft]) (by rw [hs.outcomes, hout])

/-- Whatever happens while the request is the only one in progress, it goes on. -/
theorem step (h : Warming m₀ (records.map (·.id)) log m work) (hf : m.Fresh)
    (he : e.LeavesAlone m₀.nextTask records) :
    Advances m₀ (records.map (·.id)) log work m e (m.step e) := by
  have hwarms := h.warms he
  generalize hm' : m.step e = m' at hwarms ⊢
  cases hwarms with
  | still hs hnone hheard => exact h.of_still hs hnone hheard
  | tries hlt hj ht htried =>
    cases h with
    | listing h _ _ =>
      rw [h.not_tries hj] at ht
      cases ht
    | reading h hr =>
      subst hm'
      exact of_attempted h hr hlt hj ht htried.attempted
  | lists hk =>
    cases h with
    | listing h hk hout =>
      rw [List.length_map]
      exact of_lists h hf hk hout
    | reading _ hr =>
      cases hr with
      | gathering hk' _ _ | ended hk' _ _ =>
        rw [hk] at hk'
        cases hk'
  | reads hk hnext =>
    cases h with
    | listing _ hk' _ =>
      rw [hk] at hk'
      cases hk'
    | reading h hr =>
      cases hr with
      | gathering hk' _ hout =>
        rw [hk] at hk'
        cases hk'
        exact of_reads h hk hout hnext
      | ended hk' _ _ =>
        rw [hk] at hk'
        cases hk'

end Warming

/-! ### From the request to its end -/

lemma tasks_prewarm (m : Manager) :
    (m.step (.call .prewarm)).tasks = m.tasks.insert m.nextTask .listing := rfl

/-- No task tries anything for a request that has just come in. -/
lemma tries?_of_prewarm (hidle : m₀.expectsReports m₀.nextTask = false)
    (hj : (m₀.step (.call .prewarm)).tasks.get? j = some s) : s.tries? m₀.nextTask = none := by
  rw [tasks_prewarm, Assoc.get?_insert] at hj
  split_ifs at hj
  · cases hj
    rfl
  · rw [Option.eq_none_iff_forall_ne_some]
    intro t ht
    exact parent?_ne hidle hj (Stage.parent?_of_tries? ht)

namespace Warming

/-- The request comes in. -/
theorem start (hf : m₀.Fresh) (hkin : m₀.Kin) (ha : m₀.Answered) (hopen : m₀.shuttingDown = false)
    (tenants : List TenantId) :
    Warming m₀ tenants [] (m₀.step (.call .prewarm)) (6 * tenants.length + 1) := by
  have hidle := hkin.expectsReports_nextTask hf
  refine .listing ⟨hidle, rfl, hopen, fun i hi => ?_, fun i s hi hs => ?_, ?_, ⟨[], rfl, ?_⟩,
    ⟨[], ?_, ?_⟩, rfl, fun i s t hi ht _ => ?_⟩ ?_ ?_
  · rw [tasks_prewarm, Assoc.get?_insert, if_neg hi.ne]
  · rw [tasks_prewarm, Assoc.get?_insert, if_neg hi.ne'] at hs
    exact absurd hi (hf i s hs).asymm
  · refine .of_eq (List.eq_nil_iff_forall_not_mem.2 fun t ht => ?_)
    obtain ⟨i, s, hi, ht⟩ := Assoc.mem_collect.1 ht
    rw [tries?_of_prewarm hidle hi] at ht
    cases ht
  · refine List.filter_eq_nil_iff.2 ?_
    rintro ⟨k, r⟩ hr hk
    exact not_mem_reports hidle r (of_decide_eq_true hk ▸ hr)
  · exact (List.append_nil _).symm
  · simp
  · rw [tries?_of_prewarm hidle hi] at ht
    cases ht
  · rw [tasks_prewarm, Assoc.get?_insert, if_pos rfl]
  · cases hout : m₀.outcomes.get? m₀.nextTask with
    | none => exact hout
    | some outcome => exact absurd (ha _ _ hout) (lt_irrefl _)

/-- Whatever happens in a run in which the request is the only one in progress, it goes on; and not
more is heard than there is to hear. -/
theorem run (h : Warming m₀ (records.map (·.id)) log m work) (hf : m.Fresh)
    (he : ∀ e ∈ events, e.LeavesAlone m₀.nextTask records) :
    ∃ work', Warming m₀ (records.map (·.id)) (log ++ m.attempts m₀.nextTask events) (m.run events)
      work' ∧ m.heard events + work' ≤ work := by
  -- The induction is on the events that are still to come, with what has happened in `log`.
  induction events generalizing m log work with
  | nil =>
    refine ⟨work, ?_, (Nat.zero_add work).le⟩
    rw [attempts, List.append_nil]
    exact h
  | cons e rest ih =>
    obtain ⟨work₁, hstep, hle₁⟩ := h.step hf (he e List.mem_cons_self)
    obtain ⟨work₂, hrest, hle₂⟩ := ih hstep (hf.step e) fun e' he' => he e' (.tail _ he')
    refine ⟨work₂, ?_, ?_⟩
    · rw [attempts, ← List.append_assoc]
      exact hrest
    · rw [heard]
      omega

/-- Every task that was started for the request tries to get a pool. -/
lemma tries_of_parent? (h : Underway m₀ tenants log read m)
    (hself : ∀ s, m.tasks.get? m₀.nextTask = some s → s.parent? = none)
    (hj : m.tasks.get? j = some s) (hp : s.parent? = some m₀.nextTask) :
    m₀.nextTask < j ∧ ∃ t, s.tries? m₀.nextTask = some t := by
  rcases Nat.lt_trichotomy j m₀.nextTask with hlt | rfl | hlt
  · rw [h.older j hlt] at hj
    exact absurd hp (parent?_ne h.idle hj)
  · rw [hself s hj] at hp
    cases hp
  · exact ⟨hlt, h.newer j s hlt hj⟩

/-- A task that tries to get a pool can hear an answer that is no fault. -/
lemma exists_hears (hs : s.tries? k = some t) (m : Manager) (j : TaskId) :
    ∃ a, s.hears m j a = true ∧ a.succeeds = true := by
  have hd := Stage.tries?_eq_some_iff.1 hs
  cases s with
  | warmQueued => exact ⟨.proceed, rfl, rfl⟩
  | lookingUp => exact ⟨.tenant (.ok acme), rfl, rfl⟩
  | opening => exact ⟨.opened (.ok ("", 0)), rfl, rfl⟩
  | pinging => exact ⟨.pinged (.ok ()), rfl, rfl⟩
  | rejecting | yielding => exact ⟨.closed, rfl, rfl⟩
  | _ => cases hd

/-- As long as the request has not ended, there is an answer that a task hears, and it need be no
fault. -/
theorem exists_heard (h : Warming m₀ (records.map (·.id)) log m work)
    (hout : m.outcomes.get? m₀.nextTask = none) :
    ∃ j a, (Event.resume j a).LeavesAlone m₀.nextTask records ∧
      (Event.resume j a).isHeard m = true ∧ a.succeeds = true := by
  have hheard {j : TaskId} {s : Stage} {a : Answer} (hj : m.tasks.get? j = some s)
      (ha : s.hears m j a = true) : (Event.resume j a).isHeard m = true := by
    rw [Event.isHeard, hj]
    exact ha
  cases h with
  | listing _ hk _ =>
    exact ⟨m₀.nextTask, .tenants (.ok records), ⟨le_rfl, fun _ => rfl⟩, hheard hk rfl, rfl⟩
  | reading h hr =>
    cases hr with
    | ended _ _ hout' =>
      rw [hout] at hout'
      cases hout'
    | gathering hk hleft _ =>
      cases hreport : m.nextReport? m₀.nextTask with
      | some r =>
        refine ⟨m₀.nextTask, .proceed, le_refl m₀.nextTask, hheard hk ?_, rfl⟩
        simp [Stage.hears, hreport]
      | none =>
        rcases expectsReports_iff.1 hleft with ⟨j, s, hj, hp⟩ | ⟨r, hr⟩
        · have hself : ∀ s, m.tasks.get? m₀.nextTask = some s → s.parent? = none := by
            intro s hs
            rw [hk] at hs
            cases hs
            rfl
          obtain ⟨hlt, t, ht⟩ := tries_of_parent? h hself hj hp
          obtain ⟨a, ha, hok⟩ := exists_hears ht m j
          exact ⟨j, a, Event.leavesAlone_of_lt hlt a, hheard hj ha, hok⟩
        · exact absurd hr (nextReport?_eq_none_iff.1 hreport r)

/-- When the request has ended every tenant was tried, and it ended with the first error or else
with the number of those without one. -/
theorem ended (h : Warming m₀ tenants log m work)
    (hout : m.outcomes.get? m₀.nextTask = some outcome) :
    Underway m₀ tenants log (log.map Prod.snd) m ∧ m.trying m₀.nextTask = [] ∧
      outcome = verdict (log.map Prod.snd) := by
  cases h with
  | listing _ _ hout' =>
    rw [hout] at hout'
    cases hout'
  | @reading _ read _ h hr =>
    cases hr with
    | gathering _ _ hout' =>
      rw [hout] at hout'
      cases hout'
    | ended _ hnone hout' =>
      have htrying : m.trying m₀.nextTask = [] := by
        rw [List.eq_nil_iff_forall_not_mem]
        intro t ht
        obtain ⟨j, s, hj, ht⟩ := Assoc.mem_collect.1 ht
        exact parent?_ne hnone hj (Stage.parent?_of_tries? ht)
      have hread : log.map Prod.snd = read := by
        obtain ⟨unread, hlog, hunread⟩ := h.results
        cases unread with
        | nil => rw [hlog, List.append_nil]
        | cons r rest =>
          have hmem : (m₀.nextTask, .warmed r) ∈ m.unread m₀.nextTask := by
            rw [hunread]
            exact List.mem_cons_self
          exact absurd (List.mem_filter.1 hmem).1 (not_mem_reports hnone _)
      subst hread
      rw [hout] at hout'
      cases hout'
      exact ⟨h, htrying, rfl⟩

end Warming

end Tenancy.Manager
