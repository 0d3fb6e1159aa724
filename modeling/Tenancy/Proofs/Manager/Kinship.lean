import Tenancy.Proofs.Manager.Course

/-!
# Tasks and those that they have started

A task that has started others waits until it has read what all of them report. So the tasks that
others have started, and the reports, belong to tasks that read them, `kin_run`: a loop that begins
another round finds nothing left of the round before.
-/

namespace Tenancy.Manager

variable {m m₁ m' : Manager} {task k : TaskId} {o : Origin} {e : Event} {s : Stage}

/-! ### Tasks that wait for others -/

/-- Whether a task reads reports of others before it ends. -/
def Stage.awaitsReports : Stage → Bool
  | .gathering _ _ | .probing _ _ | .closing _ _ _ (.probe _ _) => true
  | _ => false

/-- Whether a task can start others here that report to it. -/
def Origin.spawns : Origin → Bool
  | .stage .listing => true
  | o => o.beginsCheck

/-- A task that has started others, or has reports to read, waits to read them. -/
def Attends (m : Manager) (task : TaskId) : Prop :=
  m.expectsReports task = true → ∃ s, m.tasks.get? task = some s ∧ s.awaitsReports = true

/-- Every task that has started others, or has reports to read, waits to read them. -/
def Kin (m : Manager) : Prop := ∀ task, m.Attends task

lemma Stage.parent?_of_awaitsReports (h : s.awaitsReports = true) : s.parent? = none := by
  cases s with
  | closing t id reason next => cases next <;> first | rfl | cases h
  | _ => first | rfl | cases h

lemma expectsReports_iff : m.expectsReports k = true ↔
    (∃ j s, m.tasks.get? j = some s ∧ s.parent? = some k) ∨ ∃ r, (k, r) ∈ m.reports := by
  simp only [expectsReports, hasChildren, nextReport?, Bool.or_eq_true, List.any_eq_true,
    decide_eq_true_eq, Option.isSome_map, List.find?_isSome, Prod.exists, Assoc.get?_eq_some_iff]
  constructor
  · rintro (h | ⟨_, r, hr, rfl⟩)
    · exact .inl h
    · exact .inr ⟨r, hr⟩
  · rintro (h | ⟨r, hr⟩)
    · exact .inl h
    · exact .inr ⟨k, r, hr, rfl⟩

lemma expectsReports_of_child {j : TaskId} (hj : m.tasks.get? j = some s)
    (hp : s.parent? = some k) : m.expectsReports k = true :=
  expectsReports_iff.2 (.inl ⟨j, s, hj, hp⟩)

lemma parent?_ne {j : TaskId} (h : m.expectsReports k = false)
    (hj : m.tasks.get? j = some s) : s.parent? ≠ some k := by
  intro hp
  rw [expectsReports_of_child hj hp] at h
  cases h

lemma not_mem_reports (h : m.expectsReports k = false) (r : Report) : (k, r) ∉ m.reports := by
  intro hr
  rw [expectsReports_iff.2 (.inr ⟨r, hr⟩)] at h
  cases h

lemma nextReport?_eq_none_iff : m.nextReport? k = none ↔ ∀ r, (k, r) ∉ m.reports := by
  simp only [nextReport?, Option.map_eq_none_iff, List.find?_eq_none, decide_eq_true_eq]
  constructor
  · intro h r hr
    exact h _ hr rfl
  · rintro h ⟨k', r⟩ hr rfl
    exact h r hr

/-! ### What an event that reaches a task does -/

lemma Origin.At.expectsReports (hat : o.At m task) (hp : o.parent? = some k) :
    m.expectsReports k = true := by
  cases o with
  | call => cases hp
  | stage s => exact expectsReports_of_child hat hp

/-- Of the tasks that are reached, only one that starts others comes to wait for them. -/
lemma Course.expectsReports (c : Course m task o m') (hat : o.At m task)
    (hk : m'.expectsReports k = true) :
    m.expectsReports k = true ∨ k = task ∧ o.spawns = true := by
  rcases expectsReports_iff.1 hk with ⟨j, s, hj, hp⟩ | ⟨r, hr⟩
  · rcases c.tasks j s hj with hold | ⟨rfl, hs⟩ | hs
    · exact .inl (expectsReports_of_child hold hp)
    · exact .inl (hat.expectsReports (hs.parent.symm.trans hp))
    · cases hs with
      | warm ho =>
        cases hp
        exact .inr ⟨rfl, ho ▸ rfl⟩
      | probe ho =>
        cases hp
        cases o with
        | call => exact .inr ⟨rfl, ho⟩
        | stage s' => cases s' <;> first | exact .inr ⟨rfl, ho⟩ | cases ho
      | loop => cases hp
  · rcases c.reports _ hr with hold | htells
    · exact .inl (expectsReports_iff.2 (.inr ⟨r, hold⟩))
    · exact .inl (hat.expectsReports htells.parent)

/-! ### Tasks that read reports -/

lemma expectsReports_of_leave (h : (m.leave task).expectsReports k = true) :
    m.expectsReports k = true := by
  rw [expectsReports_iff] at h ⊢
  refine h.imp_left fun ⟨j, s, hj, hp⟩ => ?_
  simp only [leave, Assoc.get?_erase] at hj
  split_ifs at hj
  exact ⟨j, s, hj, hp⟩

lemma expectsReports_of_finish {outcome : Outcome}
    (h : (m.finish task outcome).expectsReports k = true) : m.expectsReports k = true :=
  expectsReports_of_leave h

lemma expectsReports_of_await (hs : s.parent? = none)
    (h : (m.await task s).expectsReports k = true) : m.expectsReports k = true := by
  rw [expectsReports_iff] at h ⊢
  refine h.imp_left fun ⟨j, s', hj, hp⟩ => ?_
  simp only [await, Assoc.get?_insert] at hj
  split_ifs at hj
  · cases hj
    rw [hs] at hp
    cases hp
  · exact ⟨j, s', hj, hp⟩

lemma expectsReports_finishSweep {sweeper : Sweeper} {loop : Loop} {outcome : Outcome}
    (h : (m.finishSweep task sweeper loop outcome).expectsReports k = true) :
    m.expectsReports k = true := by
  cases sweeper with
  | caller => exact expectsReports_of_finish h
  | loop =>
    simp only [finishSweep, rest] at h
    split at h
    · exact expectsReports_of_leave h
    · exact expectsReports_of_await rfl h

namespace Attends

lemma of_await (h : s.awaitsReports = true) : (m.await task s).Attends task :=
  fun _ => ⟨s, get?_await m task s, h⟩

lemma of_awaitProbes (m : Manager) (task : TaskId) (sweeper : Sweeper) (sweep : HealthSweep) :
    (m.awaitProbes task sweeper sweep).Attends task := by
  unfold awaitProbes
  split
  next => exact of_await rfl
  next hnone => exact fun h => absurd (expectsReports_finishSweep h) hnone

lemma of_noteProbe (m : Manager) (task : TaskId) (sweeper : Sweeper) (sweep : HealthSweep)
    (t : TenantId) (id : PoolId) (result : Except PingFault Unit) :
    (m.noteProbe task sweeper sweep t id result).Attends task := by
  cases result with
  | ok _ => exact of_awaitProbes _ _ _ _
  | error fault =>
    simp only [noteProbe]
    split
    next => exact of_await rfl
    next => exact of_awaitProbes _ _ _ _

lemma of_absorbProbe {sweeper : Sweeper} {sweep : HealthSweep} (h : m.Attends task) :
    (m.absorbProbe task sweeper sweep).Attends task := by
  unfold absorbProbe
  split
  next => exact of_noteProbe _ _ _ _ _ _ _
  next => exact h

lemma of_awaitWarmed (m : Manager) (task : TaskId) (warmed : Nat) (first : Option PoolError) :
    (m.awaitWarmed task warmed first).Attends task := by
  unfold awaitWarmed
  split
  next => exact of_await rfl
  next hnone =>
    intro h
    exfalso
    cases first with
    | some error => exact hnone (expectsReports_of_finish h)
    | none => exact hnone (expectsReports_of_finish h)

lemma of_absorbWarmed {warmed : Nat} {first : Option PoolError} (h : m.Attends task) :
    (m.absorbWarmed task warmed first).Attends task := by
  unfold absorbWarmed
  split
  next => exact of_awaitWarmed _ _ _ _
  next => exact of_awaitWarmed _ _ _ _
  next => exact h

lemma of_afterListing (h : m.Attends task) (hat : m.tasks.get? task = some .listing)
    (result : Except StoreError (List Tenant)) : (m.afterListing task result).Attends task := by
  cases result with
  | error cause =>
    intro hk
    obtain ⟨s, hs, hawaits⟩ := h (expectsReports_of_finish hk)
    rw [hat] at hs
    cases hs
    cases hawaits
  | ok tenants => exact of_awaitWarmed _ _ _ _

lemma of_beginRound {loop : Loop} (h : loop = .health) : (m.beginRound task loop).Attends task := by
  subst h
  exact of_awaitProbes _ _ _ _

/-- A task that starts others or has started some waits for them when it has gone on. -/
lemma of_answer (h : m.Attends task) (hat : m.tasks.get? task = some s) (a : Answer)
    (hs : s.awaitsReports = true ∨ (Origin.stage s).spawns = true) :
    (m.answer task s a).Attends task := by
  cases s with
  | listing =>
    cases a with
    | tenants result => exact of_afterListing h hat result
    | _ => exact h
  | gathering warmed first =>
    cases a with
    | proceed => exact of_absorbWarmed h
    | _ => exact h
  | probing sweeper sweep =>
    cases a with
    | proceed => exact of_absorbProbe h
    | _ => exact h
  | closing t id reason next =>
    cases next with
    | probe sweeper sweep =>
      cases a with
      | closed => exact of_awaitProbes _ _ _ _
      | _ => exact h
    | _ => simp [Stage.awaitsReports, Origin.spawns, Origin.beginsCheck] at hs
  | loopSleeping loop wake =>
    cases loop with
    | eviction => simp [Stage.awaitsReports, Origin.spawns, Origin.beginsCheck] at hs
    | health =>
      cases a with
      | elapsed =>
        simp only [answer]
        split
        next => exact of_beginRound rfl
        next => exact h
      | proceed =>
        simp only [answer]
        split
        next =>
          intro hk
          obtain ⟨s, hs', hawaits⟩ := h (expectsReports_of_leave hk)
          rw [hat] at hs'
          cases hs'
          cases hawaits
        next => exact h
      | _ => exact h
  | _ => simp [Stage.awaitsReports, Origin.spawns, Origin.beginsCheck] at hs

end Attends

/-! ### What every event preserves -/

lemma Kin.cancel (h : m.Kin) (task : TaskId) : (m.cancel task).Kin := by
  unfold Manager.cancel
  split
  next s hs =>
    split
    next => exact h
    next =>
      intro k hk
      have hne : m.expectsReports k = true ∧ k ≠ task := by
        simp only [expectsReports_iff, Assoc.get?_filter, List.mem_filter, decide_eq_true_eq] at hk
        rcases hk with ⟨j, s', hj, hp⟩ | ⟨r, hr, hne⟩
        · obtain ⟨hj, hkeep⟩ := Option.filter_eq_some_iff.1 hj
          refine ⟨expectsReports_of_child hj hp, ?_⟩
          rintro rfl
          simp [hp] at hkeep
        · exact ⟨expectsReports_iff.2 (.inr ⟨r, hr⟩), hne⟩
      obtain ⟨s', hs', hawaits⟩ := h k hne.1
      refine ⟨s', ?_, hawaits⟩
      simp [Assoc.get?_filter, hs', hne.2, Stage.parent?_of_awaitsReports hawaits]
  next => exact h

lemma Kin.of_origin (hf : m.Fresh) (h : m.Kin) (ho : e.origin? m = some (task, o)) :
    (m.step e).Kin := by
  have hat : o.At m task := by
    cases Event.Drives.of_origin? ho with
    | call => exact hf.get?_nextTask
    | resume _ hs => exact hs
  have hself (hreads : (∃ s, o = .stage s ∧ s.awaitsReports = true) ∨ o.spawns = true) :
      (m.step e).Attends task := by
    cases Event.Drives.of_origin? ho with
    | call request =>
      rcases hreads with ⟨s, hs, -⟩ | hspawns
      · cases hs
      · cases request with
        | checkHealth => exact .of_awaitProbes _ _ _ _
        | _ => cases hspawns
    | @resume _ s a hs =>
      rw [step_resume hs]
      refine (h task).of_answer hs a (hreads.imp_left ?_)
      rintro ⟨s', hs', hawaits⟩
      cases hs'
      exact hawaits
  intro k hk
  rcases (Course.of_step ho).expectsReports hat hk with hold | ⟨rfl, hspawns⟩
  · obtain ⟨s, hs, hawaits⟩ := h k hold
    by_cases hne : k = task
    · subst hne
      refine hself (.inl ⟨s, ?_, hawaits⟩) hk
      cases o with
      | call =>
        rw [show m.tasks.get? k = none from hat] at hs
        cases hs
      | stage s' =>
        rw [show m.tasks.get? k = some s' from hat] at hs
        cases hs
        rfl
    · refine ⟨s, ?_, hawaits⟩
      have he : e.isCancel = false := by
        cases e with
        | cancel => cases ho
        | _ => rfl
      rw [(Turn.of_step hf e).get?_of_not_reached (hf k s hs) ?_ he, hs]
      rintro o' ho'
      rw [ho] at ho'
      cases ho'
      exact hne rfl
  · exact hself (.inr hspawns) hk

theorem Kin.step (hf : m.Fresh) (h : m.Kin) (e : Event) : (m.step e).Kin := by
  cases ho : e.origin? m with
  | some reached => exact h.of_origin hf ho
  | none =>
    cases e with
    | cancel task => exact h.cancel task
    | _ =>
      obtain ⟨htasks, hreports, -⟩ := tasks_of_unreached ho rfl
      intro k hk
      rw [expectsReports_iff, htasks, hreports, ← expectsReports_iff] at hk
      rw [htasks]
      exact h k hk

/-- In every run, tasks that others have started, and reports, belong to tasks that read them. -/
theorem kin_run (c : Config) (events : List Event) : ((new c).run events).Kin := by
  induction events using List.reverseRecOn with
  | nil =>
    intro k hk
    rcases expectsReports_iff.1 hk with ⟨j, s, hj, -⟩ | ⟨r, hr⟩
    · cases hj
    · cases hr
  | append_singleton past e ih =>
    rw [run_append]
    exact ih.step ((fresh_new c).run past) e

/-- No task and no report belongs to a request that has not come in yet. -/
lemma Kin.expectsReports_nextTask (h : m.Kin) (hf : m.Fresh) :
    m.expectsReports m.nextTask = false := by
  rw [← Bool.not_eq_true]
  intro hexpects
  obtain ⟨s, hs, -⟩ := h _ hexpects
  rw [hf.get?_nextTask] at hs
  cases hs

end Tenancy.Manager
