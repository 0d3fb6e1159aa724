import Mathlib.Data.Set.Subsingleton
import Tenancy.Proofs.Manager.Kinship
import Tenancy.Proofs.Manager.LaterClose

/-!
# The loops in the background

A loop is a task of its own. It waits for its turn, sleeps, goes through all pools, and sleeps
again, until it finds that the manager is being shut down. `runs_step` says which events start one:
only the first request to start, and only before the manager is shut down, whatever sets the flag.
So each loop has one task at most, and since the request that shuts the manager down waits until no
task runs a loop, there is none when it has ended: `loops_started_once`. That it need not wait for
ever is `asleep_before_of_closed`: once the manager is closed no loop falls asleep again.
-/

namespace Tenancy.Manager

variable {m m₁ : Manager} {task k : TaskId} {l : Loop} {e : Event} {s : Stage} {c : Config}
  {events : List Event}

/-! ### Tasks that run loops -/

/-- The loop that a task goes on with after it has closed a pool. -/
def Next.loop? : Next → Option Loop
  | .evict .loop _ _ => some .eviction
  | .probe .loop _ => some .health
  | _ => none

/-- The loop that a task runs. -/
def Stage.loop? : Stage → Option Loop
  | .closing _ _ _ next => next.loop?
  | .probing .loop _ => some .health
  | .loopQueued loop | .loopSleeping loop _ => some loop
  | _ => none

lemma Stage.isSome_loop? (s : Stage) : s.loop?.isSome = s.isLoop := by
  cases s with
  | closing t id reason next =>
    cases next with
    | evict sweeper | probe sweeper => cases sweeper <;> rfl
    | _ => rfl
  | probing sweeper => cases sweeper <;> rfl
  | _ => rfl

/-- A task runs a loop. -/
def Runs (m : Manager) (l : Loop) (k : TaskId) : Prop :=
  ∃ s, m.tasks.get? k = some s ∧ s.loop? = some l

lemma runs_iff : m.Runs l k ↔ (m.tasks.get? k).bind Stage.loop? = some l :=
  Option.bind_eq_some_iff.symm

lemma hasLoops_iff_runs : m.hasLoops = true ↔ ∃ l k, m.Runs l k := by
  simp only [hasLoops_iff, Runs, ← Stage.isSome_loop?, Option.isSome_iff_exists]
  constructor
  · rintro ⟨k, s, hs, l, hl⟩
    exact ⟨l, k, s, hs, hl⟩
  · rintro ⟨l, k, s, hs, hl⟩
    exact ⟨k, s, hs, l, hl⟩

/-! ### Statements -/

/-- The tasks that run a loop at some time while events happen. -/
def loopTasks (m : Manager) (l : Loop) (events : List Event) : Set TaskId :=
  {k | ∃ past, past <+: events ∧ (m.run past).Runs l k}

/-- A request to start comes in before the manager is shut down. -/
def StartsOpen (m : Manager) (events : List Event) : Prop :=
  ∃ past rest, events = past ++ .call .start :: rest ∧ (m.run past).shuttingDown = false

/-- No task runs a loop, and none pings a pool for one: every task that another one has started
belongs to a task that is there and runs no loop. -/
structure Silent (m : Manager) : Prop where
  loops : ∀ l k, ¬ m.Runs l k
  helpers : ∀ k s p, m.tasks.get? k = some s → s.parent? = some p →
    ∃ s', m.tasks.get? p = some s' ∧ s'.loop? = none

/-! ### A loop stays what it is -/

/-- A task that goes on still runs the same loop, unless it has ended. If the manager is closed it
does not fall asleep. -/
structure Keeps (m : Manager) (task : TaskId) (l : Loop) : Prop where
  loop : ∀ s, m.tasks.get? task = some s → s.loop? = some l
  awake : m.closed = true → ∀ wake, m.tasks.get? task ≠ some (.loopSleeping l wake)

namespace Keeps

lemma of_await (hs : s.loop? = some l) (hawake : ∀ wake, s ≠ .loopSleeping l wake) :
    (m.await task s).Keeps task l := by
  constructor
  · intro s' hs'
    rw [get?_await] at hs'
    cases hs'
    exact hs
  · intro _ wake hwake
    rw [get?_await] at hwake
    exact hawake wake (Option.some.inj hwake)

lemma of_leave (m : Manager) (task : TaskId) (l : Loop) : (m.leave task).Keeps task l := by
  have hnone : (m.leave task).tasks.get? task = none := by
    rw [leave, Assoc.get?_erase, if_pos rfl]
  constructor
  · intro s hs
    rw [hnone] at hs
    cases hs
  · intro _ wake hwake
    rw [hnone] at hwake
    cases hwake

lemma of_rest (m : Manager) (task : TaskId) (l : Loop) : (m.rest task l).Keeps task l := by
  unfold rest
  split
  next => exact of_leave m task l
  next hopen =>
    constructor
    · intro s hs
      rw [get?_await] at hs
      cases hs
      rfl
    · intro hclosed
      exact absurd hclosed hopen

lemma of_evictRest (count : Nat) (pools : List (TenantId × PoolId)) :
    (m.evictRest task .loop count pools).Keeps task .eviction := by
  induction pools with
  | nil => exact of_rest m task .eviction
  | cons x rest ih =>
    obtain ⟨t, id⟩ := x
    simp only [evictRest]
    split
    next =>
      split
      next => exact of_await rfl fun _ h => by cases h
      next => exact ih
    next => exact ih

lemma of_awaitProbes (m : Manager) (task : TaskId) (sweep : HealthSweep) :
    (m.awaitProbes task .loop sweep).Keeps task .health := by
  unfold awaitProbes
  split
  next => exact of_await rfl fun _ h => by cases h
  next => exact of_rest m task .health

lemma of_noteProbe (sweep : HealthSweep) (t : TenantId) (id : PoolId)
    (result : Except PingFault Unit) :
    (m.noteProbe task .loop sweep t id result).Keeps task .health := by
  cases result with
  | ok _ => exact of_awaitProbes _ task _
  | error fault =>
    simp only [noteProbe]
    split
    next => exact of_await rfl fun _ h => by cases h
    next => exact of_awaitProbes _ task _

lemma of_beginRound (m : Manager) (task : TaskId) (l : Loop) :
    (m.beginRound task l).Keeps task l := by
  cases l with
  | eviction => exact of_evictRest 0 m.snapshot
  | health => exact of_awaitProbes _ task _

/-- The task waits where it did, or has gone on. -/
lemma of_answer (hat : m.tasks.get? task = some s) (hl : s.loop? = some l) (a : Answer) :
    m.answer task s a = m ∨ (m.answer task s a).Keeps task l := by
  cases s with
  | closing t id reason next =>
    cases a with
    | closed =>
      right
      simp only [answer, afterClosing_eq]
      cases next with
      | evict sweeper pools count =>
        cases sweeper with
        | caller => cases hl
        | loop =>
          cases hl
          exact of_evictRest _ pools
      | probe sweeper sweep =>
        cases sweeper with
        | caller => cases hl
        | loop =>
          cases hl
          exact of_awaitProbes _ task _
      | _ => cases hl
    | _ => exact .inl rfl
  | probing sweeper sweep =>
    cases sweeper with
    | caller => cases hl
    | loop =>
      cases hl
      cases a with
      | proceed =>
        simp only [answer, absorbProbe]
        split
        next => exact .inr (of_noteProbe _ _ _ _)
        next => exact .inl rfl
      | _ => exact .inl rfl
  | loopQueued loop =>
    cases hl
    cases a with
    | proceed => exact .inr (of_rest m task l)
    | _ => exact .inl rfl
  | loopSleeping loop wake =>
    cases hl
    cases a with
    | elapsed =>
      simp only [answer]
      split
      next => exact .inr (of_beginRound m task l)
      next => exact .inl rfl
    | proceed =>
      simp only [answer]
      split
      next => exact .inr (of_leave m task l)
      next => exact .inl rfl
    | _ => exact .inl rfl
  | _ => cases hl

end Keeps

/-! ### Which events start a loop -/

lemma Fresh.spawn (hf : m.Fresh) (s : Stage) : (m.spawn s).Fresh := by
  intro j s' hs'
  simp only [Manager.spawn, await, Assoc.get?_insert] at hs'
  split_ifs at hs' with hj
  · exact hj ▸ Nat.lt_succ_self _
  · exact (hf j s' hs').trans (Nat.lt_succ_self _)

lemma runs_spawn (hf : m.Fresh) :
    (m.spawn s).Runs l k ↔ m.Runs l k ∨ s.loop? = some l ∧ k = m.nextTask := by
  simp only [Runs, spawn, await, Assoc.get?_insert]
  by_cases hk : k = m.nextTask
  · subst hk
    simp [hf.get?_nextTask]
  · simp [hk]

lemma runs_finish (hnone : m.tasks.get? task = none) (outcome : Outcome) :
    (m.finish task outcome).Runs l k ↔ m.Runs l k := by
  simp only [Runs, finish, leave, Assoc.get?_erase]
  by_cases hk : k = task
  · subst hk
    simp [hnone]
  · simp [hk]

/-- The stages in which the loops of a configuration start. -/
def Config.loops (c : Config) : List Stage :=
  (c.evictionInterval.map fun _ => Stage.loopQueued .eviction).toList
    ++ (c.healthInterval.map fun _ => Stage.loopQueued .health).toList

lemma Config.isQueued_of_mem_loops (h : s ∈ c.loops) : s.isQueued = true := by
  simp only [loops, List.mem_append, Option.mem_toList, Option.map_eq_some_iff] at h
  rcases h with ⟨_, -, rfl⟩ | ⟨_, -, rfl⟩ <;> rfl

/-- The place of a loop among those that are started. -/
def Config.place (c : Config) : Loop → Nat
  | .eviction => 0
  | .health => c.evictionInterval.toList.length

lemma runs_spawnAll_loops (hf : m.Fresh) (c : Config) :
    (m.spawnAll c.loops).Runs l k ↔
      m.Runs l k ∨ (c.interval l).isSome = true ∧ k = m.nextTask + c.place l := by
  have hnext (s : Stage) : (m.spawn s).nextTask = m.nextTask + 1 := rfl
  unfold Config.loops Config.place
  cases hevict : c.evictionInterval <;> cases hcheck : c.healthInterval <;> cases l <;>
    simp [spawnAll, runs_spawn, hf, hf.spawn, Config.interval, Stage.loop?, hevict, hcheck, hnext]

/-- The first request to start starts the loops of the configuration, if it comes in before the
manager is shut down. -/
lemma step_start (hopen : m.shuttingDown = false) (hfirst : m.started = false) :
    m.step (.call .start) =
      (({ m with nextTask := m.nextTask + 1, started := true } : Manager).spawnAll
        m.config.loops).finish m.nextTask .done := by
  simp only [step, call, admitRequest, beginLoops, hopen, hfirst, Bool.or_false,
    Bool.false_eq_true, if_false, Config.loops]

/-- A request to start does nothing once the manager is shut down or the loops were started. -/
lemma step_start_of_late (h : m.shuttingDown = true ∨ m.started = true) :
    m.step (.call .start) =
      ({ m with nextTask := m.nextTask + 1 } : Manager).finish m.nextTask .done := by
  have hlate : (m.shuttingDown || m.started) = true := by simpa using h
  simp only [step, call, admitRequest, beginLoops, hlate, if_true]

/-- The first request to start makes a task for each loop that the configuration has. -/
lemma runs_start (hf : m.Fresh) (hopen : m.shuttingDown = false) (hfirst : m.started = false) :
    (m.step (.call .start)).Runs l k ↔
      m.Runs l k ∨ (m.config.interval l).isSome = true ∧
        k = m.nextTask + 1 + m.config.place l := by
  have hf' : ({ m with nextTask := m.nextTask + 1, started := true } : Manager).Fresh :=
    fun j s hs => (hf j s hs).trans (Nat.lt_succ_self _)
  have q := Quiet.spawnAll hf' fun s hs => Config.isQueued_of_mem_loops (c := m.config) hs
  have hnone := (q.get?_eq_of_lt (Nat.lt_succ_self m.nextTask)).trans hf.get?_nextTask
  rw [step_start hopen hfirst, runs_finish hnone, runs_spawnAll_loops hf']
  rfl

lemma runs_start_of_late (hf : m.Fresh) (h : m.shuttingDown = true ∨ m.started = true) :
    (m.step (.call .start)).Runs l k ↔ m.Runs l k := by
  have hnone : ({ m with nextTask := m.nextTask + 1 } : Manager).tasks.get? m.nextTask = none :=
    hf.get?_nextTask
  rw [step_start_of_late h, runs_finish hnone]
  rfl

/-- An event that reaches no task leaves every task that still waits where it was. -/
lemma get?_of_unreached (ho : e.origin? m = none) (hs : (m.step e).tasks.get? k = some s) :
    m.tasks.get? k = some s := by
  cases e with
  | cancel task =>
    simp only [step, cancel] at hs
    split at hs
    next =>
      split at hs
      next => exact hs
      next =>
        rw [Assoc.get?_filter] at hs
        exact Option.eq_some_of_filter_eq_some hs
    next => exact hs
  | _ =>
    rw [(tasks_of_unreached ho rfl).1] at hs
    exact hs

/-- A loop that is reached goes on as the same one. -/
lemma runs_of_reached (he : e ≠ .call .start) (ho : e.origin? m = some (task, o))
    (hs : (m.step e).tasks.get? k = some s) (hl : s.loop? = some l) : m.Runs l k := by
  have hloop : s.isLoop = true := by rw [← s.isSome_loop?, hl]; rfl
  rcases (Course.of_step ho).tasks k s hs with hold | ⟨rfl, hsucc⟩ | hstarted
  · exact ⟨s, hold, hl⟩
  · have hbefore := hsucc.loop hloop
    cases Event.Drives.of_origin? ho with
    | call => cases hbefore
    | @resume _ s' a hs' =>
      obtain ⟨l', hl'⟩ := Option.isSome_iff_exists.1 (s'.isSome_loop?.trans hbefore)
      rw [step_resume hs'] at hs
      rcases Keeps.of_answer hs' hl' a with hsame | hkeeps
      · rw [hsame] at hs
        exact ⟨s, hs, hl⟩
      · have hkept := hkeeps.loop s hs
        rw [hl] at hkept
        exact ⟨s', hs', hl'.trans hkept.symm⟩
  · cases hstarted with
    | warm | probe => cases hl
    | loop ho' =>
      subst ho'
      cases Event.Drives.of_origin? ho with
      | call => exact absurd rfl he

/-- Only the first request to start that comes in before the manager is shut down starts a loop. -/
lemma runs_step (hf : m.Fresh) (h : (m.step e).Runs l k) :
    m.Runs l k ∨ e = .call .start ∧ m.shuttingDown = false ∧ m.started = false := by
  by_cases he : e = .call .start
  · subst he
    by_cases hlate : m.shuttingDown = true ∨ m.started = true
    · exact .inl ((runs_start_of_late hf hlate).1 h)
    · simp only [not_or, Bool.not_eq_true] at hlate
      exact .inr ⟨rfl, hlate⟩
  · obtain ⟨s, hs, hl⟩ := h
    left
    cases ho : e.origin? m with
    | none => exact ⟨s, get?_of_unreached ho hs, hl⟩
    | some reached => exact runs_of_reached he ho hs hl

lemma started_spawnAll (m : Manager) (stages : List Stage) :
    (m.spawnAll stages).started = m.started := by
  simp only [spawnAll]
  induction stages generalizing m with
  | nil => rfl
  | cons s rest ih => exact ih (m.spawn s)

/-- The loops count as started from the first request to start on that comes in before the manager
is shut down. -/
lemma started_step : (m.step e).started = true ↔
    m.started = true ∨ e = .call .start ∧ m.shuttingDown = false := by
  by_cases he : e = .call .start
  · subst he
    by_cases hlate : m.shuttingDown = true ∨ m.started = true
    · have hsame : (m.step (.call .start)).started = m.started := by
        rw [step_start_of_late hlate]
        rfl
      rw [hsame]
      constructor
      · exact .inl
      · rintro (hstarted | ⟨-, hopen⟩)
        · exact hstarted
        · rw [hopen] at hlate
          exact hlate.resolve_left Bool.false_ne_true
    · simp only [not_or, Bool.not_eq_true] at hlate
      have hafter : (m.step (.call .start)).started = true := by
        rw [step_start hlate.1 hlate.2]
        exact started_spawnAll _ _
      simp [hafter, hlate.1]
  · have hsame : (m.step e).started = m.started := by
      cases ho : e.origin? m with
      | none => exact started_of_unreached ho
      | some reached =>
        obtain ⟨task, o⟩ := reached
        refine (Course.of_step ho).started.resolve_right fun hstart => ?_
        cases Event.Drives.of_origin? ho with
        | call request =>
          cases hstart
          exact he rfl
        | resume => cases hstart
    simp [hsame, he]

/-! ### Every run -/

lemma startsOpen_concat : m.StartsOpen (events ++ [e]) ↔
    m.StartsOpen events ∨ e = .call .start ∧ (m.run events).shuttingDown = false := by
  constructor
  · rintro ⟨past, rest, heq, hopen⟩
    rcases List.eq_nil_or_concat rest with rfl | ⟨rest, e', rfl⟩
    · obtain ⟨rfl, hlast⟩ := List.append_inj' heq rfl
      cases hlast
      exact .inr ⟨rfl, hopen⟩
    · rw [List.concat_eq_append, ← List.cons_append, ← List.append_assoc] at heq
      exact .inl ⟨past, rest, (List.append_inj' heq rfl).1, hopen⟩
  · rintro (⟨past, rest, rfl, hopen⟩ | ⟨rfl, hopen⟩)
    · exact ⟨past, rest ++ [e], by simp, hopen⟩
    · exact ⟨events, [], rfl, hopen⟩

lemma started_run (c : Config) (events : List Event) :
    ((new c).run events).started = true ↔ (new c).StartsOpen events := by
  induction events using List.reverseRecOn with
  | nil =>
    constructor
    · intro h
      cases h
    · rintro ⟨past, rest, heq, -⟩
      simp at heq
  | append_singleton past e ih =>
    rw [run_append, startsOpen_concat, ← ih]
    exact started_step

lemma loopTasks_concat : m.loopTasks l (events ++ [e]) =
    m.loopTasks l events ∪ {k | ((m.run events).step e).Runs l k} := by
  ext k
  simp only [loopTasks, List.prefix_concat_iff, Set.mem_ofPred_eq, Set.mem_union]
  constructor
  · rintro ⟨past, rfl | hpast, hk⟩
    · rw [run_append] at hk
      exact .inr hk
    · exact .inl ⟨past, hpast, hk⟩
  · rintro (⟨past, hpast, hk⟩ | hk)
    · exact ⟨past, .inr hpast, hk⟩
    · refine ⟨events ++ [e], .inl rfl, ?_⟩
      rw [run_append]
      exact hk

lemma runs_subset_loopTasks : {k | (m.run events).Runs l k} ⊆ m.loopTasks l events :=
  fun _ hk => ⟨events, List.prefix_rfl, hk⟩

lemma loopTasks_nil (c : Config) (l : Loop) : (new c).loopTasks l [] = ∅ := by
  rw [Set.eq_empty_iff_forall_notMem]
  rintro k ⟨past, hpast, s, hs, -⟩
  rw [List.prefix_nil.1 hpast] at hs
  cases hs

/-- Unless an event starts the loops, no other task comes to run one. -/
lemma loopTasks_concat_of_late (hf : (m.run events).Fresh)
    (h : ¬ (e = .call .start ∧ (m.run events).shuttingDown = false ∧
      (m.run events).started = false)) :
    m.loopTasks l (events ++ [e]) = m.loopTasks l events := by
  rw [loopTasks_concat, Set.union_eq_left]
  intro k hk
  rcases runs_step hf hk with hold | hstarts
  · exact runs_subset_loopTasks hold
  · exact absurd hstarts h

/-- Each loop is run by one task if the configuration has it and a request to start comes in before
the manager is shut down, and by none otherwise. -/
lemma loopTasks_run (c : Config) (l : Loop) (events : List Event) :
    ((new c).loopTasks l events).Subsingleton ∧
    (((new c).loopTasks l events).Nonempty ↔
      (c.interval l).isSome = true ∧ (new c).StartsOpen events) := by
  induction events using List.reverseRecOn with
  | nil =>
    rw [loopTasks_nil]
    refine ⟨Set.subsingleton_empty, ?_⟩
    simp [StartsOpen]
  | append_singleton past e ih =>
    have hf := (fresh_new c).run past
    by_cases hstarts : e = .call .start ∧ ((new c).run past).shuttingDown = false ∧
        ((new c).run past).started = false
    · obtain ⟨rfl, hopen, hfirst⟩ := hstarts
      have hnone : (new c).loopTasks l past = ∅ := by
        rw [← Set.not_nonempty_iff_eq_empty, ih.2, ← started_run, hfirst]
        simp
      have hafter : (new c).loopTasks l (past ++ [.call .start]) =
          {k | (c.interval l).isSome = true ∧
            k = ((new c).run past).nextTask + 1 + c.place l} := by
        have hbefore (k : TaskId) : ¬ ((new c).run past).Runs l k := fun hk =>
          (hnone ▸ runs_subset_loopTasks hk : k ∈ (∅ : Set TaskId))
        rw [loopTasks_concat, hnone, Set.empty_union]
        ext k
        rw [Set.mem_ofPred_eq, runs_start hf hopen hfirst, config_run]
        simp [hbefore k]
      rw [hafter]
      constructor
      · rintro k ⟨-, rfl⟩ k' ⟨-, rfl⟩
        rfl
      · rw [startsOpen_concat]
        constructor
        · rintro ⟨k, hsome, -⟩
          exact ⟨hsome, .inr ⟨rfl, hopen⟩⟩
        · rintro ⟨hsome, -⟩
          exact ⟨_, hsome, rfl⟩
    · have hsame : (new c).StartsOpen (past ++ [e]) ↔ (new c).StartsOpen past := by
        rw [startsOpen_concat]
        constructor
        · rintro (hold | ⟨he, hopen⟩)
          · exact hold
          · rw [← started_run]
            by_contra hfirst
            exact hstarts ⟨he, hopen, Bool.eq_false_iff.2 hfirst⟩
        · exact .inl
      rw [loopTasks_concat_of_late hf hstarts, hsame]
      exact ih

/-! ### After the request that shuts the manager down -/

/-- While there are loops, a request has not ended: it waits for them, unless it was cancelled. -/
def Holds (m : Manager) (k : TaskId) : Prop :=
  m.hasLoops = true → m.outcomes.get? k = none ∧
    ∀ s, m.tasks.get? k = some s → ∃ count, s = .joining count

/-- Once the manager is shut down no loop is started. -/
lemma hasLoops_of_step (hf : m.Fresh) (hdown : m.shuttingDown = true)
    (h : (m.step e).hasLoops = true) : m.hasLoops = true := by
  obtain ⟨l, k, hk⟩ := hasLoops_iff_runs.1 h
  rcases runs_step hf hk with hold | ⟨-, hopen, -⟩
  · exact hasLoops_iff_runs.2 ⟨l, k, hold⟩
  · rw [hdown] at hopen
    cases hopen

lemma Performs.holds (hr : Regular m) (h : Performs m e k) : (m.step e).Holds k := by
  intro hloops
  obtain ⟨count, hk⟩ := h.joins hloops
  refine ⟨(hr.step e).pending k _ hk, fun s hs => ?_⟩
  rw [hk] at hs
  cases hs
  exact ⟨count, rfl⟩

lemma Holds.step (hf : m.Fresh) (hdown : m.shuttingDown = true) (hlt : k < m.nextTask)
    (h : m.Holds k) (e : Event) : (m.step e).Holds k := by
  intro hloops
  have hbefore := hasLoops_of_step hf hdown hloops
  obtain ⟨hout, hwaits⟩ := h hbefore
  have ht := Turn.of_step hf e
  by_cases hreached : ∃ o, e.origin? m = some (k, o)
  · obtain ⟨o, ho⟩ := hreached
    obtain ⟨a, s, rfl, -, hs⟩ := Event.exists_resume ho hlt
    obtain ⟨count, rfl⟩ := hwaits s hs
    have hstay : m.answer k (.joining count) a = m := by
      cases a with
      | proceed => simp only [answer, hbefore, if_true]
      | _ => rfl
    rw [step_resume hs, hstay]
    exact ⟨hout, hwaits⟩
  · have hother (o : Origin) : e.origin? m ≠ some (k, o) := fun ho => hreached ⟨o, ho⟩
    constructor
    · rw [ht.outcomes_of_not_reached hother, hout]
    · intro s hs
      exact hwaits s (ht.get?_before hlt hother hs)

lemma Performs.holds_run (hr : Regular m) (h : Performs m e k) (events : List Event) :
    ((m.step e).run events).shuttingDown = true ∧ ((m.step e).run events).Holds k := by
  have hclosing := h.closing hr.fresh
  suffices hrun : ((m.step e).run events).shuttingDown = true ∧
      k < ((m.step e).run events).nextTask ∧ ((m.step e).run events).Holds k from
    ⟨hrun.1, hrun.2.2⟩
  induction events using List.reverseRecOn with
  | nil => exact ⟨hclosing.down, hclosing.started, h.holds hr⟩
  | append_singleton past e' ih =>
    obtain ⟨hdown, hlt, hholds⟩ := ih
    have hf := ((hr.step e).run past).fresh
    have ht := Turn.of_step hf e'
    rw [run_append]
    exact ⟨ht.shuttingDown hdown, hlt.trans_le ht.nextTask_le, hholds.step hf hdown hlt e'⟩

/-- Where no task runs a loop, none works for one. -/
lemma Kin.silent (hkin : m.Kin) (h : m.hasLoops = false) : Silent m := by
  have hnone : ∀ l k, ¬ m.Runs l k := by
    intro l k hk
    rw [hasLoops_iff_runs.2 ⟨l, k, hk⟩] at h
    cases h
  refine ⟨hnone, fun k s p hs hp => ?_⟩
  obtain ⟨s', hs', -⟩ := hkin p (expectsReports_of_child hs hp)
  refine ⟨s', hs', ?_⟩
  cases hl : s'.loop? with
  | none => rfl
  | some l => exact absurd ⟨s', hs', hl⟩ (hnone l p)

/-- Once the manager is shut down and no task runs a loop, none ever does again. -/
lemma silent_run {c : Config} (hdown : ((new c).run events).shuttingDown = true)
    (hnone : ((new c).run events).hasLoops = false) (later : List Event) :
    Silent ((new c).run (events ++ later)) ∧
      ∀ l, (new c).loopTasks l (events ++ later) = (new c).loopTasks l events := by
  suffices h : ((new c).run (events ++ later)).shuttingDown = true ∧
      ((new c).run (events ++ later)).hasLoops = false ∧
      ∀ l, (new c).loopTasks l (events ++ later) = (new c).loopTasks l events from
    ⟨(kin_run c _).silent h.2.1, h.2.2⟩
  induction later using List.reverseRecOn with
  | nil =>
    rw [List.append_nil]
    exact ⟨hdown, hnone, fun _ => rfl⟩
  | append_singleton past e ih =>
    obtain ⟨hdown', hnone', hsame⟩ := ih
    have hf := (fresh_new c).run (events ++ past)
    rw [← List.append_assoc, run_append]
    refine ⟨(Turn.of_step hf e).shuttingDown hdown', ?_, fun l => ?_⟩
    · rw [Bool.eq_false_iff] at hnone' ⊢
      exact mt (hasLoops_of_step hf hdown') hnone'
    · rw [loopTasks_concat_of_late hf ?_, hsame l]
      rintro ⟨-, hopen, -⟩
      rw [hdown'] at hopen
      cases hopen

/-- Whatever happens in whatever order, each loop is run by one task at most, and by one just if the
configuration has the loop and a request to start comes in before the manager is shut down. When the
request that shuts the manager down has ended, no task runs a loop or pings a pool for one, and no
later request starts a loop. -/
theorem loops_started_once (c : Config) (events : List Event) :
    (∀ l, ((new c).loopTasks l events).Subsingleton ∧
      (((new c).loopTasks l events).Nonempty ↔
        (c.interval l).isSome = true ∧ (new c).StartsOpen events)) ∧
    ∀ past e rest k, events = past ++ e :: rest → Performs ((new c).run past) e k →
      ((new c).run events).outcomes.get? k ≠ none →
      ∀ later, Silent ((new c).run (events ++ later)) ∧
        ∀ l, (new c).loopTasks l (events ++ later) = (new c).loopTasks l events := by
  refine ⟨fun l => loopTasks_run c l events, ?_⟩
  rintro past e rest k rfl hp hout later
  have hrun : (new c).run (past ++ e :: rest) = (((new c).run past).step e).run rest :=
    run_append (new c) past (e :: rest)
  obtain ⟨hdown, hholds⟩ := hp.holds_run ((Regular.new c).run past) rest
  rw [← hrun] at hdown hholds
  refine silent_run hdown ?_ later
  rw [Bool.eq_false_iff]
  exact fun hloops => hout (hholds hloops).1

/-- A loop is in the middle of a check when a request to close comes in, and another one to start
later. -/
theorem loops_started_once_closedWhilePinged :
    let m := new (.new "app" "secret")
    let events := lentAndPinged ++ .call .close ::
      [.resume 4 (.pinged (.ok ())), .resume 3 .proceed, .resume 2 .proceed, .resume 5 .proceed,
        .resume 5 .closed]
    Performs (m.run lentAndPinged) (.call .close) 5 ∧
    (m.run events).outcomes.get? 5 = some .done ∧
    m.loopTasks .health events = {3} ∧
    Silent (m.run (events ++ [.call .start])) ∧
    m.loopTasks .health (events ++ [.call .start]) = {3} := by
  intro m events
  have hnext : (m.run lentAndPinged).nextTask = 5 := by decide +kernel
  have hp : Performs (m.run lentAndPinged) (.call .close) 5 :=
    ⟨by decide +kernel, by decide +kernel, .call .close, by rw [← hnext]; rfl, rfl⟩
  have hout : (m.run events).outcomes.get? 5 = some .done := by decide +kernel
  have hruns : (m.run lentAndPinged).Runs .health 3 := runs_iff.2 (by decide +kernel)
  obtain ⟨hstarts, hends⟩ := loops_started_once (.new "app" "secret") events
  have htasks : m.loopTasks .health events = {3} :=
    (hstarts .health).1.eq_singleton_of_mem ⟨lentAndPinged, List.prefix_append _ _, hruns⟩
  obtain ⟨hsilent, hsame⟩ := hends lentAndPinged (.call .close) _ 5 rfl hp
    (by rw [hout]; exact nofun) [.call .start]
  exact ⟨hp, hout, htasks, hsilent, (hsame .health).trans htasks⟩

/-! ### The signal to end -/

/-- Once the manager is closed no loop falls asleep: one that sleeps did so before, and ends when it
is told to go on. -/
theorem asleep_before_of_closed (hclosed : m.closed = true) {wake : Nat}
    (hs : (m.step e).tasks.get? k = some (.loopSleeping l wake)) :
    m.tasks.get? k = some (.loopSleeping l wake) ∧
      (m.step (.resume k .proceed)).tasks.get? k = none := by
  have hbefore : m.tasks.get? k = some (.loopSleeping l wake) := by
    cases ho : e.origin? m with
    | none => exact get?_of_unreached ho hs
    | some reached =>
      obtain ⟨task, o⟩ := reached
      have hc := Course.of_step ho
      rcases hc.tasks k _ hs with hold | ⟨rfl, hsucc⟩ | hstarted
      · exact hold
      · have hloop := hsucc.loop rfl
        cases Event.Drives.of_origin? ho with
        | call => cases hloop
        | @resume _ s' a hs' =>
          obtain ⟨l', hl'⟩ := Option.isSome_iff_exists.1 (s'.isSome_loop?.trans hloop)
          have hclosed' := hc.closed_mono hclosed
          rw [step_resume hs'] at hs hclosed'
          rcases Keeps.of_answer hs' hl' a with hsame | hkeeps
          · rw [hsame] at hs
            exact hs
          · have hkept : l = l' := Option.some.inj (hkeeps.loop _ hs)
            subst hkept
            exact absurd hs (hkeeps.awake hclosed' wake)
      · cases hstarted
  refine ⟨hbefore, ?_⟩
  rw [step_resume hbefore]
  simp [answer, hclosed, leave, Assoc.get?_erase]

end Tenancy.Manager
