import Tenancy.Proofs.Manager.Ledger

/-!
# Tasks that wait for connections to be closed

A task that has taken a pool out of use, or has connections that are of no use, waits until they are
closed and then goes on. `Move.of_answer_closed` says how, and `backlog_answer_closed` that it waits
in this way only as often as it has pools left to go through.

A backend in memory closes connections as soon as it is told to, so that a task that tells it to
goes on before anything else happens. `runInMemory` is a run over such a backend. After every event
it comes to a state in which no task waits for connections to be closed, `settled_runInMemory`, and
it is one of the runs over any backend, `exists_run_eq`.
-/

namespace Tenancy.Manager

variable {m m' : Manager} {task k : TaskId} {s s' : Stage}

/-- Whether a task waits for connections to be closed. -/
def Stage.isClosing : Stage → Bool
  | .rejecting _ _ _ _ | .yielding _ _ _ _ | .closing _ _ _ _ => true
  | _ => false

/-- The connections of a pool. -/
def connectionsOf (m : Manager) (id : PoolId) : Option ConnectionsId :=
  (m.pools[id]?).map Pool.connections

/-- The connections that a task holds: those that it has opened, or those of a pool that it has
taken out of use. -/
def Stage.connections? (ofPool : PoolId → Option ConnectionsId) : Stage → Option ConnectionsId
  | .pinging _ _ _ id _ | .rejecting _ _ id _ | .yielding _ _ id _ => some id
  | .closing _ pool _ _ => ofPool pool
  | _ => none

/-- The connections that a task waits for are closed. -/
def closeHeld (m : Manager) (s : Stage) : Manager :=
  { m with
    ledger := (s.connections? m.connectionsOf).elim m.ledger m.ledger.close
    closures :=
      match s with
      | .closing t _ reason _ => m.closures ++ [(t, reason)]
      | _ => m.closures }

/-! ### What a task does afterwards -/

lemma afterClosing_eq (m : Manager) (task : TaskId) (t : TenantId) (id : PoolId) (reason : String)
    (next : Next) : m.afterClosing task t id reason next =
      match next with
      | .withdraw demand => (m.closeHeld (.closing t id reason next)).fail task demand .closed
      | .evict sweeper pools count =>
        (m.closeHeld (.closing t id reason next)).evictRest task sweeper (count + 1) pools
      | .probe sweeper sweep =>
        (m.closeHeld (.closing t id reason next)).awaitProbes task sweeper
          { sweep with closed := sweep.closed + 1 }
      | .retire => (m.closeHeld (.closing t id reason next)).finish task (.retired true)
      | .setStatus => (m.closeHeld (.closing t id reason next)).finish task .done
      | .shutdown pools count =>
        (m.closeHeld (.closing t id reason next)).closeRest task count pools := by
  have hledger : (m.pools[id]?).elim m.ledger (fun p => m.ledger.close p.connections) =
      (m.connectionsOf id).elim m.ledger m.ledger.close := by
    simp [connectionsOf, Option.elim_map, Function.comp_def]
  cases next <;> simp only [afterClosing, closeHeld, Stage.connections?, hledger]

/-- A task goes on from the state in which the connections are closed. -/
theorem Move.of_answer_closed (hs : s.isClosing = true) :
    Move (m.closeHeld s) task (.stage s) (m.answer task s .closed) := by
  have q := Quiet.refl (m.closeHeld s)
  cases s with
  | rejecting d t connections fault => exact .giveUp q rfl rfl
  | yielding d t connections winner =>
    exact of_deliver (q.trans (.touch _ winner _)) rfl rfl (.inr ⟨_, rfl⟩)
  | closing t id reason next =>
    simp only [answer, afterClosing_eq]
    cases next with
    | withdraw d => exact of_fail q rfl d .closed
    | evict sweeper pools count => exact of_evictRest q rfl sweeper _ pools
    | probe sweeper sweep => exact of_awaitProbes q rfl sweeper _
    | retire => exact .finish q rfl rfl
    | setStatus => exact .finish q rfl rfl
    | shutdown pools count => exact of_closeRest q rfl rfl count pools
  | _ => cases hs

/-! ### Pools that are left to go through -/

/-- The number of pools that a task may still close after the one it closes. -/
def Next.backlog : Next → Nat
  | .evict _ pools _ | .shutdown pools _ => pools.length
  | _ => 0

/-- How often a task may still wait for connections to be closed, at most, without waiting for
anything else. -/
def Stage.backlog : Stage → Nat
  | .rejecting _ _ _ _ | .yielding _ _ _ _ => 1
  | .closing _ _ _ next => next.backlog + 1
  | _ => 0

lemma Stage.backlog_pos (h : s.isClosing = true) : 0 < s.backlog := by
  cases s <;> simp_all [isClosing, backlog]

lemma Stage.backlog_eq_zero (h : s.isClosing = false) : s.backlog = 0 := by
  cases s <;> simp_all [isClosing, backlog]

section Backlog

lemma tasks_fail (m : Manager) (task : TaskId) (d : Demand) (e : PoolError) :
    (m.fail task d e).tasks = m.tasks.erase task := by
  cases d <;> rfl

lemma get?_fail (m : Manager) (task : TaskId) (d : Demand) (e : PoolError) :
    (m.fail task d e).tasks.get? task = none := by
  rw [tasks_fail, Assoc.get?_erase, if_pos rfl]

lemma backlog_await (h : (m.await task s').tasks.get? task = some s) : s.backlog = s'.backlog := by
  simp only [await, Assoc.get?_insert, if_true, Option.some.injEq] at h
  rw [h]

lemma backlog_finishSweep {sweeper : Sweeper} {loop : Loop} {outcome : Outcome}
    (h : (m.finishSweep task sweeper loop outcome).tasks.get? task = some s) : s.backlog = 0 := by
  cases sweeper with
  | caller => simp [finishSweep, finish, leave, Assoc.get?_erase] at h
  | loop =>
    simp only [finishSweep, rest] at h
    split at h
    · simp [leave, Assoc.get?_erase] at h
    · exact backlog_await h

lemma backlog_awaitProbes {sweeper : Sweeper} {sweep : HealthSweep}
    (h : (m.awaitProbes task sweeper sweep).tasks.get? task = some s) : s.backlog = 0 := by
  unfold awaitProbes at h
  split at h
  · exact backlog_await h
  · exact backlog_finishSweep h

lemma backlog_evictRest {sweeper : Sweeper} {count : Nat} {pools : List (TenantId × PoolId)}
    (h : (m.evictRest task sweeper count pools).tasks.get? task = some s) :
    s.backlog ≤ pools.length := by
  induction pools with
  | nil => exact (backlog_finishSweep h).le
  | cons e rest ih =>
    simp only [evictRest] at h
    split at h
    · split at h
      · exact (backlog_await h).le
      · exact (ih h).trans (Nat.le_succ _)
    · exact (ih h).trans (Nat.le_succ _)

lemma backlog_closeRest {count : Option Nat} {pools : List (TenantId × PoolId)}
    (h : (m.closeRest task count pools).tasks.get? task = some s) :
    s.backlog ≤ pools.length := by
  induction pools with
  | nil => cases count <;> simp [closeRest, finishShutdown, finish, leave, Assoc.get?_erase] at h
  | cons e rest ih =>
    simp only [closeRest] at h
    split at h
    · exact (backlog_await h).le
    · exact (ih h).trans (Nat.le_succ _)

lemma backlog_beginCreation {d : Demand} {t : TenantId}
    (h : (m.beginCreation task d t).tasks.get? task = some s) : s.backlog = 0 := by
  unfold beginCreation at h
  split at h
  · rw [get?_fail] at h
    cases h
  · exact backlog_await h

lemma backlog_deliver {d : Demand} {t : TenantId} {id : PoolId}
    (h : (m.deliver task d t id).tasks.get? task = some s) : s.backlog = 0 := by
  have hended : ∀ {tasks : Assoc TaskId Stage}, (tasks.erase task).get? task ≠ some s := by
    simp [Assoc.get?_erase]
  cases d with
  | get | warm => exact absurd h hended
  | lease =>
    simp only [deliver] at h
    split at h
    · exact absurd h hended
    · unfold beginLease at h
      split at h
      · rw [get?_fail] at h
        cases h
      · split at h
        · exact absurd h hended
        · exact backlog_beginCreation h

end Backlog

/-- Each time that connections are closed there is less left. -/
theorem backlog_answer_closed (hs : s.isClosing = true)
    (h : (m.answer task s .closed).tasks.get? task = some s') : s'.backlog < s.backlog := by
  cases s with
  | rejecting d t connections fault =>
    have hnone := get?_fail { m with ledger := m.ledger.close connections }.giveSlot task d
      (.setup t (.ping fault))
    rw [show (m.answer task (.rejecting d t connections fault) .closed).tasks.get? task = none
      from hnone] at h
    cases h
  | yielding d t connections winner =>
    rw [backlog_deliver h]
    exact Nat.zero_lt_one
  | closing t id reason next =>
    simp only [answer, afterClosing_eq] at h
    cases next with
    | withdraw d =>
      rw [get?_fail] at h
      cases h
    | evict sweeper pools count => exact Nat.lt_succ_of_le (backlog_evictRest h)
    | probe sweeper sweep =>
      rw [backlog_awaitProbes h]
      exact Nat.succ_pos _
    | retire | setStatus => simp [finish, leave, Assoc.get?_erase] at h
    | shutdown pools count => exact Nat.lt_succ_of_le (backlog_closeRest h)
  | _ => cases hs

/-! ### A backend in memory -/

/-- Lets a task go on until it no longer waits for connections to be closed, so often at most. -/
def finishClosing (m : Manager) (task : TaskId) : Nat → Manager
  | 0 => m
  | fuel + 1 =>
    match m.tasks.get? task with
    | some s => if s.isClosing then (m.resume task .closed).finishClosing task fuel else m
    | none => m

/-- Lets every task go on that waits for connections to be closed. -/
def settle (m : Manager) : Manager :=
  m.tasks.toList.foldl (fun m e => m.finishClosing e.1 e.2.backlog) m

/-- What a manager is after several events, over a backend in memory. -/
def runInMemory (m : Manager) (events : List Event) : Manager :=
  events.foldl (fun m e => (m.step e).settle) m

/-- No task waits for connections to be closed. -/
def Settled (m : Manager) : Prop :=
  ∀ task s, m.tasks.get? task = some s → s.isClosing = false

lemma Stage.isClosing_of_isQueued (h : s.isQueued = true) : s.isClosing = false := by
  cases s <;> simp_all [isQueued, isClosing]

/-- A task that goes on leaves the others alone, apart from those that it starts. -/
lemma get?_resume_closed (hs : m.tasks.get? task = some s) (hc : s.isClosing = true)
    (hk : k ≠ task) (h : (m.resume task .closed).tasks.get? k = some s') :
    m.tasks.get? k = some s' ∨ s'.isQueued = true := by
  simp only [resume, hs] at h
  rcases (Move.of_answer_closed hc).get?_cases h with h | h | ⟨h, -⟩
  · exact .inl h
  · exact .inr h
  · exact absurd h hk

lemma get?_finishClosing_other {fuel : Nat} (hk : k ≠ task)
    (h : (m.finishClosing task fuel).tasks.get? k = some s) :
    m.tasks.get? k = some s ∨ s.isQueued = true := by
  induction fuel generalizing m with
  | zero => exact .inl h
  | succ fuel ih =>
    simp only [finishClosing] at h
    split at h
    next s₀ hs₀ =>
      split at h
      next hc =>
        rcases ih h with h | h
        · exact get?_resume_closed hs₀ hc hk h
        · exact .inr h
      next => exact .inl h
    next => exact .inl h

/-- A task that goes on often enough no longer waits for connections to be closed. -/
lemma isClosing_finishClosing {fuel : Nat}
    (hfuel : ∀ s, m.tasks.get? task = some s → s.backlog ≤ fuel)
    (h : (m.finishClosing task fuel).tasks.get? task = some s) : s.isClosing = false := by
  induction fuel generalizing m with
  | zero =>
    rw [← Bool.not_eq_true]
    intro hc
    have hpos := Stage.backlog_pos hc
    have hle := hfuel s h
    omega
  | succ fuel ih =>
    simp only [finishClosing] at h
    split at h
    next s₀ hs₀ =>
      split at h
      next hc =>
        apply ih _ h
        intro s' hs'
        simp only [resume, hs₀] at hs'
        have hlt := backlog_answer_closed hc hs'
        have hle := hfuel s₀ hs₀
        omega
      next hc =>
        rw [hs₀] at h
        cases h
        simpa using hc
    next hnone =>
      rw [hnone] at h
      cases h

lemma settled_foldl {waiting : List (TaskId × Stage)}
    (hmem : ∀ k s, m.tasks.get? k = some s → s.isClosing = true → k ∈ waiting.map Prod.fst)
    (hfuel : ∀ e ∈ waiting, ∀ s, m.tasks.get? e.1 = some s → s.backlog ≤ e.2.backlog) :
    (waiting.foldl (fun m e => m.finishClosing e.1 e.2.backlog) m).Settled := by
  induction waiting generalizing m with
  | nil =>
    intro k s hs
    rw [← Bool.not_eq_true]
    intro hc
    cases hmem k s hs hc
  | cons e rest ih =>
    have hdone : ∀ s, (m.finishClosing e.1 e.2.backlog).tasks.get? e.1 = some s →
        s.isClosing = false :=
      fun s hs => isClosing_finishClosing (hfuel e (by simp)) hs
    apply ih
    · intro k s hs hc
      have hk : k ≠ e.1 := by
        rintro rfl
        rw [hdone s hs] at hc
        cases hc
      rcases get?_finishClosing_other hk hs with hs | hq
      · have hk' := hmem k s hs hc
        simpa [hk] using hk'
      · rw [Stage.isClosing_of_isQueued hq] at hc
        cases hc
    · intro e' he' s hs
      rcases Bool.eq_false_or_eq_true s.isClosing with hc | hc
      · have hk : e'.1 ≠ e.1 := by
          intro heq
          rw [heq] at hs
          rw [hdone s hs] at hc
          cases hc
        rcases get?_finishClosing_other hk hs with hs | hq
        · exact hfuel e' (by simp [he']) s hs
        · rw [Stage.isClosing_of_isQueued hq] at hc
          cases hc
      · rw [Stage.backlog_eq_zero hc]
        exact Nat.zero_le _

lemma settled_settle (m : Manager) : m.settle.Settled := by
  apply settled_foldl
  · intro k s hs _
    exact List.mem_map.2 ⟨(k, s), Assoc.get?_eq_some_iff.1 hs, rfl⟩
  · intro e he s hs
    rw [Assoc.get?_eq_some_iff.2 he] at hs
    cases hs
    exact le_rfl

/-- What is preserved when connections are closed holds when all tasks have settled. -/
lemma settle_induction {I : Manager → Prop}
    (h : ∀ m k s, I m → m.tasks.get? k = some s → s.isClosing = true →
      I (m.step (.resume k .closed)))
    (hm : I m) : I m.settle := by
  have hfinish : ∀ (k : TaskId) (fuel : ℕ) (m : Manager), I m → I (m.finishClosing k fuel) := by
    intro k fuel
    induction fuel with
    | zero => exact fun _ hm => hm
    | succ fuel ih =>
      intro m hm
      simp only [finishClosing]
      split
      next s hs =>
        split
        next hc => exact ih _ (h m k s hm hs hc)
        next => exact hm
      next => exact hm
  unfold settle
  generalize m.tasks.toList = waiting
  induction waiting generalizing m with
  | nil => exact hm
  | cons e rest ih => exact ih (hfinish _ _ _ hm)

lemma settle_eq_self (h : m.Settled) : m.settle = m := by
  refine settle_induction (I := (· = m)) ?_ rfl
  rintro _ k s rfl hs hc
  rw [h k s hs] at hc
  cases hc

lemma Settled.erase (h : m.Settled) (ht : m'.tasks = m.tasks.erase k) : m'.Settled := by
  intro i s hs
  rw [ht, Assoc.get?_erase] at hs
  split_ifs at hs
  exact h i s hs

lemma Settled.insert (h : m.Settled) (ht : m'.tasks = m.tasks.insert k s)
    (hs : s.isClosing = false) : m'.Settled := by
  intro i s' hs'
  rw [ht, Assoc.get?_insert] at hs'
  split_ifs at hs'
  · cases hs'
    exact hs
  · exact h i s' hs'

/-- If only one task waits for connections to be closed, and ends then, this is all that happens. -/
lemma settle_eq_answer (h : m.Settled) (ht : m'.tasks = m.tasks.insert k s)
    (hc : s.isClosing = true)
    (hend : (m'.answer k s .closed).tasks = m'.tasks.erase k) :
    m'.settle = m'.answer k s .closed := by
  have hk : m'.tasks.get? k = some s := by simp [ht, Assoc.get?_insert]
  have hother : ∀ i s', i ≠ k → m'.tasks.get? i = some s' → s'.isClosing = false := by
    intro i s' hne hs'
    rw [ht, Assoc.get?_insert, if_neg hne] at hs'
    exact h i s' hs'
  have hall : m'.settle = m' ∨ m'.settle = m'.answer k s .closed := by
    refine settle_induction (I := fun m₂ => m₂ = m' ∨ m₂ = m'.answer k s .closed) ?_ (.inl rfl)
    rintro m₂ i s' (rfl | rfl) hs' hc'
    · have hi : i = k := by
        by_contra hne
        rw [hother i s' hne hs'] at hc'
        cases hc'
      subst hi
      exact .inr (step_resume hk _)
    · rw [hend, Assoc.get?_erase] at hs'
      split_ifs at hs' with hne
      rw [hother i s' hne hs'] at hc'
      cases hc'
  rcases hall with heq | heq
  · have hsettled := settled_settle m'
    rw [heq] at hsettled
    rw [hsettled k s hk] at hc
    cases hc
  · exact heq

/-- Tasks that do not wait for connections to be closed stay where they are. -/
lemma get?_settle (hf : m.Fresh) (hlt : k < m.nextTask)
    (h : ∀ s, m.tasks.get? k = some s → s.isClosing = false) :
    m.settle.tasks.get? k = m.tasks.get? k := by
  refine (settle_induction (I := fun m₂ =>
    m₂.Fresh ∧ k < m₂.nextTask ∧ m₂.tasks.get? k = m.tasks.get? k) ?_ ⟨hf, hlt, rfl⟩).2.2
  rintro m₂ i s ⟨hf₂, hlt₂, heq⟩ hs hc
  have ht := Turn.of_step hf₂ (.resume i .closed)
  have hk : ∀ o, (Event.resume i .closed).origin? m₂ ≠ some (k, o) := by
    intro o ho
    cases Event.Drives.of_origin? ho
    rw [heq] at hs
    rw [h s hs] at hc
    cases hc
  exact ⟨ht.fresh hf₂, hlt₂.trans_le ht.nextTask_le,
    (ht.get?_of_not_reached hlt₂ hk rfl).trans heq⟩

lemma nextTask_le_settle (hf : m.Fresh) : m.nextTask ≤ m.settle.nextTask := by
  refine (settle_induction (I := fun m₂ => m₂.Fresh ∧ m.nextTask ≤ m₂.nextTask) ?_
    ⟨hf, le_rfl⟩).2
  rintro m₂ i s ⟨hf₂, hle⟩ - -
  have ht := Turn.of_step hf₂ (.resume i .closed)
  exact ⟨ht.fresh hf₂, hle.trans ht.nextTask_le⟩

lemma runInMemory_append (m : Manager) (events later : List Event) :
    m.runInMemory (events ++ later) = (m.runInMemory events).runInMemory later :=
  List.foldl_append

/-- What every event preserves holds after every run over a backend in memory. -/
lemma runInMemory_induction {I : Manager → Prop} (h : ∀ m e, I m → I (m.step e)) (hm : I m)
    (events : List Event) : I (m.runInMemory events) := by
  induction events generalizing m with
  | nil => exact hm
  | cons e rest ih => exact ih (settle_induction (fun m _ _ hm _ _ => h m _ hm) (h m e hm))

/-- Over a backend in memory no task is ever seen to wait for connections to be closed. -/
theorem settled_runInMemory (c : Config) (events : List Event) :
    ((new c).runInMemory events).Settled := by
  induction events using List.reverseRecOn with
  | nil =>
    intro task s hs
    cases hs
  | append_singleton events e _ =>
    rw [runInMemory, List.foldl_append]
    exact settled_settle _

/-! ### Over any backend -/

/-- Whether an event tells a task that connections are closed. -/
def Event.isClosed : Event → Bool
  | .resume _ .closed => true
  | _ => false

lemma exists_run_eq_finishClosing (m : Manager) (task : TaskId) (fuel : Nat) :
    ∃ closings, m.finishClosing task fuel = m.run closings ∧
      ∀ e ∈ closings, e.isClosed = true := by
  induction fuel generalizing m with
  | zero => exact ⟨[], rfl, by simp⟩
  | succ fuel ih =>
    simp only [finishClosing]
    split
    · split
      · obtain ⟨closings, heq, hall⟩ := ih (m.resume task .closed)
        refine ⟨.resume task .closed :: closings, heq, ?_⟩
        intro e he
        rcases List.mem_cons.1 he with rfl | he
        · rfl
        · exact hall e he
      · exact ⟨[], rfl, by simp⟩
    · exact ⟨[], rfl, by simp⟩

lemma exists_run_eq_settle (m : Manager) :
    ∃ closings, m.settle = m.run closings ∧ ∀ e ∈ closings, e.isClosed = true := by
  unfold settle
  generalize m.tasks.toList = waiting
  induction waiting generalizing m with
  | nil => exact ⟨[], rfl, by simp⟩
  | cons e rest ih =>
    obtain ⟨first, hfirst, hall⟩ := exists_run_eq_finishClosing m e.1 e.2.backlog
    obtain ⟨closings, heq, hall'⟩ := ih (m.finishClosing e.1 e.2.backlog)
    refine ⟨first ++ closings, ?_, ?_⟩
    · rw [List.foldl_cons, heq, hfirst, run_append]
    · intro e he
      rcases List.mem_append.1 he with he | he
      · exact hall e he
      · exact hall' e he

/-- A run over a backend in memory is a run in which tasks are told further that connections are
closed. -/
theorem exists_run_eq (m : Manager) (events : List Event) :
    ∃ events', m.runInMemory events = m.run events' ∧
      ∀ e ∈ events', e ∈ events ∨ e.isClosed = true := by
  induction events generalizing m with
  | nil => exact ⟨[], rfl, by simp⟩
  | cons e rest ih =>
    obtain ⟨closings, hsettle, hall⟩ := exists_run_eq_settle (m.step e)
    obtain ⟨events', heq, hall'⟩ := ih (m.step e).settle
    refine ⟨e :: (closings ++ events'), ?_, ?_⟩
    · rw [runInMemory, List.foldl_cons, ← runInMemory, heq, hsettle, run_cons, run_append]
    · intro e' he'
      simp only [List.mem_cons, List.mem_append] at he' ⊢
      rcases he' with rfl | he' | he'
      · exact .inl (.inl rfl)
      · exact .inr (hall e' he')
      · rcases hall' e' he' with h | h
        · exact .inl (.inr h)
        · exact .inr h

end Tenancy.Manager
