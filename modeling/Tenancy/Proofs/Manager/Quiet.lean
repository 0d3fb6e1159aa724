import Mathlib.Order.Nat
import Tenancy.Manager.Step
import Tenancy.Proofs.Assoc

/-!
# Changes beside the pools

Much of what a task does leaves alone which pools are in use, which slots are taken, and who holds
what: it notes a use or the answer to a ping, closes connections, raises a flag, or starts other
tasks, which first wait for their turn. `Quiet m m'` says that nothing else was done between two
states of a manager.
-/

namespace Tenancy

/-- What neither a use of a pool nor a ping changes: whose it is, how many hold it, and whether it
is closed. -/
def Pool.standing (p : Pool) : Tenant × ConnectionsId × Nat × Bool :=
  (p.tenant, p.connections, p.refs, p.closed)

@[simp] lemma Pool.standing_touch (p : Pool) (now : Nat) : (p.touch now).standing = p.standing :=
  rfl

@[simp] lemma Pool.standing_markHealthy (p : Pool) : p.markHealthy.2.standing = p.standing := rfl

@[simp] lemma Pool.standing_markUnhealthy (p : Pool) (now : Nat) :
    (p.markUnhealthy now).2.standing = p.standing := by
  simp only [Pool.markUnhealthy]
  split <;> rfl

namespace Manager

/-- Whether a task was only just started and waits for its turn. -/
def Stage.isQueued : Stage → Bool
  | .warmQueued _ _ | .probeQueued _ _ _ | .loopQueued _ => true
  | _ => false

/-- Every task was started before the next one. -/
def Fresh (m : Manager) : Prop :=
  ∀ task stage, m.tasks.get? task = some stage → task < m.nextTask

lemma Fresh.get?_nextTask {m : Manager} (h : m.Fresh) : m.tasks.get? m.nextTask = none := by
  cases hs : m.tasks.get? m.nextTask with
  | none => rfl
  | some stage => exact absurd (h _ _ hs) (lt_irrefl _)

/-- Between two states the pools in use, the slots, the leases and the outcomes stay as they are,
and so does the standing of every pool. Tasks may have been started, which wait for their turn. -/
structure Quiet (m m' : Manager) : Prop where
  config : m'.config = m.config
  entries : m'.entries = m.entries
  slots : m'.slots = m.slots
  leases : m'.leases = m.leases
  outcomes : m'.outcomes = m.outcomes
  pools : m'.pools.map Pool.standing = m.pools.map Pool.standing
  shuttingDown : m.shuttingDown = true → m'.shuttingDown = true
  nextTask : m.nextTask ≤ m'.nextTask
  tasks : ∃ started, m'.tasks.toList = m.tasks.toList ++ started ∧
    ∀ e ∈ started, m.nextTask ≤ e.1 ∧ e.1 < m'.nextTask ∧ e.2.isQueued = true

namespace Quiet

variable {m m₁ m₂ : Manager}

lemma refl (m : Manager) : m.Quiet m :=
  ⟨rfl, rfl, rfl, rfl, rfl, rfl, id, le_rfl, [], by simp⟩

lemma trans (h : m.Quiet m₁) (h' : m₁.Quiet m₂) : m.Quiet m₂ := by
  obtain ⟨started, hs, hq⟩ := h.tasks
  obtain ⟨started', hs', hq'⟩ := h'.tasks
  refine ⟨h'.config.trans h.config, h'.entries.trans h.entries, h'.slots.trans h.slots,
    h'.leases.trans h.leases, h'.outcomes.trans h.outcomes, h'.pools.trans h.pools,
    h'.shuttingDown ∘ h.shuttingDown, h.nextTask.trans h'.nextTask, started ++ started', ?_, ?_⟩
  · rw [hs', hs, List.append_assoc]
  · intro e he
    rcases List.mem_append.1 he with he | he
    · obtain ⟨hlo, hhi, hw⟩ := hq e he
      exact ⟨hlo, hhi.trans_le h'.nextTask, hw⟩
    · obtain ⟨hlo, hhi, hw⟩ := hq' e he
      exact ⟨h.nextTask.trans hlo, hhi, hw⟩

/-! ### What is quiet -/

/-- A change of a pool that keeps its standing. -/
lemma modifyPool (m : Manager) (pool : PoolId) {f : Pool → Pool}
    (hf : ∀ p, (f p).standing = p.standing) : m.Quiet (m.modifyPool pool f) := by
  refine ⟨rfl, rfl, rfl, rfl, rfl, ?_, id, le_rfl, [], by simp [Manager.modifyPool]⟩
  apply List.ext_getElem?
  intro i
  simp only [Manager.modifyPool, List.getElem?_map, List.getElem?_modify]
  cases m.pools[i]? with
  | none => rfl
  | some p => by_cases h : pool = i <;> simp [h, hf]

lemma touch (m : Manager) (id : PoolId) (now : Nat) : m.Quiet (m.modifyPool id (·.touch now)) :=
  modifyPool m id fun p => p.standing_touch now

lemma dropReport (m : Manager) (task : TaskId) : m.Quiet (m.dropReport task) :=
  ⟨rfl, rfl, rfl, rfl, rfl, rfl, id, le_rfl, [], by simp [Manager.dropReport]⟩

lemma advance (m : Manager) (now : Nat) : m.Quiet { m with now } :=
  ⟨rfl, rfl, rfl, rfl, rfl, rfl, id, le_rfl, [], by simp⟩

lemma closeConnections (m : Manager) (ledger : Ledger) (closures : List (TenantId × String)) :
    m.Quiet { m with ledger, closures } :=
  ⟨rfl, rfl, rfl, rfl, rfl, rfl, id, le_rfl, [], by simp⟩

lemma shutDown (m : Manager) : m.Quiet { m with shuttingDown := true } :=
  ⟨rfl, rfl, rfl, rfl, rfl, rfl, fun _ => rfl, le_rfl, [], by simp⟩

lemma close (m : Manager) : m.Quiet { m with closed := true } :=
  ⟨rfl, rfl, rfl, rfl, rfl, rfl, id, le_rfl, [], by simp⟩

lemma start (m : Manager) : m.Quiet { m with started := true } :=
  ⟨rfl, rfl, rfl, rfl, rfl, rfl, id, le_rfl, [], by simp⟩

lemma spawn (hf : m.Fresh) {stage : Stage} (hs : stage.isQueued = true) :
    m.Quiet (m.spawn stage) := by
  refine ⟨rfl, rfl, rfl, rfl, rfl, rfl, id, Nat.le_succ _, [(m.nextTask, stage)], ?_, ?_⟩
  · simp only [Manager.spawn, Manager.await, Assoc.toList_insert,
      Assoc.erase_eq_self hf.get?_nextTask]
  · simp [Manager.spawn, hs]

/-! ### Tasks -/

/-- A task that waited still does, and all others wait for their turn. -/
lemma get?_iff (h : m.Quiet m₁) : ∃ started : List (TaskId × Stage),
    (∀ e ∈ started, m.nextTask ≤ e.1 ∧ e.1 < m₁.nextTask ∧ e.2.isQueued = true) ∧
    ∀ task stage, m₁.tasks.get? task = some stage ↔
      m.tasks.get? task = some stage ∨ (task, stage) ∈ started := by
  obtain ⟨started, hs, hq⟩ := h.tasks
  exact ⟨started, hq, fun task stage => Assoc.get?_of_toList_append hs⟩

lemma get?_of_get? (h : m.Quiet m₁) {task : TaskId} {stage : Stage}
    (ht : m.tasks.get? task = some stage) : m₁.tasks.get? task = some stage := by
  obtain ⟨started, -, hget⟩ := h.get?_iff
  exact (hget task stage).2 (.inl ht)

lemma get?_or_queued (h : m.Quiet m₁) {task : TaskId} {stage : Stage}
    (ht : m₁.tasks.get? task = some stage) :
    m.tasks.get? task = some stage ∨ m.nextTask ≤ task ∧ stage.isQueued = true := by
  obtain ⟨started, hq, hget⟩ := h.get?_iff
  rcases (hget task stage).1 ht with ht | ht
  · exact .inl ht
  · exact .inr ⟨(hq _ ht).1, (hq _ ht).2.2⟩

/-- No task that was there before is another one now. -/
lemma get?_eq_of_lt (h : m.Quiet m₁) {task : TaskId} (hlt : task < m.nextTask) :
    m₁.tasks.get? task = m.tasks.get? task := by
  cases hs : m.tasks.get? task with
  | some stage => exact h.get?_of_get? hs
  | none =>
    cases hs' : m₁.tasks.get? task with
    | none => rfl
    | some stage =>
      rcases h.get?_or_queued hs' with ht | ⟨hle, -⟩
      · rw [hs] at ht
        cases ht
      · exact absurd hlt (not_lt.2 hle)

/-- Tasks that wait for their turn do not count. -/
lemma countP_tasks (h : m.Quiet m₁) {p : TaskId × Stage → Bool}
    (hp : ∀ e : TaskId × Stage, e.2.isQueued = true → p e = false) :
    m₁.tasks.toList.countP p = m.tasks.toList.countP p := by
  obtain ⟨started, hs, hq⟩ := h.tasks
  rw [hs, List.countP_append, Nat.add_eq_left, List.countP_eq_zero]
  intro e he
  simp [hp e (hq e he).2.2]

/-- Nor do they count among the tasks beside one. -/
lemma countValues_erase (h : m.Quiet m₁) (task : TaskId) {p : Stage → Bool}
    (hp : ∀ s : Stage, s.isQueued = true → p s = false) :
    (m₁.tasks.erase task).countValues p = (m.tasks.erase task).countValues p := by
  simp only [Assoc.countValues, Assoc.erase, Assoc.filter, List.countP_filter]
  apply h.countP_tasks
  intro e he
  rw [hp _ he, Bool.false_and]

lemma fresh (h : m.Quiet m₁) (hf : m.Fresh) : m₁.Fresh := by
  intro task stage ht
  obtain ⟨started, hq, hget⟩ := h.get?_iff
  rcases (hget task stage).1 ht with ht | ht
  · exact (hf task stage ht).trans_le h.nextTask
  · exact (hq _ ht).2.1

lemma spawnAll (hf : m.Fresh) {stages : List Stage} (hs : ∀ s ∈ stages, s.isQueued = true) :
    m.Quiet (m.spawnAll stages) := by
  simp only [Manager.spawnAll]
  induction stages generalizing m with
  | nil => exact refl m
  | cons s rest ih =>
    have hspawn := spawn hf (hs s (by simp))
    exact hspawn.trans (ih (hspawn.fresh hf) fun s' hs' => hs s' (by simp [hs']))

/-! ### Pools -/

lemma length_pools (h : m.Quiet m₁) : m₁.pools.length = m.pools.length := by
  simpa using congrArg List.length h.pools

lemma getElem?_standing (h : m.Quiet m₁) (id : PoolId) :
    (m₁.pools[id]?).map Pool.standing = (m.pools[id]?).map Pool.standing := by
  rw [← List.getElem?_map, ← List.getElem?_map, h.pools]

/-- Every pool has the standing that it had before. -/
lemma exists_of_pool (h : m.Quiet m₁) {id : PoolId} {p : Pool} (hp : m₁.pools[id]? = some p) :
    ∃ p₀, m.pools[id]? = some p₀ ∧ p₀.standing = p.standing := by
  have hs := h.getElem?_standing id
  rw [hp, Option.map_some] at hs
  exact Option.map_eq_some_iff.1 hs.symm

end Quiet

end Manager

end Tenancy
