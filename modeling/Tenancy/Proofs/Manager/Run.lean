import Tenancy.Proofs.Manager.Move

/-!
# Runs of a manager

An event that reaches a task is a move of that task; the others change a pool, a lease or the time,
or cancel tasks. `Turn.of_step` says so, and what is preserved by every event is proved by cases on
it. By `run_induction` it then holds after every list of events.
-/

namespace Tenancy.Manager

variable {m : Manager}

/-! ### Events -/

lemma step_resume {task : TaskId} {s : Stage} (h : m.tasks.get? task = some s) (a : Answer) :
    m.step (.resume task a) = m.answer task s a := by
  simp only [step, resume, h]

lemma get?_await (m : Manager) (task : TaskId) (s : Stage) :
    (m.await task s).tasks.get? task = some s := by
  simp [await, Assoc.get?_insert]

/-- Whether an event cancels a task. -/
def Event.isCancel : Event → Bool
  | .cancel _ => true
  | _ => false

/-- Whether a client takes a pool or gives it back without a lease. -/
def Event.isOwn : Event → Bool
  | .acquire _ | .release _ => true
  | _ => false

/-- The task that an event reaches, and where it takes up. -/
def Event.origin? (m : Manager) : Event → Option (TaskId × Origin)
  | .call request => some (m.nextTask, .call request)
  | .resume task _ => (m.tasks.get? task).map fun s => (task, .stage s)
  | _ => none

/-- How an event reaches a task: it is a request, which starts the task, or tells it an answer. -/
inductive Event.Drives (m : Manager) : Event → TaskId → Origin → Prop
  | call (request : Request) : Drives m (.call request) m.nextTask (.call request)
  | resume {task s} (a : Answer) (hs : m.tasks.get? task = some s) :
      Drives m (.resume task a) task (.stage s)

lemma Event.Drives.of_origin? {e : Event} {task : TaskId} {o : Origin}
    (h : e.origin? m = some (task, o)) : Drives m e task o := by
  cases e with
  | call request =>
    cases h
    exact .call request
  | resume task' a =>
    obtain ⟨s, hs, heq⟩ := Option.map_eq_some_iff.1 h
    cases heq
    exact .resume a hs
  | _ => cases h

/-- A task that was started before is told an answer. -/
lemma Event.exists_resume {e : Event} {task : TaskId} {o : Origin}
    (h : e.origin? m = some (task, o)) (hlt : task < m.nextTask) :
    ∃ a s, e = .resume task a ∧ o = .stage s ∧ m.tasks.get? task = some s := by
  cases Drives.of_origin? h with
  | call => exact absurd hlt (lt_irrefl _)
  | resume a hs => exact ⟨a, _, rfl, rfl, hs⟩

/-- No event reaches a task that has ended. -/
lemma Event.origin?_ne_of_ended {e : Event} {task : TaskId} (hlt : task < m.nextTask)
    (hnone : m.tasks.get? task = none) (o : Origin) : e.origin? m ≠ some (task, o) := by
  intro ho
  obtain ⟨-, s, -, -, hs⟩ := exists_resume ho hlt
  rw [hnone] at hs
  cases hs

/-- An event that reaches a task is a move of the task. -/
theorem Move.of_step (hf : m.Fresh) {e : Event} {task : TaskId} {o : Origin}
    (h : e.origin? m = some (task, o)) :
    ∃ m₀, m.Quiet m₀ ∧ task < m₀.nextTask ∧ o.At m₀ task ∧ Move m₀ task o (m.step e) := by
  cases Event.Drives.of_origin? h with
  | call request =>
    refine ⟨{ m with nextTask := m.nextTask + 1 }, ?_, Nat.lt_succ_self _, hf.get?_nextTask,
      Move.of_call hf request⟩
    exact ⟨rfl, rfl, rfl, rfl, rfl, rfl, id, Nat.le_succ _, [], by simp⟩
  | @resume _ s a hs =>
    refine ⟨m, .refl m, hf _ _ hs, hs, ?_⟩
    rw [step_resume hs]
    exact Move.of_answer hf s a

/-- What an event does: it moves the task that it reaches, or changes nothing that matters to the
pools, or takes, gives back or cancels something. -/
inductive Turn (m : Manager) : Event → Manager → Prop
  | act {e m₀ task o m'} (ho : e.origin? m = some (task, o)) (q : m.Quiet m₀)
      (hlt : task < m₀.nextTask) (hat : o.At m₀ task) (h : Move m₀ task o m') : Turn m e m'
  | aside {e m'} (he : e.isOwn = false) (q : m.Quiet m') : Turn m e m'
  | acquire (id : PoolId) : Turn m (.acquire id) (m.modifyPool id (·.acquire m.now))
  | release (id : PoolId) : Turn m (.release id) (m.modifyPool id (·.release m.now))
  | drop {lease id} (h : m.leases.get? lease = some id) :
      Turn m (.drop lease)
        { m.modifyPool id (·.release m.now) with leases := m.leases.erase lease }
  | cancel (task : TaskId) (p : TaskId → Stage → Bool) (reports : List (TaskId × Report)) :
      Turn m (.cancel task) { m with tasks := m.tasks.filter p, reports }

lemma Turn.of_cancel (m : Manager) (task : TaskId) : Turn m (.cancel task) (m.cancel task) := by
  unfold Manager.cancel
  split
  next s _ =>
    split
    next => exact .aside rfl (.refl m)
    next => exact .cancel task _ _
  next => exact .aside rfl (.refl m)

theorem Turn.of_step (hf : m.Fresh) (e : Event) : Turn m e (m.step e) := by
  cases ho : e.origin? m with
  | some at_ =>
    obtain ⟨m₀, q, hlt, hat, hmove⟩ := Move.of_step hf ho
    exact .act ho q hlt hat hmove
  | none =>
    cases e with
    | call request => cases ho
    | resume task a =>
      have hnone : m.tasks.get? task = none := Option.map_eq_none_iff.1 ho
      simp only [step, resume, hnone]
      exact .aside rfl (.refl m)
    | advance nanos => exact .aside rfl (.advance m _)
    | drop lease =>
      simp only [step, dropLease]
      split
      next id h => exact .drop h
      next => exact .aside rfl (.refl m)
    | touch id => exact .aside rfl (.touch m id _)
    | acquire id => exact .acquire id
    | release id => exact .release id
    | cancel task => exact Turn.of_cancel m task

/-! ### Tasks are started one after another -/

lemma fresh_new (c : Config) : (new c).Fresh := fun _ _ h => by cases h

lemma Turn.fresh {e : Event} {m' : Manager} (h : Turn m e m') (hf : m.Fresh) : m'.Fresh := by
  cases h with
  | act _ q hlt _ h => exact h.fresh (q.fresh hf) hlt
  | aside _ q => exact q.fresh hf
  | acquire | release | drop => exact hf
  | cancel task p reports =>
    intro j s hj
    simp only [Assoc.get?_filter] at hj ⊢
    exact hf j s (Option.eq_some_of_filter_eq_some hj)

/-- Every outcome is that of a task that was started. -/
def Answered (m : Manager) : Prop :=
  ∀ task outcome, m.outcomes.get? task = some outcome → task < m.nextTask

lemma Turn.answered {e : Event} {m' : Manager} (h : Turn m e m') (ha : m.Answered) :
    m'.Answered := by
  intro k outcome hk
  cases h with
  | @act _ m₀ task _ _ _ q hlt _ h =>
    by_cases heq : k = task
    · exact heq ▸ hlt.trans_le h.nextTask_le
    · rw [h.outcomes_other heq, q.outcomes] at hk
      exact (ha k outcome hk).trans_le (q.nextTask.trans h.nextTask_le)
  | aside _ q =>
    rw [q.outcomes] at hk
    exact (ha k outcome hk).trans_le q.nextTask
  | acquire | release | drop | cancel => exact ha k outcome hk

lemma Turn.shuttingDown {e : Event} {m' : Manager} (h : Turn m e m')
    (hdown : m.shuttingDown = true) : m'.shuttingDown = true := by
  cases h with
  | act _ q _ _ h => exact h.shuttingDown (q.shuttingDown hdown)
  | aside _ q => exact q.shuttingDown hdown
  | acquire | release | drop | cancel => exact hdown

lemma Turn.config_eq {e : Event} {m' : Manager} (h : Turn m e m') : m'.config = m.config := by
  cases h with
  | act _ q _ _ h => exact h.config_eq.trans q.config
  | aside _ q => exact q.config
  | acquire | release | drop | cancel => rfl

lemma Turn.nextTask_le {e : Event} {m' : Manager} (h : Turn m e m') : m.nextTask ≤ m'.nextTask := by
  cases h with
  | act _ q _ _ hm => exact q.nextTask.trans hm.nextTask_le
  | aside _ q => exact q.nextTask
  | acquire | release | drop | cancel => exact le_rfl

/-- An event that does not reach a task leaves it where it is. -/
lemma Turn.get?_of_not_reached {e : Event} {m' : Manager} {k : TaskId} (h : Turn m e m')
    (hlt : k < m.nextTask) (hk : ∀ o, e.origin? m ≠ some (k, o)) (he : e.isCancel = false) :
    m'.tasks.get? k = m.tasks.get? k := by
  cases h with
  | @act _ m₀ task o _ ho q _ _ hm =>
    have hne : k ≠ task := fun heq => hk o (heq ▸ ho)
    rw [hm.get?_other hne (hlt.trans_le q.nextTask), q.get?_eq_of_lt hlt]
  | aside _ q => exact q.get?_eq_of_lt hlt
  | acquire | release | drop => rfl
  | cancel => cases he

lemma Turn.outcomes_of_not_reached {e : Event} {m' : Manager} {k : TaskId} (h : Turn m e m')
    (hk : ∀ o, e.origin? m ≠ some (k, o)) : m'.outcomes.get? k = m.outcomes.get? k := by
  cases h with
  | @act _ _ task o _ ho q _ _ hm =>
    have hne : k ≠ task := fun heq => hk o (heq ▸ ho)
    rw [hm.outcomes_other hne, q.outcomes]
  | aside _ q => rw [q.outcomes]
  | acquire | release | drop | cancel => rfl

/-- A task that an event does not reach waits where it did, if it still waits. -/
lemma Turn.get?_before {e : Event} {m' : Manager} {k : TaskId} {s : Stage} (h : Turn m e m')
    (hlt : k < m.nextTask) (hk : ∀ o, e.origin? m ≠ some (k, o))
    (hs : m'.tasks.get? k = some s) : m.tasks.get? k = some s := by
  cases h with
  | @act _ _ task o _ ho q _ _ hm =>
    have hne : k ≠ task := fun heq => hk o (heq ▸ ho)
    rwa [hm.get?_other hne (hlt.trans_le q.nextTask), q.get?_eq_of_lt hlt] at hs
  | aside _ q => rwa [q.get?_eq_of_lt hlt] at hs
  | acquire | release | drop => exact hs
  | cancel =>
    simp only [Assoc.get?_filter] at hs
    exact Option.eq_some_of_filter_eq_some hs

lemma Fresh.step (hf : m.Fresh) (e : Event) : (m.step e).Fresh := (Turn.of_step hf e).fresh hf

/-! ### What every event preserves -/

lemma run_cons (m : Manager) (e : Event) (events : List Event) :
    m.run (e :: events) = (m.step e).run events := rfl

lemma run_append (m : Manager) (events events' : List Event) :
    m.run (events ++ events') = (m.run events).run events' :=
  List.foldl_append

lemma Fresh.run (hf : m.Fresh) (events : List Event) : (m.run events).Fresh := by
  induction events generalizing m with
  | nil => exact hf
  | cons e rest ih => exact ih (hf.step e)

/-- What holds at first and is preserved by every event that is allowed holds after all of them. -/
theorem run_induction {I : Manager → Prop} {A : Event → Prop}
    (hturn : ∀ {m e m'}, Turn m e m' → Fresh m → I m → A e → I m') (hf : m.Fresh)
    (hm : I m) {events : List Event} (h : ∀ e ∈ events, A e) : I (m.run events) := by
  induction events generalizing m with
  | nil => exact hm
  | cons e rest ih =>
    have hI := hturn (Turn.of_step hf e) hf hm (h e (by simp))
    exact ih (hf.step e) hI fun e' he' => h e' (by simp [he'])

lemma answered_new (c : Config) : (new c).Answered := fun _ _ h => by cases h

lemma Answered.run (ha : m.Answered) (hf : m.Fresh) (events : List Event) :
    (m.run events).Answered :=
  run_induction (A := fun _ => True) (fun ht _ ha _ => ht.answered ha) hf ha
    fun _ _ => trivial

lemma config_run (c : Config) (events : List Event) : ((new c).run events).config = c := by
  refine run_induction (A := fun _ => True) (I := fun m => m.config = c) ?_ (fresh_new c) rfl
    fun _ _ => trivial
  exact fun ht _ hm _ => ht.config_eq.trans hm

/-! ### A tenant, and how its pool is made -/

/-- An active tenant. -/
def acme : Tenant := { Tenant.new "acme" "Acme" "db.local" 5432 "acme_db" with id := "acme" }

/-- The answers with which a task makes a pool for `acme`. -/
def acmeOpens (task : TaskId) : List Event :=
  [.resume task (.tenant (.ok acme)), .resume task (.opened (.ok ("acme_db", 2))),
    .resume task (.pinged (.ok ()))]

end Tenancy.Manager
