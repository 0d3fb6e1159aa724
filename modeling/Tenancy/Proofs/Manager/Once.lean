import Tenancy.Proofs.Manager.Connections

/-!
# Every pool is closed once

A pool is in use until a task takes it out, which gives one slot back, and is closed by that task
alone. `places_add_count_closings` says so by counting where a pool can be: it is in use, or a task
closes it, or one has closed it.
-/

namespace Tenancy.Manager

variable {m m₁ m' : Manager} {task : TaskId} {o : Origin} {e : Event} {s : Stage} {t : TenantId}
  {id : PoolId} {events : List Event}

/-! ### Where pools are -/

/-- Whether a task closes a pool. -/
def Stage.closesPool (id : PoolId) : Stage → Bool
  | .closing _ pool _ _ => pool = id
  | _ => false

/-- Whether the task closes a pool. -/
def Origin.closesPool (id : PoolId) : Origin → Bool
  | .call _ => false
  | .stage s => s.closesPool id

/-- The pool of which a task is told that it is closed. -/
def Event.closes? (m : Manager) : Event → Option PoolId
  | .resume task .closed =>
    match m.tasks.get? task with
    | some (.closing _ id _ _) => some id
    | _ => none
  | _ => none

/-- The pools that tasks have closed, in the order in which they did. -/
def closings (m : Manager) : List Event → List PoolId
  | [] => []
  | e :: events => (e.closes? m).toList ++ (m.step e).closings events

/-- In how many places a pool is: it may still come into use, it is in use, or tasks close it. -/
def places (m : Manager) (id : PoolId) : Nat :=
  (if id < m.pools.length then 0 else 1) + m.entries.countValues (· = id) +
    m.tasks.countValues (Stage.closesPool id)

/-- The same number without one of the tasks. -/
def placesBeside (m : Manager) (task : TaskId) (id : PoolId) : Nat :=
  (if id < m.pools.length then 0 else 1) + m.entries.countValues (· = id) +
    (m.tasks.erase task).countValues (Stage.closesPool id)

lemma Stage.closesPool_of_isPlain (h : s.isPlain = true) : s.closesPool id = false := by
  cases s <;> simp_all [isPlain, closesPool]

lemma Stage.closesPool_of_isQueued (h : s.isQueued = true) : s.closesPool id = false :=
  closesPool_of_isPlain (isPlain_of_isQueued h)

lemma Leads.closesPool (h : Leads o s) : s.closesPool id = false := by
  cases h with
  | plain _ hs => exact Stage.closesPool_of_isPlain hs
  | _ => rfl

lemma closings_append (m : Manager) (events later : List Event) :
    m.closings (events ++ later) = m.closings events ++ (m.run events).closings later := by
  induction events generalizing m with
  | nil => rfl
  | cons e rest ih => rw [List.cons_append, closings, closings, ih, List.append_assoc, run_cons]

/-! ### What a move does -/

lemma places_eq (hat : o.At m task) (id : PoolId) :
    m.places id = m.placesBeside task id + (o.closesPool id).toNat := by
  cases o with
  | call =>
    rw [places, placesBeside, Assoc.countValues_erase_of_none hat]
    rfl
  | stage s =>
    rw [places, placesBeside, Assoc.countValues_erase_of_some hat, ← Nat.add_assoc]
    rfl

lemma Quiet.places_eq (q : m.Quiet m₁) (id : PoolId) : m₁.places id = m.places id := by
  have htasks : m₁.tasks.countValues (Stage.closesPool id) =
      m.tasks.countValues (Stage.closesPool id) :=
    q.countP_tasks fun _ he => Stage.closesPool_of_isQueued he
  rw [places, places, q.length_pools, q.entries, htasks]

lemma Quiet.placesBeside_eq (q : m.Quiet m₁) (task : TaskId) (id : PoolId) :
    m₁.placesBeside task id = m.placesBeside task id := by
  rw [placesBeside, placesBeside, q.length_pools, q.entries,
    q.countValues_erase task fun _ => Stage.closesPool_of_isQueued]

/-- A task that waits is in the way of no pool, unless it closes it. -/
lemma places_await (m : Manager) (task : TaskId) (s : Stage) (id : PoolId) :
    (m.await task s).places id = m.placesBeside task id + (s.closesPool id).toNat := by
  rw [places, await, Assoc.countValues_insert, ← Nat.add_assoc]
  rfl

lemma places_lend (m : Manager) (task : TaskId) (pool id : PoolId) :
    (m.lend task pool).places id = m.placesBeside task id := by
  rw [places, length_pools_lend]
  rfl

/-- A pool that comes into use is no longer one that may. -/
lemma placesBeside_enroll {t : TenantId} (hnone : m.entries.get? t = none) (task : TaskId)
    (record : Tenant) (connections : ConnectionsId) (id : PoolId) :
    (m.enroll t record connections).placesBeside task id = m.placesBeside task id := by
  have hentries : (m.entries.insert t m.pools.length).countValues (· = id) =
      m.entries.countValues (· = id) + (decide (m.pools.length = id)).toNat := by
    rw [Assoc.countValues_insert, Assoc.countValues_erase_of_none hnone]
  rw [placesBeside, placesBeside, length_pools_enroll]
  simp only [enroll, hentries]
  rcases Nat.lt_trichotomy id m.pools.length with hlt | rfl | hgt
  · simp [hlt, Nat.lt_succ_of_lt hlt, hlt.ne']
  · simp
    omega
  · simp [hgt.ne, Nat.not_lt.2 hgt.le, Nat.not_lt.2 (Nat.succ_le_of_lt hgt)]

/-- A pool that is taken out of use is closed by the task. -/
lemma places_beginClose (ht : m.entries.get? t = some id) (task : TaskId) (reason : String)
    (next : Next) (id' : PoolId) :
    (m.beginClose task t id reason next).places id' = m.placesBeside task id' := by
  have hentries := Assoc.countValues_erase_of_some ht (· = id')
  rw [placesBeside, hentries, places, length_pools_beginClose]
  simp only [beginClose, modifyPool, giveSlot, await, Assoc.countValues_insert, Stage.closesPool]
  omega

/-- A task that has moved closes no pool but one that it has taken out of use. -/
lemma Move.places (h : Move m task o m') (id : PoolId) :
    m' = m ∨ m'.places id = m.placesBeside task id := by
  have hwait (m₁ : Manager) {s : Stage} (q : m₁.placesBeside task id = m.placesBeside task id)
      (hs : s.closesPool id = false) : (m₁.await task s).places id = m.placesBeside task id := by
    rw [places_await, hs, q]
    rfl
  cases h with
  | stay => exact .inl rfl
  | wait q hl => exact .inr (hwait _ (q.placesBeside_eq task id) hl.closesPool)
  | leave q _ | finish q _ _ | report q _ | hand q _ _ _ => exact .inr (q.placesBeside_eq task id)
  | @reserve m₁ _ _ q _ _ _ _ _ => exact .inr (hwait m₁.takeSlot (q.placesBeside_eq task id) rfl)
  | @yield m₁ _ _ _ _ _ _ q _ _ => exact .inr (hwait m₁.giveSlot (q.placesBeside_eq task id) rfl)
  | @giveUp _ d _ _ q _ _ => cases d <;> exact .inr (q.placesBeside_eq task id)
  | lend q _ _ _ => exact .inr ((places_lend _ task _ id).trans (q.placesBeside_eq task id))
  | @enter m₁ d t record connections _ q _ hnone _ =>
    have henroll := (placesBeside_enroll hnone task record connections id).trans
      (q.placesBeside_eq task id)
    right
    rw [deliver_enroll]
    cases d with
    | get | warm => exact henroll
    | lease => exact (places_lend _ task _ id).trans henroll
  | @withdraw m₁ d t record connections _ reason q _ hnone _ =>
    have hget : (m₁.enroll t record connections).entries.get? t = some m₁.pools.length := by
      simp [enroll, Assoc.get?_insert]
    exact .inr ((places_beginClose hget task reason _ id).trans
      ((placesBeside_enroll hnone task record connections id).trans (q.placesBeside_eq task id)))
  | close q _ ht _ =>
    exact .inr ((places_beginClose ht task _ _ id).trans (q.placesBeside_eq task id))

/-! ### What an event does -/

/-- A task that waits for a pool to be closed goes on only when it is. -/
lemma places_answer (hf : m.Fresh) (hs : m.tasks.get? task = some s) (a : Answer) (id : PoolId) :
    (m.answer task s a).places id +
      ((Event.resume task a).closes? m).toList.count id = m.places id := by
  by_cases hc : ∃ t pool reason next, s = .closing t pool reason next
  · obtain ⟨t, pool, reason, next, rfl⟩ := hc
    cases a with
    | closed =>
      have hmove : Move (m.closeHeld (.closing t pool reason next)) task _ _ :=
        Move.of_answer_closed (s := .closing t pool reason next) rfl
      have hne : (m.answer task (.closing t pool reason next) .closed).tasks.get? task ≠
          some (.closing t pool reason next) :=
        fun h => (backlog_answer_closed rfl h).ne rfl
      rcases hmove.places id with heq | hplaces
      · rw [heq] at hne
        exact absurd hs hne
      · have hbefore := places_eq (o := .stage (.closing t pool reason next)) hs id
        rw [hplaces, hbefore]
        simp only [Event.closes?, hs, Option.toList_some, Origin.closesPool, Stage.closesPool,
          List.count_singleton]
        by_cases hid : pool = id
        · simp [hid, placesBeside, closeHeld]
        · simp only [hid, beq_iff_eq, if_false, decide_false, Bool.toNat_false]
          rfl
    | _ => rfl
  · have hcloses : (Event.resume task a).closes? m = none := by
      cases a <;> simp only [Event.closes?, hs]
      split
      next t pool reason next heq => exact absurd ⟨t, pool, reason, next, Option.some.inj heq⟩ hc
      next => rfl
    have hself : s.closesPool id = false := by
      cases s with
      | closing t pool reason next => exact absurd ⟨t, pool, reason, next, rfl⟩ hc
      | _ => rfl
    rw [hcloses, Option.toList_none, List.count_nil, Nat.add_zero]
    have hmove : Move m task (.stage s) (m.answer task s a) := Move.of_answer hf s a
    rcases hmove.places id with heq | hplaces
    · rw [heq]
    · rw [hplaces, places_eq (o := .stage s) hs id, Origin.closesPool, hself]
      rfl

lemma places_modifyPool (m : Manager) (pool : PoolId) (f : Pool → Pool) (id : PoolId) :
    (m.modifyPool pool f).places id = m.places id := by
  simp only [places, modifyPool, List.length_modify]

/-- With every event a pool stays where it is, comes into use, is taken out of use by a task, or has
been closed by one. -/
lemma places_step (hf : m.Fresh) (he : e.isCancel = false) (id : PoolId) :
    (m.step e).places id + (e.closes? m).toList.count id = m.places id := by
  cases e with
  | call request =>
    rcases (Move.of_call hf request).places id with heq | hplaces
    · rw [step, heq]
      rfl
    · have hbefore := places_eq (o := .call request) hf.get?_nextTask id
      exact hplaces.trans hbefore.symm
  | resume task a =>
    cases hs : m.tasks.get? task with
    | some s =>
      rw [step_resume hs]
      exact places_answer hf hs a id
    | none =>
      have hcloses : (Event.resume task a).closes? m = none := by
        cases a <;> simp only [Event.closes?, hs]
      simp only [step, resume, hs, hcloses, Option.toList_none, List.count_nil, Nat.add_zero]
  | advance nanos => rfl
  | drop lease =>
    simp only [step, dropLease]
    split
    next pool _ => exact places_modifyPool m pool (·.release m.now) id
    next => rfl
  | touch | acquire | release => exact places_modifyPool m _ _ id
  | cancel => cases he

lemma places_cancel_le (m : Manager) (task : TaskId) (id : PoolId) :
    (m.cancel task).places id ≤ m.places id := by
  unfold Manager.cancel
  split
  next =>
    split
    next => exact le_rfl
    next => exact Nat.add_le_add_left (List.filter_sublist.countP_le) _
  next => exact le_rfl

/-! ### Every run -/

/-- In every run in which no task is cancelled, every pool that ever came into use is in use, or is
closed by one task, or has been closed by one: of all that would close it, one only has done so. -/
theorem places_add_count_closings (c : Config) (h : ∀ e ∈ events, e.isCancel = false)
    (id : PoolId) :
    ((new c).run events).places id + ((new c).closings events).count id = 1 := by
  induction events using List.reverseRecOn with
  | nil => rfl
  | append_singleton past e ih =>
    have hstep := places_step ((fresh_new c).run past) (h e (by simp)) id
    have hpast := ih fun e' he' => h e' (by simp [he'])
    rw [run_append, closings_append, List.count_append]
    simp only [closings, List.append_nil, run, List.foldl_cons, List.foldl_nil] at hstep hpast ⊢
    omega

/-- If tasks are cancelled, a pool may be forgotten, but still none is closed twice. -/
theorem places_add_count_closings_le (c : Config) (events : List Event) (id : PoolId) :
    ((new c).run events).places id + ((new c).closings events).count id ≤ 1 := by
  induction events using List.reverseRecOn with
  | nil => exact le_rfl
  | append_singleton past e ih =>
    rw [run_append, closings_append, List.count_append]
    have hstep : (((new c).run past).step e).places id +
        (e.closes? ((new c).run past)).toList.count id ≤ ((new c).run past).places id := by
      cases he : e.isCancel with
      | false => exact (places_step ((fresh_new c).run past) he id).le
      | true =>
        cases e with
        | cancel task => exact places_cancel_le _ task id
        | _ => cases he
    simp only [closings, List.append_nil, run, List.foldl_cons, List.foldl_nil] at hstep ih ⊢
    omega

/-- A pool that is taken out of use gives one slot back, and the task that an event has reached
closes it. -/
lemma Turn.taken_out (h : Turn m e m') (ht : m.entries.get? t = some id)
    (hne : m'.entries.get? t ≠ some id) :
    m'.slots = m.slots - 1 ∧ ∃ task o reason next, e.origin? m = some (task, o) ∧
      m'.tasks.get? task = some (.closing t id reason next) := by
  cases h with
  | @act _ m₀ task o _ ho q _ _ hm =>
    rw [← q.entries] at ht
    cases hm with
    | stay => exact absurd ht hne
    | wait q' _ | leave q' _ | finish q' _ _ | report q' _ | reserve q' _ _ _ _ _ | yield q' _ _
    | hand q' _ _ _ | lend q' _ _ _ => exact absurd (q'.entries ▸ ht) hne
    | @giveUp _ d _ _ q' _ _ => cases d <;> exact absurd (q'.entries ▸ ht) hne
    | @enter m₁ d t' record connections _ q' _ hnone _ =>
      have hother : t ≠ t' := by
        rintro rfl
        rw [q'.entries, ht] at hnone
        cases hnone
      have hentry : (m₁.enroll t' record connections).entries.get? t = some id := by
        rw [enroll, Assoc.get?_insert, if_neg hother, q'.entries, ht]
      rw [Move.deliver_enroll] at hne
      cases d <;> exact absurd hentry hne
    | @withdraw m₁ d t' record connections _ reason q' _ hnone _ =>
      refine absurd ?_ hne
      have hother : t ≠ t' := by
        rintro rfl
        rw [q'.entries, ht] at hnone
        cases hnone
      simp only [beginClose, enroll, modifyPool, giveSlot, await, Assoc.get?_erase,
        Assoc.get?_insert, if_neg hother, q'.entries, ht]
    | @close m₁ t' id' reason next q' _ hsome _ =>
      by_cases heq : t = t'
      · subst heq
        rw [q'.entries, ht] at hsome
        cases hsome
        refine ⟨?_, task, o, reason, next, ho, get?_await _ task _⟩
        rw [← q.slots, ← q'.slots]
        rfl
      · refine absurd ?_ hne
        simp only [beginClose, modifyPool, giveSlot, await, Assoc.get?_erase, if_neg heq,
          q'.entries, ht]
  | aside _ q => exact absurd (q.entries ▸ ht) hne
  | acquire | release | drop | cancel => exact absurd ht hne

end Tenancy.Manager
