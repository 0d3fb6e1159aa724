import Tenancy.Proofs.Manager.Run

/-!
# Slots

Every pool in use takes a slot, and so does every pool that is being made until its task fails, or
finds that another pool came first, or has entered its own. `slots_eq_entries_add_creations` says
that the count of slots is exact after every run in which no task is cancelled, and that it never
passes the limit of the configuration. A task whose connections came too late has given its slot
back while it still waits for their end, so that there can be fewer slots than pools in use and
tasks that make one: `slots_ne_entries_add_unfinished`.
-/

namespace Tenancy.Manager

/-- Whether a task makes a pool and has not told yet how that ended. -/
def Stage.isCreating : Stage → Bool
  | .yielding _ _ _ _ | .closing _ _ _ (.withdraw _) => true
  | s => s.hasSlot

lemma Stage.isCreating_of_hasSlot {s : Stage} (h : s.hasSlot = true) : s.isCreating = true := by
  cases s <;> simp_all [isCreating, hasSlot]

/-- The number of tasks that make a pool and have not told yet how that ended. -/
def unfinished (m : Manager) : Nat := m.tasks.countValues Stage.isCreating

/-- The number of tasks that have a slot for a pool that they make. -/
def creations (m : Manager) : Nat := m.tasks.countValues Stage.hasSlot

/-- The same number without one of the tasks. -/
def creationsBeside (m : Manager) (task : TaskId) : Nat :=
  (m.tasks.erase task).countValues Stage.hasSlot

/-- The count of slots is exact and within the limit. -/
structure Accounted (m : Manager) : Prop where
  slots : m.slots = m.entries.size + m.creations
  limit : 0 < m.config.maxPools → m.slots ≤ m.config.maxPools

variable {m m₁ m' : Manager} {task : TaskId} {o : Origin}

/-! ### Counting tasks -/

lemma creations_eq (hat : o.At m task) :
    m.creations = m.creationsBeside task + o.hasSlot.toNat := by
  cases o with
  | call request => exact (Assoc.countValues_erase_of_none hat _).symm
  | stage s => exact Assoc.countValues_erase_of_some hat _

lemma Stage.hasSlot_of_isQueued {s : Stage} (h : s.isQueued = true) : s.hasSlot = false :=
  hasSlot_of_isPlain (isPlain_of_isQueued h)

lemma Quiet.creations_eq (q : m.Quiet m₁) : m₁.creations = m.creations :=
  q.countP_tasks fun _ he => Stage.hasSlot_of_isQueued he

lemma Quiet.creationsBeside_eq (q : m.Quiet m₁) (task : TaskId) :
    m₁.creationsBeside task = m.creationsBeside task :=
  q.countValues_erase task fun _ => Stage.hasSlot_of_isQueued

lemma creations_insert {tasks : Assoc TaskId Stage} {s : Stage}
    (h : m'.tasks = tasks.insert task s) :
    m'.creations = (tasks.erase task).countValues Stage.hasSlot + s.hasSlot.toNat := by
  rw [creations, h, Assoc.countValues_insert]

/-- A task that goes on without doing anything to the pools keeps its slot, if it has one. -/
lemma Leads.hasSlot {s : Stage} (h : Leads o s) : s.hasSlot = o.hasSlot := by
  cases h with
  | plain ho hs => rw [ho, Stage.hasSlot_of_isPlain hs]
  | _ => rfl

/-! ### What one move does -/

/-- A pool that was entered and taken out at once leaves as many as before. -/
lemma size_insert_erase (entries : Assoc TenantId PoolId) {t : TenantId}
    (h : entries.get? t = none) (id : PoolId) :
    ((entries.insert t id).erase t).size = entries.size := by
  have hi := Assoc.size_insert_of_none h id
  have hget : (entries.insert t id).get? t = some id := by simp [Assoc.get?_insert]
  have he := Assoc.size_erase_of_some hget
  omega

/-- How a move changes the slots and what they are taken for. -/
inductive SlotChange (m m' : Manager) : Prop
  | kept (hs : m'.slots = m.slots) (he : m'.entries.size = m.entries.size)
      (hc : m'.creations = m.creations)
  | taken (hs : m'.slots = m.slots + 1) (hfull : m.isFull = false)
      (he : m'.entries.size = m.entries.size) (hc : m'.creations = m.creations + 1)
  | filled (hs : m'.slots = m.slots) (he : m'.entries.size = m.entries.size + 1)
      (hc : m'.creations + 1 = m.creations)
  | given (hs : m'.slots = m.slots - 1) (he : m'.entries.size = m.entries.size)
      (hc : m'.creations + 1 = m.creations)
  | emptied (hs : m'.slots = m.slots - 1) (he : m'.entries.size + 1 = m.entries.size)
      (hc : m'.creations = m.creations)

lemma Move.slotChange (h : Move m task o m') (hat : o.At m task) : SlotChange m m' := by
  have hm := creations_eq hat
  cases h with
  | stay => exact .kept rfl rfl rfl
  | @wait m₁ s q hl =>
    refine .kept q.slots (congrArg _ q.entries) ?_
    rw [creations_insert rfl, hm, hl.hasSlot]
    exact congrArg (· + _) (q.creationsBeside_eq task)
  | leave q ho | finish q ho _ | report q ho | hand q ho _ _ | lend q ho _ _ =>
    refine .kept q.slots (congrArg _ q.entries) ?_
    rw [hm, ho]
    exact q.creationsBeside_eq task
  | @reserve m₁ d t q ho _ _ _ hfull =>
    refine .taken (congrArg (· + 1) q.slots) ?_ (congrArg _ q.entries) ?_
    · rw [← hfull, isFull, isFull, q.slots, q.config]
    · rw [creations_insert rfl, hm, ho]
      exact congrArg (· + 1) (q.creationsBeside_eq task)
  | @giveUp m₁ d t e q ho _ =>
    have hc : (m₁.giveUp task d e).creations + 1 = m.creations := by
      rw [hm, ho, ← q.creationsBeside_eq task]
      cases d <;> rfl
    cases d <;> exact .given (congrArg (· - 1) q.slots) (congrArg _ q.entries) hc
  | yield q ho _ =>
    subst ho
    refine .given (congrArg (· - 1) q.slots) (congrArg _ q.entries) ?_
    rw [creations_insert rfl, hm]
    exact congrArg (· + 1) (q.creationsBeside_eq task)
  | @enter m₁ d t record connections _ q ho hnone _ =>
    subst ho
    have he : (m₁.enroll t record connections).entries.size = m.entries.size + 1 := by
      rw [← q.entries]
      exact Assoc.size_insert_of_none hnone _
    have hc : m₁.creationsBeside task + 1 = m.creations := by
      rw [hm, q.creationsBeside_eq task]
      rfl
    rw [deliver_enroll]
    cases d <;> exact .filled q.slots he hc
  | @withdraw m₁ d t record connections _ reason q ho hnone _ =>
    -- The pool was entered and taken out at once, so that only the slot is given back.
    subst ho
    refine .given (congrArg (· - 1) q.slots) ?_ ?_
    · rw [← q.entries]
      exact size_insert_erase _ hnone _
    · rw [creations_insert rfl, hm]
      exact congrArg (· + 1) (q.creationsBeside_eq task)
  | @close m₁ t id reason next q ho hsome _ =>
    refine .emptied (congrArg (· - 1) q.slots) ?_ ?_
    · rw [← q.entries]
      exact Assoc.size_erase_of_some hsome
    · rw [creations_insert rfl, hm, ho]
      exact q.creationsBeside_eq task

/-! ### What every event preserves -/

lemma Quiet.accounted (q : m.Quiet m') (h : m.Accounted) : m'.Accounted := by
  obtain ⟨hslots, hlimit⟩ := h
  refine ⟨?_, ?_⟩
  · rw [q.slots, q.entries, q.creations_eq, hslots]
  · rw [q.slots, q.config]
    exact hlimit

lemma isFull_eq_false_iff : m.isFull = false ↔
    (0 < m.config.maxPools → m.slots < m.config.maxPools) := by
  simp only [isFull, Bool.and_eq_false_imp, decide_eq_true_eq, decide_eq_false_iff_not]
  constructor <;> intro h hpos <;> have := h hpos <;> omega

lemma SlotChange.accounted (hs : SlotChange m m') (hc : m'.config = m.config)
    (h : m.Accounted) : m'.Accounted := by
  obtain ⟨hslots, hlimit⟩ := h
  constructor
  · cases hs <;> omega
  · rw [hc]
    intro hpos
    have hle := hlimit hpos
    cases hs with
    | taken hs hfull _ _ =>
      have := isFull_eq_false_iff.1 hfull hpos
      omega
    | _ => omega

/-- A slot is given back only if one is taken. -/
lemma SlotChange.pos_of_lt (hs : SlotChange m m') (h : m.Accounted) (hlt : m'.slots < m.slots) :
    0 < m.slots ∧ m'.slots = m.slots - 1 := by
  have hslots := h.slots
  cases hs <;> omega

lemma Turn.slotChange {e : Event} (h : Turn m e m') (he : e.isCancel = false) :
    ∃ m₀, m.Quiet m₀ ∧ SlotChange m₀ m' ∧ m'.config = m₀.config := by
  cases h with
  | act _ q _ hat h => exact ⟨_, q, h.slotChange hat, h.config_eq⟩
  | aside _ q => exact ⟨m', q, .kept rfl rfl rfl, rfl⟩
  | acquire | release | drop => exact ⟨m, .refl m, .kept rfl rfl rfl, rfl⟩
  | cancel => cases he

lemma Turn.accounted {e : Event} (h : Turn m e m') (he : e.isCancel = false)
    (ha : m.Accounted) : m'.Accounted := by
  obtain ⟨m₀, q, hs, hc⟩ := h.slotChange he
  exact hs.accounted hc (q.accounted ha)

lemma accounted_run (c : Config) {events : List Event} (h : ∀ e ∈ events, e.isCancel = false) :
    ((new c).run events).Accounted := by
  refine run_induction (fun ht _ ha he => ht.accounted he ha) (fresh_new c) ⟨rfl, ?_⟩ h
  exact fun _ => Int.natCast_nonneg _

/-! ### Every run -/

/-- However tasks take turns, as long as none is cancelled: the slots are those of the pools in use
and of the tasks that hold one for a pool they make; no slot is given back that is not taken; and
the limit, if there is one, is kept. When no pool is being made, the slots are the pools in use. -/
theorem slots_eq_entries_add_creations (c : Config) (events : List Event)
    (h : ∀ e ∈ events, e.isCancel = false) :
    let m := (new c).run events
    m.slots = m.entries.size + m.creations ∧
    (∀ e : Event, e.isCancel = false → (m.step e).slots < m.slots →
      0 < m.slots ∧ (m.step e).slots = m.slots - 1) ∧
    (0 < c.maxPools → m.slots ≤ c.maxPools) ∧
    ((∀ task s, m.tasks.get? task = some s → s.isCreating = false) →
      m.slots = m.entries.size) := by
  intro m
  have hf : m.Fresh := (fresh_new c).run events
  have ha : m.Accounted := accounted_run c h
  refine ⟨ha.slots, ?_, ?_, ?_⟩
  · intro e he hlt
    obtain ⟨m₀, q, hs, -⟩ := (Turn.of_step hf e).slotChange he
    rw [← q.slots] at hlt ⊢
    exact hs.pos_of_lt (q.accounted ha) hlt
  · rw [← config_run c events]
    exact ha.limit
  · intro hnone
    have hzero : m.creations = 0 := by
      by_contra hne
      obtain ⟨task, s, hs, hslot⟩ := Assoc.countValues_pos_iff.1 (Nat.pos_of_ne_zero hne)
      have hcreating := Stage.isCreating_of_hasSlot hslot
      rw [hnone task s hs] at hcreating
      cases hcreating
    rw [ha.slots, hzero]
    simp

/-! ### Connections that came too late -/

/-- Two requests for the pool of one tenant, both of which get as far as the first ping. The second
one comes too late, and its connections are not closed yet. -/
def lateSecond : List Event :=
  [.call (.get "acme"), .call (.get "acme"),
    .resume 0 (.tenant (.ok acme)), .resume 1 (.tenant (.ok acme)),
    .resume 0 (.opened (.ok ("acme_db", 2))), .resume 1 (.opened (.ok ("acme_db", 2))),
    .resume 0 (.pinged (.ok ())), .resume 1 (.pinged (.ok ()))]

/-- The same two requests, and then two for other tenants. -/
def lateSecondAndOthers : List Event :=
  lateSecond ++ [.call (.get "globex"), .call (.get "initech")]

/-- Where two pools are allowed, the slot that was given back serves the first of the others, and
the second one gets none. -/
theorem slots_after_lateSecondAndOthers :
    (∀ e ∈ lateSecondAndOthers, e.isCancel = false) ∧
      let m := (new { Config.new "app" "secret" with maxPools := 2 }).run lateSecondAndOthers
      m.slots = m.entries.size + m.creations ∧ m.slots = 2 ∧ m.creations = 1 := by
  have h : ∀ e ∈ lateSecondAndOthers, e.isCancel = false := by decide
  have hm := slots_eq_entries_add_creations { Config.new "app" "secret" with maxPools := 2 }
    lateSecondAndOthers h
  refine ⟨h, hm.1, ?_, ?_⟩ <;> decide

/-- A task has given its slot back and still makes a pool, so that the slots are not those of the
pools in use and of all tasks that make one. -/
theorem slots_ne_entries_add_unfinished :
    (∀ e ∈ lateSecond, e.isCancel = false) ∧
      let m := (new (.new "app" "secret")).run lateSecond
      m.slots ≠ m.entries.size + m.unfinished := by
  decide

end Tenancy.Manager
