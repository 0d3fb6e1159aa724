import Tenancy.Proofs.Manager.Entries

/-!
# Pools of tenants that are no longer active

A tenant whose status was changed to one that is not active should get no pool until the status
changes again. But the status is read once, before the connections are opened: a pool that was
being made for the tenant at that time is entered all the same, and then serves every request.
`gated_iff_none_opening`: the change keeps its promise exactly if no task had passed the look-up by
then, or the manager is shut down.
-/

namespace Tenancy.Manager

variable {m m₁ m' : Manager} {task : TaskId} {o : Origin} {e : Event} {t : TenantId}

/-! ### The promise -/

/-- Whether a task makes a pool for a tenant whom it found to be active. -/
def Stage.opens (t : TenantId) : Stage → Bool
  | .opening _ tenant _ _ | .pinging _ tenant _ _ _ => tenant = t
  | _ => false

/-- Whether an event, if it tells a task the record of a tenant, tells that the tenant is not
active. -/
def Event.denies (m : Manager) (t : TenantId) : Event → Bool
  | .resume task (.tenant (.ok record)) =>
    match m.tasks.get? task with
    | some (.lookingUp _ tenant) => tenant ≠ t || !record.isActive
    | _ => true
  | _ => true

/-- Whether the directory, as often as it is asked, does not report a tenant as active. -/
def denies (m : Manager) (t : TenantId) : List Event → Bool
  | [] => true
  | e :: events => e.denies m t && (m.step e).denies t events

/-- Whether a request asks for the pool of a tenant. -/
def Request.wants (t : TenantId) : Request → Bool
  | .get tenant | .lease tenant => tenant = t
  | _ => false

/-- As long as the directory does not report the tenant as active, no request for the pool that
comes in after task `k` has ended well is granted. -/
def Gated (m : Manager) (k : TaskId) (t : TenantId) : Prop :=
  ∀ (past next : List Event) (request : Request), request.wants t = true →
    m.denies t (past ++ .call request :: next) = true →
    (m.run past).outcomes.get? k = some .done →
    ∀ outcome,
      (m.run (past ++ .call request :: next)).outcomes.get? (m.run past).nextTask = some outcome →
      outcome.isGrant = false

lemma denies_append (m : Manager) (t : TenantId) (past next : List Event) :
    m.denies t (past ++ next) = (m.denies t past && (m.run past).denies t next) := by
  induction past generalizing m with
  | nil => rfl
  | cons e rest ih => simp only [List.cons_append, denies, ih, run_cons, Bool.and_assoc]

/-! ### Tasks that still look the tenant up -/

/-- A task that learns that the tenant is not active gives up. -/
lemma step_of_lookingUp {d : Demand} {a : Answer}
    (hs : m.tasks.get? task = some (.lookingUp d t))
    (hd : (Event.resume task a).denies m t = true) :
    m.step (.resume task a) = m ∨ ∃ error, m.step (.resume task a) = m.giveUp task d error := by
  simp only [step, resume, hs]
  cases a with
  | tenant result =>
    simp only [answer]
    cases result with
    | error cause => exact .inr ⟨_, rfl⟩
    | ok record =>
      have hinactive : record.isActive = false := by simpa [Event.denies, hs] using hd
      exact .inr ⟨_, by simp only [afterLookup, hinactive]; rfl⟩
  | _ => exact .inl rfl

/-- A task makes a pool for an active tenant if it did so before, or has just looked it up. -/
lemma Reaches.opens {s : Stage} (h : Reaches o s) (hs : s.opens t = true) :
    ∃ s₀, o = .stage s₀ ∧ (s₀.opens t = true ∨ ∃ d, s₀ = .lookingUp d t) := by
  cases h with
  | leads h =>
    cases h with
    | opening =>
      have ht := of_decide_eq_true hs
      subst ht
      exact ⟨_, rfl, .inr ⟨_, rfl⟩⟩
    | pinging => exact ⟨_, rfl, .inl hs⟩
    | rejecting => cases hs
    | plain _ hplain => cases s <;> simp_all [Stage.opens, Stage.isPlain]
  | reserve | yield | close => cases hs

/-- Only a task that makes a pool for an active tenant enters one. -/
lemma Move.entries_none (h : Move m task o m') (hnone : m.entries.get? t = none)
    (ho : ∀ s, o = .stage s → s.opens t = false) : m'.entries.get? t = none := by
  cases h.entryChange with
  | kept he => exact (he t).trans hnone
  | entered hat _ he =>
    rw [he, Assoc.get?_insert]
    split_ifs with heq
    · subst heq
      simpa [Stage.opens] using ho _ hat
    · exact hnone
  | closed _ _ _ he =>
    rw [he, Assoc.get?_erase, hnone, ite_self]

/-! ### Tenants that get no pool -/

/-- The manager is shut down, or the tenant has no pool and none is being made that passed the
look-up. -/
def Barred (m : Manager) (t : TenantId) : Prop :=
  m.shuttingDown = true ∨
    m.entries.get? t = none ∧ ∀ k s, m.tasks.get? k = some s → s.opens t = false

/-- Where a task reaches a tenant whom it still looks up, and is told that the tenant is not
active, or where it moves in another way. -/
lemma step_cases (hf : m.Fresh) (hd : e.denies m t = true) :
    (∃ k d, m.tasks.get? k = some (.lookingUp d t) ∧
      (m.step e = m ∨ ∃ error, m.step e = m.giveUp k d error)) ∨
    Turn m e (m.step e) ∧
      ∀ k d, e.origin? m ≠ some (k, .stage (.lookingUp d t)) := by
  by_cases h : ∃ k d, e.origin? m = some (k, .stage (.lookingUp d t))
  · obtain ⟨k, d, h⟩ := h
    cases Event.Drives.of_origin? h with
    | resume a hs => exact .inl ⟨k, d, hs, step_of_lookingUp hs hd⟩
  · exact .inr ⟨Turn.of_step hf e, fun k d hk => h ⟨k, d, hk⟩⟩

lemma Barred.giveUp (h : Barred m t) (k : TaskId) (d : Demand) (error : PoolError) :
    Barred (m.giveUp k d error) t := by
  have hleave : Barred (m.giveSlot.leave k) t := by
    refine h.imp id fun ⟨hnone, hopens⟩ => ⟨hnone, fun k' s hs => ?_⟩
    simp only [Manager.leave, giveSlot, Assoc.get?_erase] at hs
    split_ifs at hs
    exact hopens k' s hs
  cases d <;> exact hleave

lemma Stage.opens_of_isQueued {s : Stage} (h : s.isQueued = true) (t : TenantId) :
    s.opens t = false := by
  cases s <;> simp_all [isQueued, opens]

/-- Tasks that wait for their turn make no pool. -/
lemma Quiet.opens_eq_false (q : m.Quiet m₁)
    (h : ∀ k s, m.tasks.get? k = some s → s.opens t = false) :
    ∀ k s, m₁.tasks.get? k = some s → s.opens t = false := by
  intro k s hs
  rcases q.get?_or_queued hs with hs | ⟨-, hqueued⟩
  · exact h k s hs
  · exact Stage.opens_of_isQueued hqueued t

lemma Barred.turn (ht : Turn m e m')
    (ho : ∀ k d, e.origin? m ≠ some (k, .stage (.lookingUp d t))) (h : Barred m t) :
    Barred m' t := by
  rcases h with hdown | ⟨hnone, hopens⟩
  · exact .inl (ht.shuttingDown hdown)
  · refine .inr ?_
    cases ht with
    | @act _ m₀ task o _ hreach q _ hat hm =>
      have hopens₀ := q.opens_eq_false hopens
      have horigin : ∀ s, o = .stage s → s.opens t = false := by
        rintro s rfl
        exact hopens₀ task s hat
      refine ⟨hm.entries_none (by rw [q.entries, hnone]) horigin, fun k s hs => ?_⟩
      rcases hm.get?_cases hs with hs | hqueued | ⟨-, hr⟩
      · exact hopens₀ k s hs
      · exact Stage.opens_of_isQueued hqueued t
      · by_contra hopen
        obtain ⟨s₀, rfl, hs₀ | ⟨d, rfl⟩⟩ := hr.opens (t := t) (by simpa using hopen)
        · rw [horigin s₀ rfl] at hs₀
          cases hs₀
        · exact ho task d hreach
    | aside _ q => exact ⟨q.entries ▸ hnone, q.opens_eq_false hopens⟩
    | acquire | release | drop => exact ⟨hnone, hopens⟩
    | cancel =>
      refine ⟨hnone, fun k s hs => hopens k s ?_⟩
      simp only [Assoc.get?_filter] at hs
      exact Option.eq_some_of_filter_eq_some hs

lemma Barred.step (hf : m.Fresh) (hd : e.denies m t = true) (h : Barred m t) :
    Barred (m.step e) t := by
  rcases step_cases hf hd with ⟨k, d, -, heq | ⟨error, heq⟩⟩ | ⟨hturn, ho⟩
  · rwa [heq]
  · rw [heq]
    exact h.giveUp k d error
  · exact h.turn hturn ho

lemma Barred.run (hf : m.Fresh) {events : List Event} (hd : m.denies t events = true)
    (h : Barred m t) : Barred (m.run events) t := by
  induction events generalizing m with
  | nil => exact h
  | cons e rest ih =>
    simp only [denies, Bool.and_eq_true] at hd
    exact ih (hf.step e) hd.2 (h.step hf hd.1)

/-- A task that was not granted a pool of the tenant, and can only learn that it gets none. -/
structure Refused (m : Manager) (t : TenantId) (task : TaskId) : Prop where
  started : task < m.nextTask
  waits : ∀ s, m.tasks.get? task = some s → ∃ d, s = .lookingUp d t
  outcome : ∀ outcome, m.outcomes.get? task = some outcome → outcome.isGrant = false

namespace Refused

lemma of_fail (hlt : task < m.nextTask) (d : Demand) (error : PoolError)
    (ho : ∀ outcome, m.outcomes.get? task = some outcome → outcome.isGrant = false) :
    Refused (m.fail task d error) t task := by
  have hgone : ∀ s, (m.tasks.erase task).get? task = some s → ∃ d, s = .lookingUp d t := by
    intro s hs
    simp [Assoc.get?_erase] at hs
  have hfailed : ∀ outcome, (m.outcomes.insert task (.failed error)).get? task = some outcome →
      outcome.isGrant = false := by
    intro outcome h
    simp only [Assoc.get?_insert, if_true] at h
    cases h
    rfl
  cases d with
  | get | lease => exact ⟨hlt, hgone, hfailed⟩
  | warm => exact ⟨hlt, hgone, ho⟩

/-- What happens to other tasks does not matter. -/
lemma turn (ht : Turn m e m') (ho : ∀ k d, e.origin? m ≠ some (k, .stage (.lookingUp d t)))
    (h : Refused m t task) : Refused m' t task := by
  cases ht with
  | @act _ m₀ k o _ hreach q hlt hat hm =>
    -- The task itself is not reached: it has ended, or looks the tenant up.
    have hne : task ≠ k := by
      rintro rfl
      obtain ⟨-, s, -, rfl, hs⟩ := Event.exists_resume hreach h.started
      obtain ⟨d, rfl⟩ := h.waits s hs
      exact ho _ d hreach
    have htasks := (hm.get?_other hne (h.started.trans_le q.nextTask)).trans
      (q.get?_eq_of_lt h.started)
    have houtcomes := (hm.outcomes_other hne).trans (congrArg (·.get? task) q.outcomes)
    exact ⟨h.started.trans_le (q.nextTask.trans hm.nextTask_le), htasks ▸ h.waits,
      houtcomes ▸ h.outcome⟩
  | aside _ q =>
    exact ⟨h.started.trans_le q.nextTask, q.get?_eq_of_lt h.started ▸ h.waits,
      q.outcomes ▸ h.outcome⟩
  | acquire | release | drop => exact ⟨h.started, h.waits, h.outcome⟩
  | cancel =>
    refine ⟨h.started, fun s hs => h.waits s ?_, h.outcome⟩
    simp only [Assoc.get?_filter] at hs
    exact Option.eq_some_of_filter_eq_some hs

lemma giveUp (h : Refused m t task) (k : TaskId) (d : Demand) (error : PoolError) :
    Refused (m.giveUp k d error) t task := by
  by_cases heq : k = task
  · subst heq
    exact of_fail (m := m.giveSlot) h.started d error h.outcome
  · have hne := Ne.symm heq
    have htasks : (m.tasks.erase k).get? task = m.tasks.get? task := by
      rw [Assoc.get?_erase, if_neg hne]
    have houtcomes : (m.outcomes.insert k (.failed error)).get? task = m.outcomes.get? task := by
      rw [Assoc.get?_insert, if_neg hne]
    cases d with
    | get | lease => exact ⟨h.started, htasks ▸ h.waits, houtcomes ▸ h.outcome⟩
    | warm => exact ⟨h.started, htasks ▸ h.waits, h.outcome⟩

lemma step (hf : m.Fresh) (hd : e.denies m t = true) (h : Refused m t task) :
    Refused (m.step e) t task := by
  rcases step_cases hf hd with ⟨k, d, -, heq | ⟨error, heq⟩⟩ | ⟨hturn, ho⟩
  · rwa [heq]
  · rw [heq]
    exact h.giveUp k d error
  · exact h.turn hturn ho

lemma run (hf : m.Fresh) {events : List Event} (hd : m.denies t events = true)
    (h : Refused m t task) : Refused (m.run events) t task := by
  induction events generalizing m with
  | nil => exact h
  | cons e rest ih =>
    simp only [denies, Bool.and_eq_true] at hd
    exact ih (hf.step e) hd.2 (h.step hf hd.1)

lemma of_beginCreation (hlt : task < m.nextTask) (d : Demand)
    (ho : ∀ outcome, m.outcomes.get? task = some outcome → outcome.isGrant = false) :
    Refused (m.beginCreation task d t) t task := by
  unfold beginCreation
  split
  next => exact of_fail hlt d _ ho
  next =>
    refine ⟨hlt, fun s hs => ?_, ho⟩
    simp only [await, Assoc.get?_insert, if_true] at hs
    cases hs
    exact ⟨d, rfl⟩

end Refused

/-- A request for the pool of a tenant who gets none is refused, or has to look the tenant up. -/
lemma Barred.refused (h : Barred m t) (ha : m.Answered) {request : Request}
    (hw : request.wants t = true) : Refused (m.step (.call request)) t m.nextTask := by
  set m₀ := { m with nextTask := m.nextTask + 1 } with hm₀
  have hlt : m.nextTask < m₀.nextTask := Nat.lt_succ_self _
  have ho : ∀ outcome, m₀.outcomes.get? m.nextTask = some outcome → outcome.isGrant = false :=
    fun outcome houtcome => absurd (ha _ _ houtcome) (lt_irrefl _)
  have hentry : m₀.shuttingDown = false → m₀.entries.get? t = none := by
    intro hopen
    rcases h with hdown | ⟨hnone, -⟩
    · rw [hm₀, hdown] at hopen
      cases hopen
    · exact hnone
  cases request with
  | get tenant =>
    have ht := of_decide_eq_true hw
    subst ht
    change Refused (m₀.beginGet m.nextTask .get tenant) tenant m.nextTask
    unfold beginGet
    split
    next => exact .of_fail hlt .get _ ho
    next hopen =>
      rw [hentry (by simpa using hopen)]
      exact .of_beginCreation hlt .get ho
  | lease tenant =>
    have ht := of_decide_eq_true hw
    subst ht
    change Refused (m₀.beginLease m.nextTask tenant) tenant m.nextTask
    unfold beginLease
    split
    next => exact .of_fail hlt .lease _ ho
    next hopen =>
      rw [hentry (by simpa using hopen)]
      exact .of_beginCreation hlt .lease ho
  | _ => cases hw

lemma Barred.gated (h : Barred m t) (hf : m.Fresh) (ha : m.Answered) (k : TaskId) :
    Gated m k t := by
  intro past next request hw hd _
  rw [denies_append, denies, Bool.and_eq_true, Bool.and_eq_true] at hd
  obtain ⟨hpast, -, hnext⟩ := hd
  have hrefused := (h.run hf hpast).refused (ha.run hf past) hw
  rw [run_append, run_cons]
  exact (hrefused.run ((hf.run past).step _) hnext).outcome

/-! ### Pools that are entered all the same -/

lemma exists_entered_of_pinging {k j : TaskId} {d : Demand} {record : Tenant}
    {connections : ConnectionsId} {deadline : Nat}
    (hj : m.tasks.get? j = some (.pinging d t record connections deadline)) (hne : k ≠ j)
    (hopen : m.shuttingDown = false) (hnone : m.entries.get? t = none) :
    let m' := m.step (.resume j (.pinged (.ok ())))
    m'.shuttingDown = false ∧ (∃ id, m'.entries.get? t = some id) ∧
      m'.outcomes.get? k = m.outcomes.get? k := by
  intro m'
  have hm' : m' = (m.enroll t record connections).deliver j d t m.pools.length := by
    simp only [m', step, resume, hj, answer, afterFirstPing, Manager.enter, hnone, hopen, enroll]
    rfl
  have hentry : (m.enroll t record connections).entries.get? t = some m.pools.length := by
    simp [enroll, Assoc.get?_insert]
  have houtcome : ∀ outcome, (m.outcomes.insert j outcome).get? k = m.outcomes.get? k := by
    intro outcome
    rw [Assoc.get?_insert, if_neg hne]
  rw [hm', Move.deliver_enroll]
  cases d with
  | get | lease => exact ⟨hopen, ⟨_, hentry⟩, houtcome _⟩
  | warm => exact ⟨hopen, ⟨_, hentry⟩, rfl⟩

/-- A task that makes a pool for a tenant can enter it, whatever became of the tenant's status. -/
lemma exists_entered {k j : TaskId} {s : Stage} (hj : m.tasks.get? j = some s)
    (hs : s.opens t = true) (hne : k ≠ j) (hopen : m.shuttingDown = false)
    (hnone : m.entries.get? t = none) :
    ∃ events, m.denies t events = true ∧ (m.run events).shuttingDown = false ∧
      (∃ id, (m.run events).entries.get? t = some id) ∧
      (m.run events).outcomes.get? k = m.outcomes.get? k := by
  cases s with
  | pinging d tenant record connections deadline =>
    have ht := of_decide_eq_true hs
    subst ht
    exact ⟨[.resume j (.pinged (.ok ()))], rfl, exists_entered_of_pinging hj hne hopen hnone⟩
  | opening d tenant record deadline =>
    have ht := of_decide_eq_true hs
    subst ht
    have hm₁ : m.step (.resume j (.opened (.ok ("", 0)))) =
        { m with ledger := m.ledger.open "" 0 }.await j
          (.pinging d tenant record m.ledger.next m.connectDeadline) := by
      simp only [step, resume, hj]
      rfl
    refine ⟨[.resume j (.opened (.ok ("", 0))), .resume j (.pinged (.ok ()))], rfl, ?_⟩
    rw [run_cons, hm₁]
    have hj₁ := Assoc.get?_insert m.tasks j j
      (.pinging d tenant record m.ledger.next m.connectDeadline)
    rw [if_pos rfl] at hj₁
    exact exists_entered_of_pinging hj₁ hne hopen hnone
  | _ => cases hs

/-- The pool that a tenant has serves every request. -/
lemma outcome_of_entry {id : PoolId} (hopen : m.shuttingDown = false)
    (hentry : m.entries.get? t = some id) :
    (m.step (.call (.get t))).outcomes.get? m.nextTask = some (.pool id) := by
  simp only [step, call, admitRequest, beginGet, hopen, hentry]
  simp [deliver, finish, Assoc.get?_insert]

/-! ### The change of a status -/

section Update

variable {k : TaskId} {s : Status}

lemma step_updated (hk : m.tasks.get? k = some (.updating t s)) (hs : s.isActive = false) :
    m.step (.resume k (.updated (.ok ()))) =
      match m.entries.get? t with
      | some id => m.beginClose k t id ("tenant " ++ s.name) .setStatus
      | none => m.finish k .done := by
  simp only [step, resume, hk, answer, afterUpdate, hs]
  rfl

/-- After the change the tenant has no pool. -/
lemma barred_of_updated (hk : m.tasks.get? k = some (.updating t s)) (hs : s.isActive = false)
    (h : m.shuttingDown = true ∨ ∀ j stage, m.tasks.get? j = some stage → stage.opens t = false) :
    Barred (m.step (.resume k (.updated (.ok ())))) t := by
  rw [step_updated hk hs]
  cases hentry : m.entries.get? t with
  | none =>
    refine h.imp id fun h => ⟨hentry, fun j stage hj => ?_⟩
    simp only [finish, Manager.leave, Assoc.get?_erase] at hj
    split_ifs at hj
    exact h j stage hj
  | some pool =>
    refine h.imp id fun h => ⟨by simp [beginClose, modifyPool, giveSlot, await, Assoc.get?_erase],
      fun j stage hj => ?_⟩
    simp only [beginClose, modifyPool, giveSlot, await, Assoc.get?_insert] at hj
    split_ifs at hj
    · cases hj
      rfl
    · exact h j stage hj

/-- The change can end while all other tasks wait where they were. -/
lemma exists_done (hk : m.tasks.get? k = some (.updating t s)) (hs : s.isActive = false) :
    let m' := m.step (.resume k (.updated (.ok ())))
    ∃ events, m'.denies t events = true ∧ (m'.run events).shuttingDown = m.shuttingDown ∧
      (m'.run events).entries.get? t = none ∧ (m'.run events).outcomes.get? k = some .done ∧
      ∀ j, j ≠ k → (m'.run events).tasks.get? j = m.tasks.get? j := by
  intro m'
  have hm' : m' = _ := step_updated hk hs
  cases hentry : m.entries.get? t with
  | none =>
    rw [hm', hentry]
    refine ⟨[], rfl, rfl, hentry, ?_, fun j hj => ?_⟩
    · simp [run, finish, Assoc.get?_insert]
    · simp only [run, List.foldl_nil, finish, Manager.leave, Assoc.get?_erase, if_neg hj]
  | some id =>
    rw [hm', hentry]
    set m₁ := m.beginClose k t id ("tenant " ++ s.name) .setStatus with hm₁
    have hk₁ : m₁.tasks.get? k = some (.closing t id ("tenant " ++ s.name) .setStatus) := by
      simp [hm₁, beginClose, modifyPool, giveSlot, await, Assoc.get?_insert]
    have hrun : m₁.run [.resume k .closed] =
        m₁.afterClosing k t id ("tenant " ++ s.name) .setStatus := by
      simp only [run, List.foldl_cons, List.foldl_nil, step, resume, hk₁, answer]
    refine ⟨[.resume k .closed], rfl, ?_⟩
    rw [hrun]
    refine ⟨rfl, ?_, ?_, fun j hj => ?_⟩
    · exact (Assoc.get?_erase ..).trans (if_pos rfl)
    · exact (Assoc.get?_insert ..).trans (if_pos rfl)
    · have hclosed : (m₁.tasks.erase k).get? j = m.tasks.get? j := by
        rw [Assoc.get?_erase, if_neg hj]
        exact (Assoc.get?_insert ..).trans (if_neg hj)
      exact hclosed

end Update

/-- The change of a tenant's status to one that is not active keeps its promise, that no later
request gets the tenant's pool, exactly if the manager is shut down or no task makes a pool for the
tenant that it has found to be active before. -/
theorem gated_iff_none_opening (c : Config) (events : List Event) (k : TaskId) (t : TenantId)
    (s : Status) (hk : ((new c).run events).tasks.get? k = some (.updating t s))
    (hs : s.isActive = false) :
    let m := (new c).run events
    Gated (m.step (.resume k (.updated (.ok ())))) k t ↔
      m.shuttingDown = true ∨ ∀ j stage, m.tasks.get? j = some stage → stage.opens t = false := by
  intro m
  have hf : m.Fresh := (fresh_new c).run events
  have ha : m.Answered := (answered_new c).run (fresh_new c) events
  constructor
  · intro hgated
    by_contra hnot
    simp only [not_or, not_forall, Bool.not_eq_true, Bool.not_eq_false] at hnot
    obtain ⟨hopen, j, stage, hj, hopens⟩ := hnot
    have hne : j ≠ k := by
      rintro rfl
      rw [hk] at hj
      cases hj
      cases hopens
    -- The change ends, then the pool is entered, and then a request comes in.
    obtain ⟨es, hdes, hopen₁, hnone, hdone, htasks⟩ := exists_done (m := m) hk hs
    obtain ⟨es', hdes', hopen₂, ⟨id, hentry⟩, hdone'⟩ :=
      exists_entered ((htasks j hne).trans hj) hopens hne.symm (hopen₁.trans hopen) hnone
    rw [hdone, ← run_append] at hdone'
    rw [← run_append] at hopen₂ hentry
    have hgrant := hgated (es ++ es') [] (.get t) (by simp [Request.wants])
      (by simp [denies_append, hdes, hdes', denies, Event.denies]) hdone' (.pool id)
      (by rw [run_append]; exact outcome_of_entry hopen₂ hentry)
    cases hgrant
  · intro h
    exact (barred_of_updated hk hs h).gated (hf.step _) ((Turn.of_step hf _).answered ha) k

/-- Two requests for the pool of one tenant, the first of which makes it, while the second one still
looks the tenant up when the tenant is to be suspended. -/
def suspendedInTime : List Event :=
  [.call (.get "acme"), .call (.get "acme")] ++ acmeOpens 0 ++
    [.call (.setStatus "acme" .suspended)]

/-- No task has passed the look-up, so that the tenant gets no pool any more. -/
theorem gated_suspendedInTime :
    let m := (new (.new "app" "secret")).run suspendedInTime
    m.tasks.get? 2 = some (.updating "acme" .suspended) ∧ Status.suspended.isActive = false ∧
      Gated (m.step (.resume 2 (.updated (.ok ())))) 2 "acme" := by
  intro m
  have hk : m.tasks.get? 2 = some (.updating "acme" .suspended) := rfl
  have hiff := gated_iff_none_opening (.new "app" "secret") suspendedInTime 2 "acme" .suspended hk
    (by decide)
  refine ⟨hk, by decide, hiff.2 (.inr fun j stage hj => ?_)⟩
  have hall : ∀ e ∈ m.tasks.toList, e.2.opens "acme" = false := by decide
  exact hall _ (Assoc.get?_eq_some_iff.1 hj)

/-- A request that has found the tenant to be active when the tenant is to be suspended. -/
def suspendedTooLate : List Event :=
  [.call (.get "acme"), .resume 0 (.tenant (.ok acme)), .call (.setStatus "acme" .suspended)]

/-- The pool that was being made is entered after the tenant was suspended, and serves a request
that comes in after that. -/
theorem not_gated_suspendedTooLate :
    let m := (new (.new "app" "secret")).run suspendedTooLate
    m.tasks.get? 1 = some (.updating "acme" .suspended) ∧
      ¬ Gated (m.step (.resume 1 (.updated (.ok ())))) 1 "acme" := by
  refine ⟨rfl, fun h => ?_⟩
  have hgrant := h [.resume 0 (.opened (.ok ("acme_db", 2))), .resume 0 (.pinged (.ok ()))] []
    (.get "acme") (by decide) (by decide) (by decide) (.pool 0) (by decide)
  cases hgrant

end Tenancy.Manager
