import Tenancy.Proofs.Manager.Leases

/-!
# Requests under way when the manager is shut down

A manager that is shut down should give out no more pools. A request that comes in is refused, and a
pool that is entered too late is closed at once. But a task that finds another pool of its tenant
does not ask whether the manager was shut down meanwhile, and gives that pool.
`sealed_iff_none_mayReceive`: the manager gives out no more pools exactly if no task is on its way
to a pool that its tenant already has, and every other task is refused in any case.
-/

namespace Tenancy.Manager

variable {m m₁ m' : Manager} {task k : TaskId} {o : Origin} {e : Event}

/-! ### The promise -/

/-- Whether a request can get a pool although the manager is shut down: its task makes one, and the
tenant has another. -/
def Stage.mayReceive (entries : Assoc TenantId PoolId) : Stage → Bool
  | .lookingUp d t | .opening d t _ _ | .pinging d t _ _ _ =>
    d.parent?.isNone && (entries.get? t).isSome
  | .yielding .get _ _ _ => true
  | .yielding .lease t _ winner => entries.get? t = some winner
  | _ => false

/-- Whatever happens, the request of a task does not get a pool. -/
def Denied (m : Manager) (k : TaskId) : Prop :=
  ∀ next outcome, (m.run next).outcomes.get? k = some outcome → outcome.isGrant = false

/-- No request that ends from now on gets a pool, and the manager itself takes no further reference
on one. -/
def Sealed (m : Manager) : Prop :=
  (∀ k, m.outcomes.get? k = none → m.Denied k) ∧
    ∀ past e id, e.isOwn = false → ((m.run past).step e).refsOf id ≤ (m.run past).refsOf id

/-- A task cannot get a pool any more, or has ended. -/
def Bars (m : Manager) (k : TaskId) : Prop :=
  ∀ s, m.tasks.get? k = some s → s.mayReceive m.entries = false

/-! ### Pools in use -/

lemma Stage.mayReceive_mono {entries entries' : Assoc TenantId PoolId}
    (h : ∀ t id, entries'.get? t = some id → entries.get? t = some id) {s : Stage}
    (hs : s.mayReceive entries' = true) : s.mayReceive entries = true := by
  have hsome : ∀ t, (entries'.get? t).isSome = true → (entries.get? t).isSome = true := by
    intro t ht
    obtain ⟨id, hid⟩ := Option.isSome_iff_exists.1 ht
    simp [h t id hid]
  unfold mayReceive at hs ⊢
  split at hs
  · simp_all
  · simp_all
  · simp_all
  · rfl
  · simpa using h _ _ (of_decide_eq_true hs)
  · cases hs

lemma Stage.mayReceive_of_isPlain {s : Stage} (h : s.isPlain = true)
    (entries : Assoc TenantId PoolId) : s.mayReceive entries = false := by
  cases s <;> simp_all [isPlain, mayReceive]

/-- No pool is entered any more, other than one that is closed at once. -/
lemma Move.entries_of_shutDown (h : Move m task o m') (hdown : m.shuttingDown = true)
    {t : TenantId} {id : PoolId} (ht : m'.entries.get? t = some id) :
    m.entries.get? t = some id := by
  cases h with
  | stay => exact ht
  | wait q _ | leave q _ | finish q _ _ | report q _ | reserve q _ _ _ _ _ | yield q _ _
  | hand q _ _ _ | lend q _ _ _ => exact q.entries ▸ ht
  | @giveUp _ d _ _ q _ _ => cases d <;> exact q.entries ▸ ht
  | enter q _ _ hopen =>
    rw [q.shuttingDown hdown] at hopen
    cases hopen
  | withdraw q _ _ _ =>
    simp only [beginClose, enroll, modifyPool, giveSlot, await, Assoc.get?_erase,
      Assoc.get?_insert, q.entries] at ht
    split_ifs at ht
    exact ht
  | close q _ _ _ =>
    simp only [beginClose, modifyPool, giveSlot, await, Assoc.get?_erase, q.entries] at ht
    split_ifs at ht
    exact ht

/-! ### Tasks that cannot get a pool -/

lemma Quiet.bars (q : m.Quiet m₁) (h : Bars m k) : Bars m₁ k := by
  intro s hs
  rw [q.entries]
  rcases q.get?_or_queued hs with hs | ⟨-, hqueued⟩
  · exact h s hs
  · exact Stage.mayReceive_of_isPlain (Stage.isPlain_of_isQueued hqueued) _

/-- A task whose request was refused has ended. -/
lemma bars_fail (m : Manager) (k : TaskId) (d : Demand) (error : PoolError) :
    Bars (m.fail k d error) k := by
  intro s hs
  cases d <;> simp [fail, finish, report, leave, Assoc.get?_erase] at hs

lemma outcomes_fail (m : Manager) (k : TaskId) (d : Demand) (error : PoolError)
    {outcome : Outcome} (h : (m.fail k d error).outcomes.get? k = some outcome) :
    m.outcomes.get? k = some outcome ∨ outcome.isGrant = false := by
  cases d with
  | warm => exact .inl h
  | get | lease =>
    simp only [fail, finish, Assoc.get?_insert, if_true] at h
    cases h
    exact .inr rfl

lemma refsOf_fail (m : Manager) (k : TaskId) (d : Demand) (error : PoolError) (id : PoolId) :
    (m.fail k d error).refsOf id = m.refsOf id := by
  cases d <;> rfl

/-- A request for a lease is refused: one that comes in, and one that finds that its tenant no
longer has the pool that came first. Any other task that wants a lease still makes a pool. -/
lemma lease_cases (hdown : m.shuttingDown = true) (h : Bars m task)
    (ho : e.origin? m = some (task, o)) :
    (m.step e = m ∨ ∃ m₁ error, m.Quiet m₁ ∧ m.step e = m₁.fail task .lease error) ∨
      ∀ t, o.demand? = some (.lease, t) → o.hasSlot = true := by
  by_cases hlease : ∃ t, o.demand? = some (.lease, t) ∧ o.hasSlot = false
  · obtain ⟨t, hd, hslot⟩ := hlease
    left
    cases Event.Drives.of_origin? ho with
    | call request =>
      cases request with
      | lease t =>
        refine .inr ⟨{ m with nextTask := m.nextTask + 1 }, .closed, ?_, ?_⟩
        · exact ⟨rfl, rfl, rfl, rfl, rfl, rfl, id, Nat.le_succ _, [], by simp⟩
        · simp [step, call, admitRequest, beginLease, hdown]
      | _ => cases hd
    | @resume _ s a hs =>
      rw [step_resume hs]
      cases s with
      | yielding d tenant connections winner =>
        cases hd
        have hlost : m.entries.get? t ≠ some winner := by
          simpa [Stage.mayReceive] using h _ hs
        cases a with
        | closed =>
          refine .inr ⟨_, .closed,
            (Quiet.closeConnections m (m.ledger.close connections) m.closures).trans
              (.touch _ winner m.now), ?_⟩
          simp [answer, afterYielding, deliver, beginLease, holds, modifyPool, hlost, hdown]
        | _ => exact .inl rfl
      | lookingUp | opening | pinging | rejecting => cases hslot
      | _ => cases hd
  · right
    intro t hd
    by_contra hslot
    exact hlease ⟨t, hd, by simpa using hslot⟩

section Moves

variable (h : Move m task o m') (hdown : m.shuttingDown = true)
  (ho : ∀ s, o = .stage s → s.mayReceive m.entries = false)
  (hlease : ∀ t, o.demand? = some (.lease, t) → o.hasSlot = true)
include h hdown

include ho in
/-- A task that cannot get a pool does not come to wait for one. -/
lemma Move.stage_of_shutDown {s : Stage} (hs : m'.tasks.get? task = some s) :
    s.mayReceive m'.entries = false ∨ m.tasks.get? task = some s := by
  have hended : ∀ {tasks : Assoc TaskId Stage}, (tasks.erase task).get? task ≠ some s := by
    simp [Assoc.get?_erase]
  have hwaits : ∀ {tasks : Assoc TaskId Stage} {s' : Stage},
      (tasks.insert task s').get? task = some s → s' = s := by
    intro tasks s' hs
    simpa [Assoc.get?_insert] using hs
  cases h with
  | stay => exact .inr hs
  | @wait m₁ s' q hl =>
    obtain rfl := hwaits hs
    refine .inl ?_
    change s'.mayReceive m₁.entries = false
    rw [q.entries]
    cases hl with
    | opening | pinging =>
      have hlate := ho _ rfl
      simpa [Stage.mayReceive] using hlate
    | rejecting => rfl
    | plain _ hplain => exact Stage.mayReceive_of_isPlain hplain _
  | leave | report | finish | hand | lend => exact absurd hs hended
  | @giveUp m₁ d t error => exact .inl (bars_fail m₁.giveSlot task d error s hs)
  | reserve q _ _ hopen _ _ | enter q _ _ hopen =>
    rw [q.shuttingDown hdown] at hopen
    cases hopen
  | @yield m₁ d t record connections deadline winner q hat hsome =>
    obtain rfl := hwaits hs
    have hlate := ho _ hat
    rw [q.entries] at hsome
    cases d <;> simp_all [Stage.mayReceive, Demand.parent?]
  | withdraw | close =>
    obtain rfl := hwaits hs
    exact .inl rfl

include ho hlease

lemma Move.outcome_of_shutDown {outcome : Outcome}
    (hout : m'.outcomes.get? task = some outcome) :
    m.outcomes.get? task = some outcome ∨ outcome.isGrant = false := by
  cases h with
  | stay => exact .inl hout
  | wait q _ | leave q _ | report q _ | yield q _ _ | withdraw q _ _ _ | close q _ _ _ =>
    exact .inl (q.outcomes ▸ hout)
  | finish q _ hgrant =>
    simp only [Manager.finish, Assoc.get?_insert, if_true] at hout
    cases hout
    exact .inr hgrant
  | @giveUp m₁ d t error q _ _ =>
    exact q.outcomes ▸ outcomes_fail m₁.giveSlot task d error hout
  | reserve q _ _ hopen _ _ | enter q _ _ hopen =>
    rw [q.shuttingDown hdown] at hopen
    cases hopen
  | hand q _ _ h =>
    rcases h with ⟨hopen, -⟩ | ⟨connections, rfl⟩
    · rw [q.shuttingDown hdown] at hopen
      cases hopen
    · cases ho _ rfl
  | lend q hslot hd _ =>
    rw [hlease _ hd] at hslot
    cases hslot

omit ho in
lemma Move.refsOf_of_shutDown (id : PoolId) : m'.refsOf id = m.refsOf id := by
  cases h with
  | stay => rfl
  | wait q _ | leave q _ | report q _ | finish q _ _ | yield q _ _ | hand q _ _ _ =>
    exact q.refsOf_eq id
  | @giveUp m₁ d t error q _ _ =>
    exact (refsOf_fail m₁.giveSlot task d error id).trans (q.refsOf_eq id)
  | reserve q _ _ hopen _ _ | enter q _ _ hopen =>
    rw [q.shuttingDown hdown] at hopen
    cases hopen
  | lend q hslot hd _ =>
    rw [hlease _ hd] at hslot
    cases hslot
  | withdraw q _ _ _ => rw [refsOf_beginClose, refsOf_enroll, q.refsOf_eq]
  | close q _ _ _ => rw [refsOf_beginClose, q.refsOf_eq]

end Moves

/-- No event brings a task that cannot get a pool nearer to one. -/
lemma Bars.step (hf : m.Fresh) (hdown : m.shuttingDown = true) (h : Bars m k) (e : Event) :
    Bars (m.step e) k ∧ ∀ outcome, (m.step e).outcomes.get? k = some outcome →
      m.outcomes.get? k = some outcome ∨ outcome.isGrant = false := by
  have hturn := Turn.of_step hf e
  generalize hm' : m.step e = m' at hturn ⊢
  cases hturn with
  | aside _ q => exact ⟨q.bars h, fun outcome hout => .inl (q.outcomes ▸ hout)⟩
  | acquire | release | drop => exact ⟨h, fun _ => .inl⟩
  | cancel =>
    refine ⟨fun s hs => h s ?_, fun _ => .inl⟩
    simp only [Assoc.get?_filter] at hs
    exact Option.eq_some_of_filter_eq_some hs
  | @act _ m₀ task o _ ho q hlt hat hm =>
    have h₀ : Bars m₀ k := q.bars h
    have hdown₀ := q.shuttingDown hdown
    by_cases hk : k = task
    · subst hk
      rcases lease_cases hdown h ho with (heq | ⟨m₁, error, q₁, heq⟩) | hlease
      · rw [heq] at hm'
        exact hm' ▸ ⟨h, fun _ => .inl⟩
      · rw [heq] at hm'
        rw [← hm', ← q₁.outcomes]
        exact ⟨bars_fail m₁ k .lease error, fun outcome => outcomes_fail m₁ k .lease error⟩
      · have horigin : ∀ s, o = .stage s → s.mayReceive m₀.entries = false := by
          rintro s rfl
          exact h₀ s hat
        refine ⟨fun s hs => ?_, fun outcome hout =>
          q.outcomes ▸ hm.outcome_of_shutDown hdown₀ horigin hlease hout⟩
        rcases hm.stage_of_shutDown hdown₀ horigin hs with hs | hs
        · exact hs
        · by_contra hreceive
          have hreceive := Stage.mayReceive_mono
            (fun t id => hm.entries_of_shutDown hdown₀) (by simpa using hreceive)
          rw [h₀ s hs] at hreceive
          cases hreceive
    · refine ⟨fun s hs => ?_, fun outcome hout => .inl ?_⟩
      · by_contra hreceive
        have hreceive := Stage.mayReceive_mono
          (fun t id => hm.entries_of_shutDown hdown₀) (by simpa using hreceive)
        rcases hm.get?_cases hs with hs | hqueued | ⟨heq, -⟩
        · rw [h₀ s hs] at hreceive
          cases hreceive
        · rw [Stage.mayReceive_of_isPlain (Stage.isPlain_of_isQueued hqueued)] at hreceive
          cases hreceive
        · exact hk heq
      · rwa [hm.outcomes_other hk, q.outcomes] at hout

lemma Bars.run (hf : m.Fresh) (hdown : m.shuttingDown = true) (h : Bars m k)
    (events : List Event) :
    Bars (m.run events) k ∧ ∀ outcome, (m.run events).outcomes.get? k = some outcome →
      m.outcomes.get? k = some outcome ∨ outcome.isGrant = false := by
  induction events generalizing m with
  | nil => exact ⟨h, fun _ => .inl⟩
  | cons e rest ih =>
    obtain ⟨hbars, houtcome⟩ := h.step hf hdown e
    obtain ⟨hbars', houtcome'⟩ := ih (hf.step e) ((Turn.of_step hf e).shuttingDown hdown) hbars
    refine ⟨hbars', fun outcome hout => ?_⟩
    rcases houtcome' outcome hout with hout | hgrant
    · exact houtcome outcome hout
    · exact .inr hgrant

lemma shuttingDown_run (hf : m.Fresh) (hdown : m.shuttingDown = true) (events : List Event) :
    (m.run events).shuttingDown = true :=
  run_induction (I := fun m => m.shuttingDown = true) (A := fun _ => True)
    (fun ht _ hdown _ => ht.shuttingDown hdown) hf hdown fun _ _ => trivial

/-- If no task can get a pool, only clients take references. -/
lemma refsOf_step_le (hf : m.Fresh) (hdown : m.shuttingDown = true) (h : ∀ k, Bars m k)
    (hown : e.isOwn = false) (id : PoolId) : (m.step e).refsOf id ≤ m.refsOf id := by
  have hturn := Turn.of_step hf e
  generalize hm' : m.step e = m' at hturn ⊢
  cases hturn with
  | aside _ q => exact (q.refsOf_eq id).le
  | acquire | release => cases hown
  | @drop lease pool _ => exact (refsOf_release m pool id m.now).trans_le (Nat.sub_le _ _)
  | cancel => exact le_rfl
  | @act _ m₀ task o _ ho q _ hat hm =>
    rw [← q.refsOf_eq]
    rcases lease_cases hdown (h task) ho with (heq | ⟨m₁, error, q₁, heq⟩) | hlease
    · rw [← hm', heq, q.refsOf_eq]
    · rw [← hm', heq, refsOf_fail, q.refsOf_eq, q₁.refsOf_eq]
    · exact (hm.refsOf_of_shutDown (q.shuttingDown hdown) hlease id).le

/-! ### Tasks that have not ended -/

/-- A task that waits has no outcome yet. -/
def Pending (m : Manager) : Prop :=
  ∀ k s, m.tasks.get? k = some s → m.outcomes.get? k = none

/-- A task that goes on waiting notes no outcome. -/
lemma Move.outcomes_self (h : Move m task o m') {s : Stage} (hs : m'.tasks.get? task = some s) :
    m'.outcomes.get? task = m.outcomes.get? task := by
  have hended : ∀ {tasks : Assoc TaskId Stage}, (tasks.erase task).get? task ≠ some s := by
    simp [Assoc.get?_erase]
  cases h with
  | stay => rfl
  | wait q _ | reserve q _ _ _ _ _ | yield q _ _ | withdraw q _ _ _ | close q _ _ _ =>
    exact congrArg (·.get? task) q.outcomes
  | leave | report | finish | hand | lend => exact absurd hs hended
  | @giveUp _ d => cases d <;> exact absurd hs hended
  | @enter _ d =>
    rw [deliver_enroll] at hs
    cases d <;> exact absurd hs hended

lemma Turn.pending (h : Turn m e m') (ha : m.Answered) (hp : m.Pending) :
    m'.Pending := by
  intro k s hs
  have hlate : ∀ k, m.nextTask ≤ k → m.outcomes.get? k = none := by
    intro k hle
    by_contra hne
    obtain ⟨outcome, hout⟩ := Option.ne_none_iff_exists'.1 hne
    exact absurd (ha k outcome hout) (not_lt.2 hle)
  have hquiet : ∀ {m₁ : Manager} {s : Stage}, m.Quiet m₁ → m₁.tasks.get? k = some s →
      m.outcomes.get? k = none := by
    intro m₁ s q hs
    rcases q.get?_or_queued hs with hs | ⟨hle, -⟩
    · exact hp k s hs
    · exact hlate k hle
  cases h with
  | @act _ m₀ task o _ ho q hlt hat hm =>
    by_cases hk : k = task
    · subst hk
      rw [hm.outcomes_self hs, q.outcomes]
      cases o with
      | call request =>
        cases Event.Drives.of_origin? ho
        exact hlate _ le_rfl
      | stage s => exact hquiet q hat
    · rw [hm.outcomes_other hk, q.outcomes]
      rcases Nat.lt_or_ge k m₀.nextTask with hlt' | hle
      · rw [hm.get?_other hk hlt'] at hs
        exact hquiet q hs
      · exact hlate k (q.nextTask.trans hle)
  | aside _ q => exact q.outcomes ▸ hquiet q hs
  | acquire | release | drop => exact hp k s hs
  | cancel =>
    simp only [Assoc.get?_filter] at hs
    exact hp k s (Option.eq_some_of_filter_eq_some hs)

lemma pending_run (c : Config) (events : List Event) : ((new c).run events).Pending := by
  have h : ((new c).run events).Answered ∧ ((new c).run events).Pending := by
    refine run_induction (I := fun m => m.Answered ∧ m.Pending) (A := fun _ => True)
      (fun ht _ hm _ => ⟨ht.answered hm.1, ht.pending hm.1 hm.2⟩) (fresh_new c)
      ⟨answered_new c, fun _ _ hs => ?_⟩ fun _ _ => trivial
    cases hs
  exact h.2

/-! ### Pools that are given all the same -/

/-- Whether a task can get a pool: if all goes well from now on it does. -/
def Grants (m : Manager) (k : TaskId) : Prop :=
  ∃ events outcome, (m.run events).outcomes.get? k = some outcome ∧ outcome.isGrant = true

lemma Grants.of_step (e : Event) (h : Grants (m.step e) k) : Grants m k := by
  obtain ⟨events, h⟩ := h
  exact ⟨e :: events, h⟩

lemma grants_of_yielding {d : Demand} {t : TenantId} {connections : ConnectionsId}
    {winner : PoolId} (hk : m.tasks.get? k = some (.yielding d t connections winner))
    (h : (Stage.yielding d t connections winner).mayReceive m.entries = true) : Grants m k := by
  apply Grants.of_step (.resume k .closed)
  rw [step_resume hk]
  cases d with
  | warm => cases h
  | get =>
    refine ⟨[], .pool winner, ?_, rfl⟩
    simp [run, answer, afterYielding, deliver, finish, Assoc.get?_insert]
  | lease =>
    have hwinner : m.entries.get? t = some winner := of_decide_eq_true h
    refine ⟨[], .leased winner, ?_, rfl⟩
    simp [run, answer, afterYielding, deliver, holds, modifyPool, hwinner, lend, finish,
      Assoc.get?_insert]

lemma grants_of_pinging {d : Demand} {t : TenantId} {record : Tenant}
    {connections : ConnectionsId} {deadline : Nat}
    (hk : m.tasks.get? k = some (.pinging d t record connections deadline))
    (hd : d.parent?.isNone = true) (ht : (m.entries.get? t).isSome = true) : Grants m k := by
  obtain ⟨winner, hwinner⟩ := Option.isSome_iff_exists.1 ht
  apply Grants.of_step (.resume k (.pinged (.ok ())))
  have hm' : m.step (.resume k (.pinged (.ok ()))) =
      m.giveSlot.await k (.yielding d t connections winner) := by
    rw [step_resume hk]
    simp [answer, afterFirstPing, Manager.enter, hwinner]
  rw [hm']
  refine grants_of_yielding (get?_await m.giveSlot k (.yielding d t connections winner)) ?_
  cases d with
  | warm => cases hd
  | get => rfl
  | lease => exact decide_eq_true hwinner

lemma grants_of_opening {d : Demand} {t : TenantId} {record : Tenant} {deadline : Nat}
    (hk : m.tasks.get? k = some (.opening d t record deadline))
    (hd : d.parent?.isNone = true) (ht : (m.entries.get? t).isSome = true) : Grants m k := by
  apply Grants.of_step (.resume k (.opened (.ok ("", 0))))
  rw [step_resume hk]
  exact grants_of_pinging (get?_await { m with ledger := m.ledger.open "" 0 } k
    (.pinging d t record m.ledger.next m.connectDeadline)) hd ht

/-- A task that makes a pool for a tenant who has one can be given that one. -/
lemma grants_of_mayReceive {s : Stage} (hk : m.tasks.get? k = some s)
    (h : s.mayReceive m.entries = true) : Grants m k := by
  cases s with
  | yielding d t connections winner => exact grants_of_yielding hk h
  | pinging d t record connections deadline =>
    simp only [Stage.mayReceive, Bool.and_eq_true] at h
    exact grants_of_pinging hk h.1 h.2
  | opening d t record deadline =>
    simp only [Stage.mayReceive, Bool.and_eq_true] at h
    exact grants_of_opening hk h.1 h.2
  | lookingUp d t =>
    simp only [Stage.mayReceive, Bool.and_eq_true] at h
    apply Grants.of_step (.resume k (.tenant (.ok acme)))
    have hm' : m.step (.resume k (.tenant (.ok acme))) =
        m.await k (.opening d t acme m.connectDeadline) := by
      rw [step_resume hk]
      rfl
    rw [hm']
    exact grants_of_opening (get?_await m k (.opening d t acme m.connectDeadline)) h.1 h.2
  | _ => cases h

/-! ### Every run -/

/-- If the manager is shut down, a request that has not ended gets no pool whatever happens exactly
if its task does not make a pool for a tenant who has one, and the manager gives out no more pools
and takes no more references exactly if this holds of all tasks. -/
theorem sealed_iff_none_mayReceive (c : Config) (events : List Event)
    (hdown : ((new c).run events).shuttingDown = true) :
    let m := (new c).run events
    (∀ k, m.outcomes.get? k = none →
      (Denied m k ↔ ∀ s, m.tasks.get? k = some s → s.mayReceive m.entries = false)) ∧
    (Sealed m ↔ ∀ k s, m.tasks.get? k = some s → s.mayReceive m.entries = false) := by
  intro m
  have hf : m.Fresh := (fresh_new c).run events
  have hp : m.Pending := pending_run c events
  have hdenied : ∀ k, m.outcomes.get? k = none → (Denied m k ↔ Bars m k) := by
    intro k hk
    constructor
    · intro h s hs
      by_contra hreceive
      obtain ⟨next, outcome, hout, hgrant⟩ := grants_of_mayReceive hs (by simpa using hreceive)
      rw [h next outcome hout] at hgrant
      cases hgrant
    · intro h next outcome hout
      rcases (h.run hf hdown next).2 outcome hout with hout | hgrant
      · rw [hk] at hout
        cases hout
      · exact hgrant
  refine ⟨hdenied, ?_, ?_⟩
  · intro h k s hs
    exact (hdenied k (hp k s hs)).1 (h.1 k (hp k s hs)) s hs
  · intro h
    have hbars : ∀ k, Bars m k := h
    refine ⟨fun k hk => (hdenied k hk).2 (hbars k), fun past e id hown => ?_⟩
    exact refsOf_step_le (hf.run past) (shuttingDown_run hf hdown past)
      (fun k => ((hbars k).run hf hdown past).1) hown id

/-- A request whose connections are being opened when the manager is shut down. -/
def closedWhileOpening : List Event :=
  [.call (.get "acme"), .resume 0 (.tenant (.ok acme)), .call .close]

/-- The tenant has no pool, so that the request gets none either. -/
theorem sealed_closedWhileOpening :
    let m := (new (.new "app" "secret")).run closedWhileOpening
    m.shuttingDown = true ∧ Sealed m := by
  intro m
  have hdown : m.shuttingDown = true := rfl
  have hsealed := sealed_iff_none_mayReceive (.new "app" "secret") closedWhileOpening hdown
  refine ⟨hdown, hsealed.2.2 fun k s hs => ?_⟩
  have hall : ∀ e ∈ m.tasks.toList, e.2.mayReceive m.entries = false := by decide
  exact hall _ (Assoc.get?_eq_some_iff.1 hs)

/-- Two requests for leases of one tenant's pool. The first one has made the pool, and the second
one still opens connections when the manager is to be drained. -/
def drainedWhileOpening : List Event :=
  [.call (.lease "acme"), .call (.lease "acme"), .resume 1 (.tenant (.ok acme))] ++ acmeOpens 0 ++
    [.call (.drain (.ofSeconds 1))]

/-- The second request gets its lease, and with it a further reference, from a manager that is shut
down. -/
theorem not_sealed_drainedWhileOpening :
    let m := (new (.new "app" "secret")).run drainedWhileOpening
    let late := m.run [.resume 1 (.opened (.ok ("acme_db", 2))), .resume 1 (.pinged (.ok ())),
      .resume 1 .closed]
    m.shuttingDown = true ∧ ¬ Sealed m ∧ m.outcomes.get? 1 = none ∧
      late.outcomes.get? 1 = some (.leased 0) ∧ m.refsOf 0 = 1 ∧ late.refsOf 0 = 2 := by
  refine ⟨rfl, fun h => ?_, by decide⟩
  have hgrant := h.1 1 (by decide)
    [.resume 1 (.opened (.ok ("acme_db", 2))), .resume 1 (.pinged (.ok ())), .resume 1 .closed]
    (.leased 0) (by decide)
  cases hgrant

end Tenancy.Manager
