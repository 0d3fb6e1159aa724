import Tenancy.Proofs.Manager.Errand
import Tenancy.Proofs.Manager.LivePool

/-!
# Requests for one pool that come in at once

Requests for the pool of one tenant that come in while it has none make a pool each. The first one
that is entered serves them all, and the others are closed. `creation_converges` says so of every
run in which only requests for pools are carried out, as long as the tenant is active and its
connections are opened and answer the first ping.
-/

namespace Tenancy.Manager

/-! ### What happens to connections -/

/-- The connections that an event opens for a tenant. -/
def Event.opens? (m : Manager) (t : TenantId) : Event → Option ConnectionsId
  | .resume k (.opened (.ok _)) =>
    match m.tasks.get? k with
    | some (.opening _ tenant _ _) => if tenant = t then some m.ledger.next else none
    | _ => none
  | _ => none

/-- The connections that were opened for a tenant. -/
def openedFor (m : Manager) (t : TenantId) : List Event → List ConnectionsId
  | [] => []
  | e :: events => (e.opens? m t).toList ++ (m.step e).openedFor t events

/-- Connections are closed, or belong to a task that makes a pool for the tenant, or to the pool of
the tenant. -/
inductive Tracked (m : Manager) (t : TenantId) (c : ConnectionsId) : Prop
  | closed (h : m.ledger.isClosed c = true)
  | held {k s d} (hs : m.tasks.get? k = some s) (hd : s.demand? = some (d, t))
      (hc : s.connections? m.connectionsOf = some c)
  | pooled {id} (ht : m.entries.get? t = some id) (hc : m.connectionsOf id = some c)

variable {m m₀ m' start : Manager} {k : TaskId} {o : Origin} {e : Event} {s : Stage} {d : Demand}
  {t t' : TenantId} {id : PoolId} {c : ConnectionsId} {events : List Event}

lemma openedFor_append (m : Manager) (t : TenantId) (past next : List Event) :
    m.openedFor t (past ++ next) = m.openedFor t past ++ (m.run past).openedFor t next := by
  induction past generalizing m with
  | nil => rfl
  | cons e rest ih =>
    rw [List.cons_append, openedFor, openedFor, ih, run_cons, List.append_assoc]

namespace Errand

lemma ledger_grant (m : Manager) (k : TaskId) (id : PoolId) (d : Demand) :
    (m.grant k id d).ledger = m.ledger := by
  cases d <;> rfl

lemma ledger_cases (h : Errand t m k o m') :
    m'.ledger = m.ledger ∨ (∃ database size, m'.ledger = m.ledger.open database size) ∨
      ∃ c, m'.ledger = m.ledger.close c := by
  have hbegins : ∀ {o d t' m₁}, Begins m o d t' m₁ →
      m₁.ledger = m.ledger ∨ ∃ c, m₁.ledger = m.ledger.close c := by
    intro o d t' m₁ b
    cases b with
    | call _ _ hl => exact .inl hl
    | late _ hl => exact .inr ⟨_, hl⟩
  cases h with
  | stay | leave | look | yield | reject => exact .inl rfl
  | connect database size => exact .inr (.inl ⟨database, size, rfl⟩)
  | refuse b _ _ =>
    rw [ledger_fail]
    exact (hbegins b).imp_right .inr
  | reserve b _ _ => exact (hbegins b).imp_right .inr
  | serve b _ =>
    rw [ledger_grant]
    exact (hbegins b).imp_right .inr
  | enter => exact .inl (ledger_grant _ _ _ _)
  | giveUp _ _ hl _ =>
    rw [ledger_giveUp]
    exact hl.imp_right .inr

/-- Connections that are closed stay so. -/
lemma isClosed (h : Errand t m k o m') (hlt : c < m.ledger.all.length)
    (hc : m.ledger.isClosed c = true) : m'.ledger.isClosed c = true := by
  rcases h.ledger_cases with heq | ⟨database, size, heq⟩ | ⟨c', heq⟩
  · rw [heq, hc]
  · have hne : c ≠ m.ledger.next := hlt.ne
    rw [heq, Ledger.isClosed_open, if_neg hne, hc]
  · rw [heq, Ledger.isClosed_close, hc, Bool.true_or]

lemma length_ledger_le (h : Errand t m k o m') : m.ledger.all.length ≤ m'.ledger.all.length := by
  rcases h.ledger_cases with heq | ⟨database, size, heq⟩ | ⟨c', heq⟩
  · rw [heq]
  · rw [heq, Ledger.open, List.length_append]
    exact Nat.le_add_right _ _
  · rw [heq, Ledger.length_close]

/-- Pools keep their connections. -/
lemma connectionsOf_kept (h : Errand t m k o m') (hc : m.connectionsOf id = some c) :
    m'.connectionsOf id = some c := by
  cases h with
  | stay | leave | look | connect | yield | reject => exact hc
  | @refuse _ d _ m₁ b _ _ =>
    rw [← b.aside.connectionsOf] at hc
    cases d <;> exact hc
  | reserve b _ _ =>
    rw [← b.aside.connectionsOf] at hc
    exact hc
  | serve b _ => rw [connectionsOf_grant, b.aside.connectionsOf, hc]
  | enter =>
    have hlt : id < m.pools.length := by
      by_contra hle
      simp [connectionsOf, List.getElem?_eq_none (not_lt.1 hle)] at hc
    rw [connectionsOf_grant, connectionsOf_enroll_of_lt hlt, hc]
  | @giveUp _ d _ m₁ _ _ a _ _ =>
    rw [← a.connectionsOf] at hc
    cases d <;> exact hc

/-- A task of the tenant keeps its connections, or gives them to the pool that it enters, or has
them closed. -/
lemma tracked_self (h : Errand t m k (.stage s) m') (hs : m.tasks.get? k = some s)
    (hd : s.demand? = some (d, t)) (hc : s.connections? m.connectionsOf = some c) :
    Tracked m' t c := by
  cases h with
  | stay => exact .held hs hd hc
  | leave => cases hd
  | refuse b _ _ =>
    cases b with
    | late _ hl =>
      cases hc
      exact .closed (by rw [ledger_fail, hl, Ledger.isClosed_close]; simp)
  | reserve b _ _ =>
    cases b with
    | late _ hl =>
      cases hc
      exact .closed (by rw [ledger_await, ledger_takeSlot, hl, Ledger.isClosed_close]; simp)
  | serve b _ =>
    cases b with
    | late _ hl =>
      cases hc
      exact .closed (by rw [ledger_grant, hl, Ledger.isClosed_close]; simp)
  | look | connect => cases hc
  | @enter _ _ record _ _ hnone =>
    cases hd
    cases hc
    have hentry : ((m.enroll t record c).grant k m.pools.length d).entries.get? t =
        some m.pools.length := by
      simp [entries_grant, enroll, Assoc.get?_insert]
    refine .pooled hentry ?_
    rw [connectionsOf_grant, connectionsOf_enroll_length]
  | yield =>
    cases hd
    cases hc
    exact .held (get?_await _ k _) rfl rfl
  | reject _ ht =>
    cases hd
    exact absurd rfl ht
  | giveUp hs' _ _ ht =>
    rw [hs'] at hd
    cases hd
    exact absurd rfl ht

lemma tracked (h : Errand t m k o m') (hat : o.At m k) (hlt : c < m.ledger.all.length)
    (hc : Tracked m t c) : Tracked m' t c := by
  cases hc with
  | closed hclosed => exact .closed (h.isClosed hlt hclosed)
  | pooled ht hc => exact .pooled (h.entries_kept ht) (h.connectionsOf_kept hc)
  | @held i s d hs hd hc =>
    by_cases hi : i = k
    · subst hi
      cases o with
      | call => exact absurd (hat.symm.trans hs) (by simp)
      | stage s' =>
        cases hat.symm.trans hs
        exact h.tracked_self hs hd hc
    · refine .held ((h.get?_other hi).trans hs) hd ?_
      cases s with
      | pinging | rejecting | yielding => exact hc
      | _ => simp_all [Stage.demand?, Stage.connections?]

/-! ### How requests end -/

lemma pool?_of_grant (hp : d.parent? = none) {outcome : Outcome}
    (h : (m.grant k id d).outcomes.get? k = some outcome) : outcome.pool? = some id := by
  cases d with
  | get | lease =>
    simp only [grant, lend, Manager.finish, Assoc.get?_insert, if_true] at h
    cases h
    rfl
  | warm => cases hp

lemma eq_of_fail (hp : d.parent? = none) {error : PoolError} {outcome : Outcome}
    (h : (m.fail k d error).outcomes.get? k = some outcome) : outcome = .failed error := by
  cases d with
  | get | lease =>
    simp only [fail, Manager.finish, Assoc.get?_insert, if_true, Option.some.injEq] at h
    exact h.symm
  | warm => cases hp

/-- A request for the pool of the tenant gets the one in use, or comes in when there is none and no
slot is left. -/
lemma outcome_cases (h : Errand t m k o m') (hd : o.demand? = some (d, t))
    (hp : d.parent? = none) (hnone : m.outcomes.get? k = none)
    (hlate : ∀ d c winner, o = .stage (.yielding d t c winner) →
      m.entries.get? t = some winner)
    {outcome : Outcome} (hout : m'.outcomes.get? k = some outcome) :
    (∃ id, outcome.pool? = some id ∧ m'.entries.get? t = some id) ∨
      outcome = .failed (.limitReached m.config.maxPools) ∧ m.entries.get? t = none ∧
        m.isFull = true ∧ ∃ r, o = .call r := by
  have hsame : ∀ {outcomes : Assoc TaskId Outcome}, outcomes = m.outcomes →
      outcomes.get? k ≠ some outcome := by
    rintro _ rfl
    rw [hnone]
    exact nofun
  cases h with
  | stay | leave | look | connect | yield | reject => exact absurd hout (hsame rfl)
  | reserve b _ _ => exact absurd hout (hsame b.aside.outcomes)
  | refuse b hentry hfull =>
    cases hd.symm.trans b.demand
    refine .inr ⟨eq_of_fail hp hout, hentry, hfull, ?_⟩
    cases b with
    | call => exact ⟨_, rfl⟩
    | @late _ _ c winner =>
      rw [hlate d c winner rfl] at hentry
      cases hentry
  | @serve _ _ _ m₁ id b h =>
    cases hd.symm.trans b.demand
    refine .inl ⟨id, pool?_of_grant hp hout, ?_⟩
    rw [entries_grant, b.aside.entries, h rfl]
  | enter =>
    cases hd
    exact .inl ⟨_, pool?_of_grant hp hout, by simp [entries_grant, enroll, Assoc.get?_insert]⟩
  | giveUp hs _ _ ht =>
    cases hd.symm.trans hs
    exact absurd rfl ht

end Errand

/-! ### All requests for one pool -/

/-- A request for the pool of a tenant was turned away when it came in: there was none, and all
slots that the limit allows were taken. -/
def TurnedAway (start : Manager) (limit : Nat) (t : TenantId) (events : List Event) (k : TaskId)
    (r : Request) : Prop :=
  ∃ before after, events = before ++ .call r :: after ∧ (start.run before).nextTask = k ∧
    (start.run before).entries.get? t = none ∧ 0 < limit ∧ (limit : Int) ≤ (start.run before).slots

/-- What becomes of the requests for the pool of one tenant, and of the connections that are opened
for it: the tasks that want the pool are those of the requests, and every request that has ended got
the pool that is in use, or was turned away. -/
structure Converging (start : Manager) (t : TenantId) (events : List Event) : Prop where
  calm : Calm t (start.run events)
  config : (start.run events).config = start.config
  started : ∀ {k r}, (k, r) ∈ start.requests events → k < (start.run events).nextTask
  wanting : ∀ {k s}, (start.run events).tasks.get? k = some s →
    ((∃ d, s.demand? = some (d, t)) ↔
      ∃ r, (k, r) ∈ start.requests events ∧ r.wants t = true)
  answered : ∀ {k r outcome}, (k, r) ∈ start.requests events → r.wants t = true →
    (start.run events).outcomes.get? k = some outcome →
    (∃ id, outcome.pool? = some id ∧ (start.run events).entries.get? t = some id) ∨
      outcome = .failed (.limitReached start.config.maxPools) ∧
      TurnedAway start start.config.maxPools t events k r
  tracked : ∀ c ∈ start.openedFor t events,
    c < (start.run events).ledger.all.length ∧ Tracked (start.run events) t c

lemma TurnedAway.append {limit : Nat} {r : Request} (h : TurnedAway start limit t events k r)
    (more : List Event) : TurnedAway start limit t (events ++ more) k r := by
  obtain ⟨before, after, rfl, hrest⟩ := h
  exact ⟨before, after ++ more, by simp, hrest⟩

/-! ### One more event -/

lemma openedFor_concat (start : Manager) (t : TenantId) (events : List Event) (e : Event) :
    start.openedFor t (events ++ [e]) =
      start.openedFor t events ++ (e.opens? (start.run events) t).toList := by
  rw [openedFor_append, openedFor, openedFor, List.append_nil]

lemma Stage.parent?_of_isCalm (h : s.isCalm t = true) (hd : s.demand? = some (d, t')) :
    d.parent? = none := by
  cases s with
  | lookingUp | opening | pinging | yielding =>
    cases hd
    exact Option.isNone_iff_eq_none.1 h
  | rejecting =>
    cases hd
    exact Option.isNone_iff_eq_none.1 (Bool.and_eq_true_iff.1 h).1
  | _ => cases h <;> cases hd

lemma Request.wants_iff {r : Request} :
    r.wants t = true ↔ ∃ d, (Origin.call r).demand? = some (d, t) := by
  cases r <;> simp [wants, Origin.demand?]

lemma Event.origin?_ne_of_ne {i : TaskId} (ho : e.origin? m = some (k, o)) (hi : i ≠ k)
    (o' : Origin) : e.origin? m ≠ some (i, o') := by
  rw [ho]
  rintro ⟨⟩
  exact hi rfl

/-- A request of another task than the one that the event reaches came in before. -/
lemma mem_requests_of_not_reached {i : TaskId} {r : Request}
    (hi : ∀ o, e.origin? (start.run events) ≠ some (i, o)) :
    (i, r) ∈ start.requests (events ++ [e]) ↔ (i, r) ∈ start.requests events := by
  rw [requests_concat, List.mem_append, Option.mem_toList, or_iff_left]
  exact fun hnew => hi _ (origin?_of_request? hnew)

/-- A task that takes up at a request was started for it. -/
lemma eq_call_of_origin? {r : Request} (h : e.origin? m = some (k, .call r)) :
    e = .call r ∧ k = m.nextTask := by
  cases Event.Drives.of_origin? h
  exact ⟨rfl, rfl⟩

lemma isFull_eq_true_iff : m.isFull = true ↔
    0 < m.config.maxPools ∧ (m.config.maxPools : Int) ≤ m.slots := by
  simp [isFull]

lemma CalmTurn.entries_kept (h : CalmTurn t m e m') {tenant : TenantId}
    (ht : m.entries.get? tenant = some id) : m'.entries.get? tenant = some id := by
  cases h with
  | beside _ a _ => rw [a.entries, ht]
  | act _ a _ _ herrand => exact herrand.entries_kept (a.entries ▸ ht)

lemma CalmTurn.config_eq (h : CalmTurn t m e m') : m'.config = m.config := by
  cases h with
  | beside _ a _ => exact a.config
  | act _ a _ _ herrand => exact herrand.frame.1.trans a.config

lemma Tracked.aside (a : m.Aside m') (hl : m'.ledger = m.ledger) (h : Tracked m t c) :
    Tracked m' t c := by
  cases h with
  | closed h => exact .closed (hl ▸ h)
  | held hs hd hc => exact .held (a.tasks ▸ hs) hd (a.connectionsOf ▸ hc)
  | pooled ht hc => exact .pooled (a.entries ▸ ht) (a.connectionsOf ▸ hc)

lemma CalmTurn.tracked (h : CalmTurn t m e m') (hlt : c < m.ledger.all.length)
    (hc : Tracked m t c) : c < m'.ledger.all.length ∧ Tracked m' t c := by
  cases h with
  | beside _ a hl => exact ⟨hl ▸ hlt, hc.aside a hl⟩
  | act _ a hl hat herrand =>
    rw [← hl] at hlt
    exact ⟨hlt.trans_le herrand.length_ledger_le, herrand.tracked hat hlt (hc.aside a hl)⟩

/-- What an event opens for the tenant is held by the task that opened it. -/
lemma tracked_of_opens? (h : e.opens? m t = some c) :
    c < (m.step e).ledger.all.length ∧ Tracked (m.step e) t c := by
  unfold Event.opens? at h
  split at h
  next k opened =>
    split at h
    next d tenant record deadline hs =>
      split_ifs at h with heq
      cases h
      subst heq
      rw [step_resume hs]
      refine ⟨?_, .held (get?_await _ k _) rfl rfl⟩
      simp [answer, afterOpening, Ledger.open, Ledger.next]
    next => cases h
  next => cases h

namespace Converging

/-- Nobody asks for the pool of the tenant at first. -/
lemma nil (hcalm : Calm t start)
    (hnone : ∀ k s d, start.tasks.get? k = some s → s.demand? ≠ some (d, t)) :
    Converging start t [] := by
  refine ⟨hcalm, rfl, nofun, fun hs => ⟨?_, nofun⟩, nofun, nofun⟩
  rintro ⟨d, hd⟩
  exact absurd hd (hnone _ _ d hs)

variable (h : Converging start t events)
include h

/-- A task takes up where it gets the pool of the tenant if it does so for a request. -/
lemma origin_iff (ho : e.origin? (start.run events) = some (k, o)) :
    (∃ d, o.demand? = some (d, t)) ↔
      ∃ r, (k, r) ∈ start.requests (events ++ [e]) ∧ r.wants t = true := by
  rw [requests_concat]
  cases Event.Drives.of_origin? ho with
  | call r =>
    constructor
    · exact fun hd => ⟨r, by simp [Event.request?], Request.wants_iff.2 hd⟩
    · rintro ⟨r', hlog, hw⟩
      rcases List.mem_append.1 hlog with hold | hnew
      · exact absurd (h.started hold) (lt_irrefl _)
      · cases List.mem_singleton.1 hnew
        exact Request.wants_iff.1 hw
  | resume a hs =>
    simp only [Event.request?, Option.toList_none, List.append_nil]
    exact h.wanting hs

lemma demand_parent? (ho : e.origin? (start.run events) = some (k, o))
    (hd : o.demand? = some (d, t)) : d.parent? = none := by
  cases Event.Drives.of_origin? ho with
  | call r =>
    cases r with
    | get | lease =>
      cases hd
      rfl
    | _ => cases hd
  | resume a hs => exact Stage.parent?_of_isCalm (h.calm.tasks k _ hs) hd

lemma started_step (hf : (start.run events).Fresh) {r : Request}
    (hlog : (k, r) ∈ start.requests (events ++ [e])) :
    k < ((start.run events).step e).nextTask := by
  rw [requests_concat, List.mem_append, Option.mem_toList] at hlog
  rcases hlog with hold | hnew
  · exact (h.started hold).trans_le (Turn.of_step hf e).nextTask_le
  · obtain ⟨m₀, -, hlt, -, hm⟩ := Move.of_step hf (origin?_of_request? hnew)
    exact hlt.trans_le hm.nextTask_le

lemma wanting_step (ht : CalmTurn t (start.run events) e m') (hs : m'.tasks.get? k = some s) :
    (∃ d, s.demand? = some (d, t)) ↔
      ∃ r, (k, r) ∈ start.requests (events ++ [e]) ∧ r.wants t = true := by
  have hold : (start.run events).tasks.get? k = some s →
      (∀ o, e.origin? (start.run events) ≠ some (k, o)) →
      ((∃ d, s.demand? = some (d, t)) ↔
        ∃ r, (k, r) ∈ start.requests (events ++ [e]) ∧ r.wants t = true) := by
    intro hs hk
    simp only [mem_requests_of_not_reached hk]
    exact h.wanting hs
  cases ht with
  | beside ho a _ => exact hold (a.tasks ▸ hs) fun o => by simp [ho]
  | @act m₀ i o ho a _ hat herrand =>
    by_cases hi : k = i
    · subst hi
      rw [← h.origin_iff ho]
      rcases herrand.tasks_cases with htasks | htasks | ⟨s', htasks, -, hd, -⟩
      · -- The task has not moved, and so it does not take up at a request.
        rw [htasks] at hs
        cases o with
        | call => exact absurd (hat.symm.trans hs) (by simp)
        | stage s' =>
          cases hat.symm.trans hs
          rfl
      · simp [htasks, Assoc.get?_erase] at hs
      · simp only [htasks, Assoc.get?_insert, if_true, Option.some.injEq] at hs
        rw [← hs, hd]
    · rw [herrand.get?_other hi, a.tasks] at hs
      exact hold hs (Event.origin?_ne_of_ne ho hi)

/-- A request that ends gets the pool in use, or comes in and is turned away. -/
lemma answered_of_reached (hr : Regular (start.run events))
    (ho : e.origin? (start.run events) = some (k, o)) (a : (start.run events).Aside m₀)
    (hat : o.At m₀ k) (herrand : Errand t m₀ k o m') {r : Request} {outcome : Outcome}
    (hlog : (k, r) ∈ start.requests (events ++ [e])) (hw : r.wants t = true)
    (hout : m'.outcomes.get? k = some outcome) :
    (∃ id, outcome.pool? = some id ∧ m'.entries.get? t = some id) ∨
      outcome = .failed (.limitReached start.config.maxPools) ∧
        TurnedAway start start.config.maxPools t (events ++ [e]) k r := by
  obtain ⟨d, hd⟩ := (h.origin_iff ho).2 ⟨r, hlog, hw⟩
  have hnone : m₀.outcomes.get? k = none := by rw [a.outcomes, hr.outcomes_eq_none ho]
  have hlate : ∀ d c winner, o = .stage (.yielding d t c winner) →
      m₀.entries.get? t = some winner := by
    rintro d c winner rfl
    have hs : m₀.tasks.get? k = some (.yielding d t c winner) := hat
    rw [a.tasks] at hs
    rw [a.entries]
    exact h.calm.late k d c winner hs
  rcases herrand.outcome_cases hd (h.demand_parent? ho hd) hnone hlate hout with
    hgot | ⟨hlimit, hentry, hfull, r', rfl⟩
  · exact .inl hgot
  · obtain ⟨rfl, hnext⟩ := eq_call_of_origin? ho
    have heq : r = r' := by
      rw [requests_concat] at hlog
      rcases List.mem_append.1 hlog with hold | hnew
      · exact absurd (h.started hold) (hnext ▸ lt_irrefl _)
      · cases List.mem_singleton.1 hnew
        rfl
    rw [a.isFull_eq, isFull_eq_true_iff, h.config] at hfull
    rw [a.config, h.config] at hlimit
    rw [a.entries] at hentry
    exact .inr ⟨hlimit, events, [], heq ▸ rfl, hnext.symm, hentry, hfull⟩

lemma answered_step (hr : Regular (start.run events)) (ht : CalmTurn t (start.run events) e m')
    {r : Request} {outcome : Outcome} (hlog : (k, r) ∈ start.requests (events ++ [e]))
    (hw : r.wants t = true) (hout : m'.outcomes.get? k = some outcome) :
    (∃ id, outcome.pool? = some id ∧ m'.entries.get? t = some id) ∨
      outcome = .failed (.limitReached start.config.maxPools) ∧
        TurnedAway start start.config.maxPools t (events ++ [e]) k r := by
  have hold : (start.run events).outcomes.get? k = some outcome →
      (∀ o, e.origin? (start.run events) ≠ some (k, o)) →
      (∃ id, outcome.pool? = some id ∧ m'.entries.get? t = some id) ∨
        outcome = .failed (.limitReached start.config.maxPools) ∧
          TurnedAway start start.config.maxPools t (events ++ [e]) k r := by
    intro hout hk
    rcases h.answered ((mem_requests_of_not_reached hk).1 hlog) hw hout with
      ⟨id, hpool, hentry⟩ | ⟨hlimit, haway⟩
    · exact .inl ⟨id, hpool, ht.entries_kept hentry⟩
    · exact .inr ⟨hlimit, haway.append [e]⟩
  cases ht with
  | beside ho a _ => exact hold (a.outcomes ▸ hout) fun o => by simp [ho]
  | @act m₀ i o ho a _ hat herrand =>
    by_cases hi : k = i
    · subst hi
      exact h.answered_of_reached hr ho a hat herrand hlog hw hout
    · rw [herrand.outcomes_other hi, a.outcomes] at hout
      exact hold hout (Event.origin?_ne_of_ne ho hi)

/-- What holds of all requests so far holds after the next event too. -/
theorem step (hr : Regular (start.run events)) (he : e.isCalm (start.run events) t = true) :
    Converging start t (events ++ [e]) := by
  have ht := CalmTurn.of_step hr.fresh h.calm he
  have hrun : start.run (events ++ [e]) = (start.run events).step e := run_append ..
  constructor <;> simp only [hrun]
  · exact h.calm.step hr.fresh he
  · exact ht.config_eq.trans h.config
  · exact fun hlog => h.started_step hr.fresh hlog
  · exact fun hs => h.wanting_step ht hs
  · exact fun hlog hw hout => h.answered_step hr ht hlog hw hout
  · intro c hc
    rw [openedFor_concat, List.mem_append, Option.mem_toList] at hc
    rcases hc with hc | hc
    · exact ht.tracked (h.tracked c hc).1 (h.tracked c hc).2
    · exact tracked_of_opens? hc

end Converging

/-! ### Every run -/

/-- Only requests for pools of other tenants are under way, and loops are asleep. -/
structure Undisturbed (m : Manager) (t : TenantId) : Prop where
  up : m.shuttingDown = false
  tasks : ∀ k s, m.tasks.get? k = some s →
    s.isCalm t = true ∧ ∀ d, s.demand? ≠ some (d, t)

lemma regular_run (c : Config) (events : List Event) : Regular ((new c).run events) :=
  (Regular.new c).run events

lemma calmly_append (m : Manager) (t : TenantId) (past next : List Event) :
    m.calmly t (past ++ next) = (m.calmly t past && (m.run past).calmly t next) := by
  induction past generalizing m with
  | nil => rfl
  | cons e rest ih => simp only [List.cons_append, calmly, ih, run_cons, Bool.and_assoc]

lemma converging_run (c : Config) (past : List Event)
    (hstart : Undisturbed ((new c).run past) t)
    (hcalm : ((new c).run past).calmly t events = true) :
    Converging ((new c).run past) t events := by
  induction events using List.reverseRecOn with
  | nil =>
    refine .nil ⟨hstart.up, fun k s hs => (hstart.tasks k s hs).1, fun k d c winner hs => ?_⟩
      fun k s d hs => (hstart.tasks k s hs).2 d
    exact absurd rfl ((hstart.tasks k _ hs).2 d)
  | append_singleton events e ih =>
    rw [calmly_append, Bool.and_eq_true_iff] at hcalm
    refine (ih hcalm.1).step ?_ (Bool.and_eq_true_iff.1 hcalm.2).1
    rw [← run_append]
    exact regular_run c _

/-- When all requests for the pool of the tenant have ended, all connections that were opened for it
are closed, but those of its pool. -/
lemma Converging.closed_or_pooled (h : Converging start t events)
    (hpending : (start.run events).Pending)
    (hended : ∀ k r, (k, r) ∈ start.requests events → r.wants t = true →
      (start.run events).outcomes.get? k ≠ none)
    (hc : c ∈ start.openedFor t events) : (start.run events).ledger.isClosed c = true ∨
      ∃ id, (start.run events).entries.get? t = some id ∧
        (start.run events).connectionsOf id = some c := by
  obtain ⟨-, htracked⟩ := h.tracked c hc
  cases htracked with
  | closed hclosed => exact .inl hclosed
  | pooled ht hc => exact .inr ⟨_, ht, hc⟩
  | held hs hd _ =>
    obtain ⟨r, hlog, hw⟩ := (h.wanting hs).1 ⟨_, hd⟩
    exact absurd (hpending _ _ hs) (hended _ r hlog hw)

lemma isCancel_of_calmly (hcalm : m.calmly t events = true) :
    ∀ e ∈ events, e.isCancel = false := by
  induction events generalizing m with
  | nil => exact nofun
  | cons e rest ih =>
    obtain ⟨he, hrest⟩ := Bool.and_eq_true_iff.1 hcalm
    intro e' he'
    rcases List.mem_cons.1 he' with rfl | hmem
    · cases e' with
      | cancel => cases he
      | _ => rfl
    · exact ih hrest e' hmem

/-- The connections of pools in use are open. -/
lemma Booked.isClosed_of_entry (hb : m.Booked) (ht : m.entries.get? t = some id)
    (hc : m.connectionsOf id = some c) : m.ledger.isClosed c = false :=
  Ledger.mem_openIds.1 <| hb.held.mem_iff.1 <|
    List.mem_append_left _ (Assoc.mem_collect.2 ⟨t, id, ht, hc⟩)

/-- Requests for the pool of one tenant come in at any times, with requests for other tenants, and
tasks take turns in any order; the tenant is active, and its connections are opened and answer the
first ping. Every request that has ended got the one pool that the tenant has, or failed because it
came in when there was none and all slots were taken. The pool counts the leases that are not given
back, and the clients that took it themselves. When all the requests have ended, the connections
that were opened for the tenant are closed, but those of its pool. These are open if no task was
cancelled before. -/
theorem creation_converges (c : Config) (past events : List Event) (t : TenantId)
    (hstart : Undisturbed ((new c).run past) t)
    (hcalm : ((new c).run past).calmly t events = true) :
    let start := (new c).run past
    let m := start.run events
    (∀ k r outcome, (k, r) ∈ start.requests events → r.wants t = true →
      m.outcomes.get? k = some outcome →
      (∃ id, outcome.pool? = some id ∧ ∀ id', m.Serves t id' ↔ id' = id) ∨
        outcome = .failed (.limitReached c.maxPools) ∧
          TurnedAway start c.maxPools t events k r) ∧
    (Balanced (new c) (past ++ events) → ∀ (id : PoolId) (p : Pool), m.pools[id]? = some p →
      (p.refs : Int) = m.leasesOf id + (new c).ownRefs id (past ++ events)) ∧
    ((∀ k r, (k, r) ∈ start.requests events → r.wants t = true → m.outcomes.get? k ≠ none) →
      ∀ conns ∈ start.openedFor t events, m.ledger.isClosed conns = true ∨
        ∃ id, m.entries.get? t = some id ∧ m.connectionsOf id = some conns) ∧
    ((∀ e ∈ past, e.isCancel = false) → ∀ id conns, m.entries.get? t = some id →
      m.connectionsOf id = some conns → m.ledger.isClosed conns = false) := by
  intro start m
  have hm : m = (new c).run (past ++ events) := (run_append ..).symm
  have h := converging_run c past hstart hcalm
  have hr : Regular m := hm ▸ regular_run c _
  refine ⟨?_, ?_, fun hended conns hc => h.closed_or_pooled hr.pending hended hc, ?_⟩
  · intro k r outcome hlog hw hout
    rcases h.answered hlog hw hout with ⟨id, hpool, hentry⟩ | haway
    · refine .inl ⟨id, hpool, fun id' => ⟨fun hserves => ?_, ?_⟩⟩
      · exact Option.some.inj (hserves.1.symm.trans hentry)
      · rintro rfl
        exact ⟨hentry, hr.mapped.exists_unclosed hentry⟩
    · rw [config_run c past] at haway
      exact .inr haway
  · intro hbalanced id p hp
    have hrefs := (tended_run c hbalanced).refs id
    rw [← hm, refsOf, hp] at hrefs
    exact hrefs
  · intro hpast id conns hentry hconns
    have hcancel : ∀ e ∈ past ++ events, e.isCancel = false := by
      intro e he
      rcases List.mem_append.1 he with he | he
      · exact hpast e he
      · exact isCancel_of_calmly hcalm e he
    have hbooked : m.Booked := hm ▸ booked_run c hcancel
    exact hbooked.isClosed_of_entry hentry hconns

/-- Two slots, and four requests for one pool. The first two make a pool each, and the third one
finds no slot. The second one is served with its own pool, and so are the first and the last one.
One of the two leases is given back. -/
def crowded : List Event :=
  [.call (.lease "acme"), .call (.get "acme"), .call (.lease "acme"),
    .resume 0 (.tenant (.ok acme)), .resume 1 (.tenant (.ok acme)),
    .resume 0 (.opened (.ok ("acme_db", 2))), .resume 1 (.opened (.ok ("acme_db", 2))),
    .resume 1 (.pinged (.ok ())), .resume 0 (.pinged (.ok ())), .call (.lease "acme"),
    .resume 0 .closed, .drop 3]

/-- One pool is left, with one lease, and the connections of the first request are closed. -/
theorem creation_converges_crowded :
    let start := new { Config.new "app" "secret" with maxPools := 2 }
    let m := start.run crowded
    Undisturbed start "acme" ∧ start.calmly "acme" crowded = true ∧
      TurnedAway start 2 "acme" crowded 2 (.lease "acme") ∧
      (∀ id, m.Serves "acme" id ↔ id = 0) ∧ start.openedFor "acme" crowded = [0, 1] ∧
      (∀ conns ∈ [0, 1], m.ledger.isClosed conns = true ∨ m.connectionsOf 0 = some conns) ∧
      m.ledger.isClosed 0 = true ∧ m.ledger.isClosed 1 = false ∧ m.pools.length = 1 ∧
      ∀ p, m.pools[0]? = some p → (p.refs : Int) = 1 := by
  intro start m
  have hstart : Undisturbed (start.run []) "acme" := ⟨rfl, fun _ _ h => by cases h⟩
  have hcalm : (start.run []).calmly "acme" crowded = true := by decide +kernel
  have hown : ∀ id past, past <+: crowded → start.ownRefs id past = 0 := fun id past hpast =>
    ownRefs_eq_zero (fun e he m => Event.ownChange_of_not_isOwn
      ((by decide : ∀ e ∈ crowded, e.isOwn = false) e (hpast.subset he)) m id) start
  have hlog : (start.run []).requests crowded =
      [(0, .lease "acme"), (1, .get "acme"), (2, .lease "acme"), (3, .lease "acme")] := by
    decide +kernel
  have hopened : (start.run []).openedFor "acme" crowded = [0, 1] := by decide +kernel
  have hentry : m.entries.get? "acme" = some 0 := by decide +kernel
  have hconns : m.connectionsOf 0 = some 1 := by decide +kernel
  obtain ⟨hends, hrefs, hclosed, hopen⟩ := creation_converges _ [] crowded "acme" hstart hcalm
  have haway := hends 2 (.lease "acme") (.failed (.limitReached 2)) (by rw [hlog]; decide) rfl
    (by decide +kernel)
  have hserved := hends 1 (.get "acme") (.pool 0) (by rw [hlog]; decide) rfl (by decide +kernel)
  refine ⟨hstart, hcalm, ?_, ?_, hopened, ?_, by decide +kernel, hopen nofun 0 1 hentry hconns,
    by decide +kernel, fun p hp => ?_⟩
  · obtain ⟨_, hpool, -⟩ | ⟨-, haway⟩ := haway
    · cases hpool
    · exact haway
  · obtain ⟨_, hpool, hserves⟩ | ⟨hfailed, -⟩ := hserved
    · cases hpool
      exact hserves
    · cases hfailed
  · intro conns hmem
    have hended : ∀ entry ∈ (start.run []).requests crowded, m.outcomes.get? entry.1 ≠ none := by
      decide +kernel
    rcases hclosed (fun k r hk _ => hended (k, r) hk) conns (hopened ▸ hmem) with
      hclosed | ⟨id, ht, hc⟩
    · exact .inl hclosed
    · cases hentry.symm.trans ht
      exact .inr hc
  · have hone : m.leasesOf 0 = 1 := by decide +kernel
    have hcount : (p.refs : Int) = m.leasesOf 0 + start.ownRefs 0 crowded :=
      hrefs (fun id past hpast => (hown id past hpast).ge) 0 p hp
    rw [hcount, hone, hown 0 crowded (List.prefix_refl _)]
    rfl

end Tenancy.Manager
