import Mathlib.Data.List.Induction
import Tenancy.Proofs.Manager.Entries

/-!
# Leases

A pool is held by those to whom it was lent and who have not given the lease back, and by clients
that took it themselves. `leases_safe`: the count of holders is exact as long as no client gives a
pool back more often than it took it; a pool is lent only while it is the tenant's and not closed;
and a pool that is lent stays in use until somebody orders that it be closed, whoever holds it.
-/

namespace Tenancy.Manager

variable {m m₁ m' : Manager} {task : TaskId} {o : Origin} {e : Event}

/-! ### Holders -/

/-- How many hold a pool, as the pool counts them. -/
def refsOf (m : Manager) (id : PoolId) : Nat := (m.pools[id]?).elim 0 Pool.refs

/-- The number of leases of a pool that are not given back. -/
def leasesOf (m : Manager) (id : PoolId) : Nat := m.leases.countValues (· = id)

/-- Whether a tenant has this pool, and the pool is not closed. -/
def Serves (m : Manager) (t : TenantId) (id : PoolId) : Prop :=
  m.entries.get? t = some id ∧ ∃ p, m.pools[id]? = some p ∧ p.closed = false

/-- By how much an event changes the number of clients that took a pool without a lease. -/
def Event.ownChange (m : Manager) (id : PoolId) : Event → Int
  | .acquire pool => if pool = id ∧ id < m.pools.length then 1 else 0
  | .release pool => if pool = id ∧ id < m.pools.length then -1 else 0
  | _ => 0

/-- How much more often clients took a pool than they gave it back, leases apart. -/
def ownRefs (m : Manager) (id : PoolId) : List Event → Int
  | [] => 0
  | e :: events => e.ownChange m id + (m.step e).ownRefs id events

/-- At no time did clients give a pool back more often than they took it, leases apart. -/
def Balanced (m : Manager) (events : List Event) : Prop :=
  ∀ id past, past <+: events → 0 ≤ m.ownRefs id past

/-- The request that an event brings in, with its task. -/
def Event.request? (m : Manager) : Event → Option (TaskId × Request)
  | .call request => some (m.nextTask, request)
  | _ => none

/-- The requests that came in, with their tasks. -/
def requests (m : Manager) : List Event → List (TaskId × Request)
  | [] => []
  | e :: events => (e.request? m).toList ++ (m.step e).requests events

lemma Event.ownChange_of_not_isOwn (h : e.isOwn = false) (m : Manager) (id : PoolId) :
    e.ownChange m id = 0 := by
  cases e with
  | acquire | release => cases h
  | _ => rfl

lemma ownRefs_append (m : Manager) (id : PoolId) (past next : List Event) :
    m.ownRefs id (past ++ next) = m.ownRefs id past + (m.run past).ownRefs id next := by
  induction past generalizing m with
  | nil => simp [ownRefs, run]
  | cons e rest ih =>
    rw [List.cons_append, ownRefs, ownRefs, ih, run_cons]
    omega

lemma ownRefs_eq_zero {id : PoolId} {events : List Event}
    (h : ∀ e ∈ events, ∀ m, e.ownChange m id = 0) (m : Manager) : m.ownRefs id events = 0 := by
  induction events generalizing m with
  | nil => rfl
  | cons e rest ih =>
    rw [ownRefs, h e (by simp), ih fun e' he' => h e' (by simp [he'])]
    rfl

lemma requests_append (m : Manager) (past next : List Event) :
    m.requests (past ++ next) = m.requests past ++ (m.run past).requests next := by
  induction past generalizing m with
  | nil => rfl
  | cons e rest ih =>
    rw [List.cons_append, requests, requests, ih, run_cons, List.append_assoc]

lemma requests_concat (m : Manager) (past : List Event) (e : Event) :
    m.requests (past ++ [e]) = m.requests past ++ (e.request? (m.run past)).toList := by
  rw [requests_append, requests, requests, List.append_nil]

/-- A request that comes in is that of the task that is started for it. -/
lemma origin?_of_request? {r : Request} (h : e.request? m = some (task, r)) :
    e.origin? m = some (task, .call r) := by
  cases e with
  | call =>
    cases h
    rfl
  | _ => cases h

lemma Balanced.of_append {past next : List Event} (h : Balanced m (past ++ next)) :
    Balanced m past :=
  fun id before hb => h id before (hb.trans (List.prefix_append _ _))

/-! ### Orders to close -/

/-- Whether a task was told to close the pool of a tenant, whoever holds it. -/
def Origin.ordersClose (t : TenantId) : Origin → Bool
  | .call (.retire tenant _) => tenant = t
  | .stage (.updating tenant status) => tenant = t && !status.isActive
  | o => o.shutsDown

/-- Whether an event reaches a task that was told to close the pool of a tenant. -/
def Event.ordersClose (m : Manager) (t : TenantId) (e : Event) : Bool :=
  (e.origin? m).elim false fun reached => reached.2.ordersClose t

/-- One of the events took the pool `id` of a tenant out of use, while it was lent to `k`, because
its task was told to close the pool. -/
def ClosedOnOrder (m : Manager) (events : List Event) (k : TaskId) (t : TenantId) (id : PoolId) :
    Prop :=
  ∃ past e next, events = past ++ e :: next ∧
    (m.run past).leases.get? k = some id ∧ (m.run past).entries.get? t = some id ∧
    e.ordersClose (m.run past) t = true ∧ ((m.run past).step e).entries.get? t = none

lemma ClosedOnOrder.append {events : List Event} {k : TaskId} {t : TenantId} {id : PoolId}
    (h : ClosedOnOrder m events k t id) (more : List Event) :
    ClosedOnOrder m (events ++ more) k t id := by
  obtain ⟨past, e, next, rfl, h⟩ := h
  exact ⟨past, e, next ++ more, by simp, h⟩

lemma Origin.ordersClose_of_shutsDown (h : o.shutsDown = true) (t : TenantId) :
    o.ordersClose t = true := by
  unfold ordersClose
  split <;> simp_all [shutsDown]

/-- A pool is closed on order, or because nobody holds it. -/
lemma Warrants.ordersClose {t : TenantId} {id : PoolId} {next : Next}
    (h : Warrants m t id o next) : m.isReferenced id = false ∨ o.ordersClose t = true := by
  cases h with
  | evict h | probe h => exact .inl h
  | retire => exact .inr (by simp [Origin.ordersClose])
  | setStatus h => exact .inr (by simp [Origin.ordersClose, h])
  | shutdown h => exact .inr (Origin.ordersClose_of_shutsDown h t)

/-! ### Counting holders -/

lemma refsOf_eq_zero_iff (m : Manager) (id : PoolId) :
    m.isReferenced id = false ↔ m.refsOf id = 0 := by
  simp only [isReferenced, refsOf]
  cases m.pools[id]? with
  | none => simp
  | some p => simp [Pool.isReferenced]

lemma Quiet.refsOf_eq (q : m.Quiet m₁) (id : PoolId) : m₁.refsOf id = m.refsOf id := by
  have hs := q.getElem?_standing id
  simp only [refsOf]
  cases h₁ : m₁.pools[id]? with
  | none =>
    rw [h₁] at hs
    rw [Option.map_eq_none_iff.1 hs.symm]
  | some p =>
    obtain ⟨p₀, h₀, hstanding⟩ := q.exists_of_pool h₁
    rw [h₀]
    exact (congrArg (fun s => s.2.2.1) hstanding).symm

lemma Quiet.leasesOf_eq (q : m.Quiet m₁) (id : PoolId) : m₁.leasesOf id = m.leasesOf id := by
  rw [leasesOf, q.leases, leasesOf]

/-- A pool that is lent has a lease. -/
lemma leasesOf_pos {k : TaskId} {id : PoolId} (h : m.leases.get? k = some id) :
    0 < m.leasesOf id :=
  Assoc.countValues_pos_iff.2 ⟨k, id, h, by simp⟩

lemma refsOf_modifyPool (m : Manager) (pool id : PoolId) (f : Pool → Pool) :
    (m.modifyPool pool f).refsOf id =
      if pool = id then (m.pools[id]?).elim 0 (fun p => (f p).refs) else m.refsOf id := by
  simp only [refsOf, modifyPool, List.getElem?_modify]
  cases m.pools[id]? with
  | none => simp
  | some p => by_cases h : pool = id <;> simp [h]

lemma refsOf_acquire (m : Manager) (pool id : PoolId) (now : Nat) :
    (m.modifyPool pool (·.acquire now)).refsOf id =
      m.refsOf id + if pool = id ∧ id < m.pools.length then 1 else 0 := by
  rw [refsOf_modifyPool, refsOf]
  by_cases h : pool = id
  · cases hp : m.pools[id]? with
    | none =>
      have hlen := List.getElem?_eq_none_iff.1 hp
      simp [h, not_lt.2 hlen]
    | some p =>
      have hlen := (List.getElem?_eq_some_iff.1 hp).1
      simp [h, hlen, Pool.acquire, Pool.touch]
  · simp [h]

lemma refsOf_release (m : Manager) (pool id : PoolId) (now : Nat) :
    (m.modifyPool pool (·.release now)).refsOf id =
      m.refsOf id - if pool = id then 1 else 0 := by
  rw [refsOf_modifyPool, refsOf]
  by_cases h : pool = id
  · cases hp : m.pools[id]? with
    | none => simp
    | some p => simp [h, Pool.release, Pool.touch]
  · simp [h]

lemma refsOf_enroll (m : Manager) (t : TenantId) (record : Tenant) (connections : ConnectionsId)
    (id : PoolId) : (m.enroll t record connections).refsOf id = m.refsOf id := by
  simp only [refsOf, enroll]
  rcases Nat.lt_or_ge id m.pools.length with hid | hid
  · rw [List.getElem?_append_left hid]
  · rw [List.getElem?_append_right hid, List.getElem?_eq_none hid, List.getElem?_singleton]
    split_ifs <;> rfl

lemma refsOf_beginClose (m : Manager) (t : TenantId) (id : PoolId) (reason : String)
    (next : Next) (id' : PoolId) :
    (m.beginClose task t id reason next).refsOf id' = m.refsOf id' := by
  have h := refsOf_modifyPool m id id' fun p => { p with closed := true }
  refine h.trans ?_
  simp only [refsOf]
  split_ifs <;> rfl

lemma refsOf_lend (m : Manager) (id id' : PoolId) :
    (m.lend task id).refsOf id' =
      m.refsOf id' + if id = id' ∧ id' < m.pools.length then 1 else 0 :=
  refsOf_acquire m id id' m.now

/-! ### What one move does -/

/-- A task that comes to wait in order to get a lease was asked for one. -/
lemma Reaches.demand {s : Stage} (h : Reaches o s) {t : TenantId}
    (hs : s.demand? = some (.lease, t)) : o.demand? = some (.lease, t) := by
  cases h with
  | leads h =>
    cases h with
    | plain _ hplain => cases s <;> simp_all [Stage.isPlain, Stage.demand?]
    | _ => exact hs
  | reserve hd => exact hd.trans hs
  | yield => exact hs
  | close => cases hs

/-- How a move changes the leases and the counts of holders. -/
inductive LeaseChange (m : Manager) (task : TaskId) (o : Origin) (m' : Manager) : Prop
  | kept (hl : m'.leases = m.leases) (hr : ∀ id, m'.refsOf id = m.refsOf id)
  | lent {t id} (hd : o.demand? = some (.lease, t)) (ht : m'.entries.get? t = some id)
      (hout : m'.outcomes.get? task = some (.leased id)) (hdone : m'.tasks.get? task = none)
      (hl : m'.leases = m.leases.insert task id)
      (hr : ∀ id', m'.refsOf id' = m.refsOf id' + if id = id' then 1 else 0)

/-- A pool in use can be lent. -/
lemma LeaseChange.of_lend (hm : Mapped m.entries m.pools) {t : TenantId} {id : PoolId}
    (hd : o.demand? = some (.lease, t)) (ht : m.entries.get? t = some id) :
    LeaseChange m task o (m.lend task id) := by
  refine .lent hd ht ?_ ?_ rfl ?_
  · simp [lend, finish, Assoc.get?_insert]
  · simp [lend, finish, leave, Assoc.get?_erase]
  · intro id'
    rw [refsOf_lend]
    congr 1
    have hlt := hm.lt_length ht
    by_cases h : id = id'
    · subst h
      simp [hlt]
    · simp [h]

/-- What was there before a change beside the pools counts as what was there at first. -/
lemma LeaseChange.of_quiet (q : m.Quiet m₁) (h : LeaseChange m₁ task o m') :
    LeaseChange m task o m' := by
  cases h with
  | kept hl hr =>
    exact .kept (hl.trans q.leases) fun id => (hr id).trans (q.refsOf_eq id)
  | lent hd ht hout hdone hl hr =>
    refine .lent hd ht hout hdone (q.leases ▸ hl) fun id => ?_
    rw [hr, q.refsOf_eq]

lemma Move.leaseChange (h : Move m task o m') (hm : Mapped m.entries m.pools) :
    LeaseChange m task o m' := by
  cases h with
  | stay => exact .kept rfl fun _ => rfl
  | wait q _ | leave q _ | finish q _ _ | report q _ | reserve q _ _ _ _ _ | yield q _ _
  | hand q _ _ _ => exact .of_quiet q (.kept rfl fun _ => rfl)
  | @giveUp _ d _ _ q _ _ => cases d <;> exact .of_quiet q (.kept rfl fun _ => rfl)
  | lend q _ hd ht => exact .of_quiet q (.of_lend (hm.quiet q) hd ht)
  | @enter m₁ d t record connections _ q ho hnone _ =>
    have henroll := refsOf_enroll m₁ t record connections
    rw [deliver_enroll]
    apply LeaseChange.of_quiet q
    cases d with
    | get | warm => exact .kept rfl henroll
    | lease =>
      have he := (hm.quiet q).enroll hnone record connections
      have hd : o.demand? = some (.lease, t) := by rw [ho]; rfl
      have ht : (m₁.enroll t record connections).entries.get? t = some m₁.pools.length := by
        simp [enroll, Assoc.get?_insert]
      have hlend : LeaseChange (m₁.enroll t record connections) task o _ := .of_lend he hd ht
      cases hlend with
      | kept hl hr => exact .kept hl fun id => (hr id).trans (henroll id)
      | lent hd ht hout hdone hl hr =>
        exact .lent hd ht hout hdone hl fun id => by rw [hr, henroll]
  | @withdraw m₁ d t record connections _ _ q _ _ _ =>
    refine .of_quiet q (.kept rfl fun id => ?_)
    rw [refsOf_beginClose, refsOf_enroll]
  | close q _ _ _ => exact .of_quiet q (.kept rfl fun id => refsOf_beginClose ..)

/-- A pool stays its tenant's, or is closed on order, or because nobody holds it. -/
lemma Move.entry_kept (h : Move m task o m') {t : TenantId} {id : PoolId}
    (ht : m.entries.get? t = some id) :
    m'.entries.get? t = some id ∨
      m'.entries.get? t = none ∧ (m.refsOf id = 0 ∨ o.ordersClose t = true) := by
  cases h.entryChange with
  | kept he => exact .inl ((he t).trans ht)
  | entered _ hnone he =>
    rw [he, Assoc.get?_insert]
    split_ifs with heq
    · rw [← heq, ht] at hnone
      cases hnone
    · exact .inl ht
  | @closed m₁ t' id' _ q ht' hw he =>
    rw [he, Assoc.get?_erase]
    split_ifs with heq
    · subst heq
      rw [ht] at ht'
      cases ht'
      refine .inr ⟨rfl, hw.ordersClose.imp_left fun href => ?_⟩
      rw [← q.refsOf_eq, ← refsOf_eq_zero_iff, href]
    · exact .inl ht

/-! ### What every event preserves -/

/-- The holders are counted, where clients took a pool `own` times more often than they gave it
back, and every task that wants a lease carries out one of the requests. -/
structure Tended (m : Manager) (own : PoolId → Int) (log : List (TaskId × Request)) : Prop where
  mapped : Mapped m.entries m.pools
  refs : ∀ id, (m.refsOf id : Int) = m.leasesOf id + own id
  ended : ∀ {k id}, m.leases.get? k = some id → k < m.nextTask ∧ m.tasks.get? k = none
  asked : ∀ {k s t}, m.tasks.get? k = some s → s.demand? = some (.lease, t) →
    (k, Request.lease t) ∈ log

namespace Tended

variable {own : PoolId → Int} {log : List (TaskId × Request)}

lemma mono (h : Tended m own log) {log' : List (TaskId × Request)} (hsub : log ⊆ log') :
    Tended m own log' :=
  ⟨h.mapped, h.refs, h.ended, fun hs hd => hsub (h.asked hs hd)⟩

/-- Tasks that wait for their turn want no lease. -/
lemma quiet (q : m.Quiet m₁) (h : Tended m own log) : Tended m₁ own log := by
  refine ⟨h.mapped.quiet q, ?_, ?_, ?_⟩
  · intro id
    rw [q.refsOf_eq, q.leasesOf_eq, h.refs]
  · intro k id hk
    rw [q.leases] at hk
    obtain ⟨hlt, hnone⟩ := h.ended hk
    exact ⟨hlt.trans_le q.nextTask, (q.get?_eq_of_lt hlt).trans hnone⟩
  · intro k s t hs hd
    rcases q.get?_or_queued hs with hs | ⟨-, hqueued⟩
    · exact h.asked hs hd
    · cases s <;> simp_all [Stage.isQueued, Stage.demand?]

/-- The task that an event reaches holds no lease yet. -/
lemma leases_eq_none (h : Tended m own log) (ho : e.origin? m = some (task, o)) :
    m.leases.get? task = none := by
  cases hl : m.leases.get? task with
  | none => rfl
  | some id =>
    obtain ⟨hlt, hnone⟩ := h.ended hl
    exact absurd ho (Event.origin?_ne_of_ended hlt hnone o)

/-- A task that wants a lease was asked for it, now or before. -/
lemma mem_log (h : Tended m own log) (ho : e.origin? m = some (task, o)) {t : TenantId}
    (hd : o.demand? = some (.lease, t)) :
    (task, Request.lease t) ∈ log ++ (e.request? m).toList := by
  cases Event.Drives.of_origin? ho with
  | call request => cases request <;> simp_all [Origin.demand?, Event.request?]
  | resume a hs => exact List.mem_append_left _ (h.asked hs hd)

lemma move (hm : Move m task o m') (hlt : task < m.nextTask) (hnone : m.leases.get? task = none)
    (hlog : ∀ t, o.demand? = some (.lease, t) → (task, Request.lease t) ∈ log)
    (h : Tended m own log) : Tended m' own log := by
  have hchange := hm.leaseChange h.mapped
  refine ⟨h.mapped.move hm, ?_, ?_, ?_⟩
  · intro id
    cases hchange with
    | kept hl hr => rw [hr, leasesOf, hl, ← leasesOf, h.refs]
    | @lent t id' _ _ _ _ hl hr =>
      have hcount : m'.leasesOf id = m.leasesOf id + if id' = id then 1 else 0 := by
        rw [leasesOf, hl, Assoc.countValues_insert, Assoc.countValues_erase_of_none hnone,
          ← leasesOf]
        by_cases hid : id' = id <;> simp [hid]
      have hrefs := h.refs id
      rw [hr, hcount]
      split_ifs <;> omega
  · -- A lease that was there is that of a task that has ended, and so not of the one that moves.
    have hold : ∀ {k id}, m.leases.get? k = some id →
        k < m'.nextTask ∧ m'.tasks.get? k = none := by
      intro k id hk
      obtain ⟨hlt', hdone⟩ := h.ended hk
      have hne : k ≠ task := by
        rintro rfl
        rw [hnone] at hk
        cases hk
      exact ⟨hlt'.trans_le hm.nextTask_le, (hm.get?_other hne hlt').trans hdone⟩
    intro k id hk
    cases hchange with
    | kept hl _ => exact hold (hl ▸ hk)
    | lent _ _ _ hdone hl _ =>
      rw [hl, Assoc.get?_insert] at hk
      split_ifs at hk with hkt
      · exact hkt ▸ ⟨hlt.trans_le hm.nextTask_le, hdone⟩
      · exact hold hk
  · intro k s t hs hd
    rcases hm.get?_cases hs with hs | hqueued | ⟨rfl, hr⟩
    · exact h.asked hs hd
    · cases s <;> simp_all [Stage.isQueued, Stage.demand?]
    · exact hlog t (hr.demand hd)

lemma acquire (h : Tended m own log) (id : PoolId) :
    Tended (m.modifyPool id (·.acquire m.now))
      (fun id' => own id' + Event.ownChange m id' (.acquire id)) log := by
  refine ⟨h.mapped.modify id fun _ => rfl, ?_, h.ended, h.asked⟩
  intro id'
  have hrefs := h.refs id'
  rw [refsOf_acquire, Event.ownChange]
  simp only [leasesOf, modifyPool] at hrefs ⊢
  split_ifs <;> omega

/-- As many hold a pool as its leases and its own holders say, so that one who gives it back is
counted. -/
lemma release (h : Tended m own log) (id : PoolId)
    (hown : 0 ≤ own id + Event.ownChange m id (.release id)) :
    Tended (m.modifyPool id (·.release m.now))
      (fun id' => own id' + Event.ownChange m id' (.release id)) log := by
  refine ⟨h.mapped.modify id fun _ => rfl, ?_, h.ended, h.asked⟩
  intro id'
  have hrefs := h.refs id'
  rw [refsOf_release]
  simp only [leasesOf, modifyPool, Event.ownChange] at hrefs hown ⊢
  by_cases hid : id = id'
  · subst hid
    by_cases hlen : id < m.pools.length
    · simp only [hlen, and_true, if_true] at hown ⊢
      omega
    · have hzero : m.refsOf id = 0 := by
        simp [refsOf, List.getElem?_eq_none (not_lt.1 hlen)]
      simp only [hlen, and_false, if_true, if_false] at hown ⊢
      omega
  · simp only [hid, false_and, if_false]
    omega

lemma drop (h : Tended m own log) {lease : TaskId} {id : PoolId}
    (hl : m.leases.get? lease = some id) (hown : 0 ≤ own id) :
    Tended { m.modifyPool id (·.release m.now) with leases := m.leases.erase lease } own log := by
  refine ⟨h.mapped.modify id fun _ => rfl, ?_, ?_, h.asked⟩
  · intro id'
    have hrefs := h.refs id'
    have hcount := Assoc.countValues_erase_of_some hl (· = id')
    have hrefsOf : ({ m.modifyPool id (·.release m.now) with
        leases := m.leases.erase lease } : Manager).refsOf id' =
        m.refsOf id' - if id = id' then 1 else 0 := refsOf_release m id id' m.now
    rw [hrefsOf]
    simp only [leasesOf] at hrefs ⊢
    by_cases hid : id = id'
    · subst hid
      simp only [decide_true, Bool.toNat_true] at hcount
      simp only [if_true]
      omega
    · simp only [hid, decide_false, Bool.toNat_false] at hcount
      simp only [hid, if_false]
      omega
  · intro k id' hk
    simp only [Assoc.get?_erase] at hk
    split_ifs at hk
    exact h.ended hk

lemma turn (ht : Turn m e m') (h : Tended m own log) (hown : ∀ id, 0 ≤ own id)
    (hown' : ∀ id, 0 ≤ own id + e.ownChange m id) :
    Tended m' (fun id => own id + e.ownChange m id) (log ++ (e.request? m).toList) := by
  have hlog : Tended m own (log ++ (e.request? m).toList) := h.mono (List.subset_append_left ..)
  cases ht with
  | @act _ m₀ task o _ ho q hlt _ hm =>
    have hnot : e.isOwn = false := by cases e <;> first | rfl | cases ho
    simp only [Event.ownChange_of_not_isOwn hnot, Int.add_zero]
    have hnone : m₀.leases.get? task = none := by rw [q.leases, h.leases_eq_none ho]
    exact (hlog.quiet q).move hm hlt hnone fun t hd => h.mem_log ho hd
  | aside hnot q =>
    simp only [Event.ownChange_of_not_isOwn hnot, Int.add_zero]
    exact hlog.quiet q
  | acquire id => exact hlog.acquire id
  | release id => exact hlog.release id (hown' id)
  | drop hl =>
    simp only [Event.ownChange, Int.add_zero]
    exact hlog.drop hl (hown _)
  | cancel task p reports =>
    simp only [Event.ownChange, Int.add_zero]
    refine ⟨hlog.mapped, hlog.refs, ?_, ?_⟩
    · intro k id hk
      obtain ⟨hlt, hnone⟩ := hlog.ended hk
      refine ⟨hlt, ?_⟩
      simp only [Assoc.get?_filter, hnone, Option.filter_none]
    · intro k s t hs hd
      simp only [Assoc.get?_filter] at hs
      exact hlog.asked (Option.eq_some_of_filter_eq_some hs) hd

end Tended

/-! ### Grants and closings -/

section Step

variable {own : PoolId → Int} {log : List (TaskId × Request)}

/-- A lease is given of the pool that the tenant then has, to a request for it. -/
lemma Turn.granted (ht : Turn m e m') (h : Tended m own log) {k : TaskId} {id : PoolId}
    (hbefore : m.leases.get? k = none) (hafter : m'.leases.get? k = some id) :
    ∃ t, (k, Request.lease t) ∈ log ++ (e.request? m).toList ∧ m'.entries.get? t = some id ∧
      m'.outcomes.get? k = some (.leased id) := by
  have hsame : m'.leases ≠ m.leases := by
    intro heq
    rw [heq, hbefore] at hafter
    cases hafter
  cases ht with
  | @act _ m₀ task o _ ho q _ _ hm =>
    cases hm.leaseChange (h.mapped.quiet q) with
    | kept hl _ => exact absurd (hl.trans q.leases) hsame
    | lent hd hentry hout _ hl _ =>
      rw [hl, q.leases, Assoc.get?_insert] at hafter
      split_ifs at hafter with hk
      · cases hafter
        exact hk ▸ ⟨_, h.mem_log ho hd, hentry, hout⟩
      · rw [hbefore] at hafter
        cases hafter
  | aside _ q => exact absurd q.leases hsame
  | acquire | release | cancel => exact absurd rfl hsame
  | drop =>
    simp only [Assoc.get?_erase] at hafter
    split_ifs at hafter
    rw [hbefore] at hafter
    cases hafter

/-- A lease is of one pool until it is given back. -/
lemma Turn.lease_eq (ht : Turn m e m') (h : Tended m own log) {k : TaskId} {id id' : PoolId}
    (hbefore : m.leases.get? k = some id) (hafter : m'.leases.get? k = some id') : id' = id := by
  have hsame : ∀ {leases : Assoc TaskId PoolId}, leases = m.leases →
      leases.get? k = some id' → id' = id := by
    rintro _ rfl hafter
    exact Option.some.inj (hafter.symm.trans hbefore)
  cases ht with
  | @act _ m₀ task o _ ho q _ _ hm =>
    cases hm.leaseChange (h.mapped.quiet q) with
    | kept hl _ => exact hsame (hl.trans q.leases) hafter
    | lent _ _ _ _ hl _ =>
      rw [hl, q.leases, Assoc.get?_insert] at hafter
      split_ifs at hafter with hk
      · rw [hk, h.leases_eq_none ho] at hbefore
        cases hbefore
      · exact hsame rfl hafter
  | aside _ q => exact hsame q.leases hafter
  | acquire | release | cancel => exact hsame rfl hafter
  | drop =>
    simp only [Assoc.get?_erase] at hafter
    split_ifs at hafter
    exact hsame rfl hafter

/-- A pool that is lent stays its tenant's, or is closed on order. -/
lemma Turn.entry_kept (ht : Turn m e m') (h : Tended m own log) (hown : ∀ id, 0 ≤ own id)
    {k : TaskId} {t : TenantId} {id : PoolId} (hk : m.leases.get? k = some id)
    (hentry : m.entries.get? t = some id) :
    m'.entries.get? t = some id ∨ m'.entries.get? t = none ∧ e.ordersClose m t = true := by
  have href : m.refsOf id ≠ 0 := by
    have hrefs := h.refs id
    have hpos := leasesOf_pos hk
    have := hown id
    omega
  cases ht with
  | @act _ m₀ task o _ ho q _ _ hm =>
    rcases hm.entry_kept (by rw [q.entries, hentry]) with hkept | ⟨hnone, hzero | horder⟩
    · exact .inl hkept
    · rw [q.refsOf_eq] at hzero
      exact absurd hzero href
    · refine .inr ⟨hnone, ?_⟩
      rw [Event.ordersClose, ho]
      exact horder
  | aside _ q => exact .inl (by rw [q.entries, hentry])
  | acquire | release | drop | cancel => exact .inl hentry

end Step

/-! ### Every run -/

lemma tended_run (c : Config) {events : List Event} (h : Balanced (new c) events) :
    Tended ((new c).run events) (fun id => (new c).ownRefs id events)
      ((new c).requests events) := by
  induction events using List.reverseRecOn with
  | nil =>
    refine ⟨mapped_run c [], fun _ => rfl, ?_, ?_⟩
    · intro _ _ hk
      cases hk
    · intro _ _ _ hs
      cases hs
  | append_singleton past e ih =>
    have hpast := h.of_append
    have hfresh : ((new c).run past).Fresh := (fresh_new c).run past
    have hown : ∀ id, (new c).ownRefs id (past ++ [e]) =
        (new c).ownRefs id past + e.ownChange ((new c).run past) id := by
      intro id
      rw [ownRefs_append, ownRefs, ownRefs, Int.add_zero]
    have hlog : (new c).requests (past ++ [e]) =
        (new c).requests past ++ (e.request? ((new c).run past)).toList := requests_concat ..
    have hnext := (ih hpast).turn (Turn.of_step hfresh e)
      (fun id => hpast id past (List.prefix_refl _))
      (fun id => hown id ▸ h id _ (List.prefix_refl _))
    rw [run_append, hlog]
    simp only [hown]
    exact hnext

/-- A pool that is lent is its tenant's, unless it was closed on order while it was lent. -/
lemma entry_or_closedOnOrder (c : Config) {events : List Event} (h : Balanced (new c) events)
    {k : TaskId} {id : PoolId} (hk : ((new c).run events).leases.get? k = some id) :
    ∃ t, (k, Request.lease t) ∈ (new c).requests events ∧
      (((new c).run events).entries.get? t = some id ∨ ClosedOnOrder (new c) events k t id) := by
  induction events using List.reverseRecOn with
  | nil => cases hk
  | append_singleton past e ih =>
    have hpast := h.of_append
    have htended := tended_run c hpast
    have hturn := Turn.of_step ((fresh_new c).run past) e
    rw [run_append] at hk
    simp only [requests_append, run_append]
    cases hbefore : ((new c).run past).leases.get? k with
    | none =>
      obtain ⟨t, hlog, hentry, -⟩ := hturn.granted htended hbefore hk
      refine ⟨t, ?_, .inl hentry⟩
      rwa [requests, requests, List.append_nil]
    | some id' =>
      have hid := hturn.lease_eq htended hbefore hk
      subst hid
      obtain ⟨t, hlog, hentry | hclosed⟩ := ih hpast hbefore
      · refine ⟨t, List.mem_append_left _ hlog, ?_⟩
        have hown := fun id => hpast id past (List.prefix_refl _)
        rcases hturn.entry_kept htended hown hbefore hentry with hkept | ⟨hnone, horder⟩
        · exact .inl hkept
        · exact .inr ⟨past, e, [], rfl, hbefore, hentry, horder, hnone⟩
      · exact ⟨t, List.mem_append_left _ hlog, .inr (hclosed.append [e])⟩

/-- However tasks take turns, and whether or not some are cancelled, as long as no client gives a
pool back more often than it took it: every pool counts its leases and the clients that took it;
whatever happens next, a lease is given only of the pool that the tenant who was asked for then
has, and which is not closed, and a pool that is lent stays so unless its closing is ordered; and
every pool that is lent is its tenant's and not closed, or was closed on order while it was lent. -/
theorem leases_safe (c : Config) (events : List Event) (h : Balanced (new c) events) :
    let m := (new c).run events
    (∀ id p, m.pools[id]? = some p → (p.refs : Int) = m.leasesOf id + (new c).ownRefs id events) ∧
    (∀ e k id, m.leases.get? k = none → (m.step e).leases.get? k = some id →
      ∃ t, (k, Request.lease t) ∈ (new c).requests (events ++ [e]) ∧ (m.step e).Serves t id ∧
        (m.step e).outcomes.get? k = some (.leased id)) ∧
    (∀ e k t id, m.leases.get? k = some id → m.entries.get? t = some id →
      e.ordersClose m t = false → (m.step e).Serves t id) ∧
    (∀ k id, m.leases.get? k = some id → ∃ t, (k, Request.lease t) ∈ (new c).requests events ∧
      (m.Serves t id ∨ ClosedOnOrder (new c) events k t id)) := by
  intro m
  have htended := tended_run c h
  have hturn : ∀ e, Turn m e (m.step e) := Turn.of_step ((fresh_new c).run events)
  have hown := fun id => h id events (List.prefix_refl _)
  refine ⟨?_, ?_, ?_, ?_⟩
  · intro id p hp
    have hrefs := htended.refs id
    rwa [refsOf, hp] at hrefs
  · intro e k id hbefore hafter
    obtain ⟨t, hlog, hentry, hout⟩ := (hturn e).granted htended hbefore hafter
    refine ⟨t, ?_, ⟨hentry, (htended.mapped.turn (hturn e)).exists_unclosed hentry⟩, hout⟩
    rwa [requests_append, requests, requests, List.append_nil]
  · intro e k t id hk hentry horder
    rcases (hturn e).entry_kept htended hown hk hentry with hkept | ⟨-, horder'⟩
    · exact ⟨hkept, (htended.mapped.turn (hturn e)).exists_unclosed hkept⟩
    · rw [horder] at horder'
      cases horder'
  · intro k id hk
    obtain ⟨t, hlog, hentry | hclosed⟩ := entry_or_closedOnOrder c h hk
    · exact ⟨t, hlog, .inl ⟨hentry, htended.mapped.exists_unclosed hentry⟩⟩
    · exact ⟨t, hlog, .inr hclosed⟩

/-- Two leases of one pool, the first of which is given back, while a client takes the pool itself,
gives it back and takes it again. -/
def twoLeases : List Event :=
  .call (.lease "acme") :: acmeOpens 0 ++
    [.acquire 0, .call (.lease "acme"), .release 0, .acquire 0, .drop 0]

/-- One lease is left and one client that took the pool, and a sweep does not close the pool. -/
theorem leases_safe_twoLeases :
    Balanced (new (.new "app" "secret")) twoLeases ∧
      let m := (new (.new "app" "secret")).run twoLeases
      (∀ p, m.pools[0]? = some p → (p.refs : Int) = 1 + 1) ∧ m.pools.length = 1 ∧
        (m.step (.call .evict)).Serves "acme" 0 := by
  have h : Balanced (new (.new "app" "secret")) twoLeases := by
    intro id past hpast
    by_cases hid : id = 0
    · have htake : ∀ n ≤ twoLeases.length,
          0 ≤ (new (.new "app" "secret")).ownRefs 0 (twoLeases.take n) := by decide
      rw [hid, List.prefix_iff_eq_take.1 hpast]
      exact htake _ hpast.length_le
    · refine Int.le_of_eq (ownRefs_eq_zero (fun e he m => ?_) _).symm
      have he := hpast.subset he
      simp only [twoLeases, acmeOpens, List.cons_append, List.nil_append, List.mem_cons,
        List.not_mem_nil, or_false] at he
      rcases he with rfl | rfl | rfl | rfl | rfl | rfl | rfl | rfl | rfl <;>
        simp [Event.ownChange, Ne.symm hid]
  have hm := leases_safe (.new "app" "secret") twoLeases h
  refine ⟨h, hm.1 0, by decide, hm.2.2.1 (.call .evict) 1 "acme" 0 ?_ ?_ ?_⟩ <;> decide

end Tenancy.Manager
