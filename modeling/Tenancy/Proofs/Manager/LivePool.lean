import Tenancy.Proofs.Manager.Grants
import Tenancy.Proofs.Manager.Identity

/-!
# One live pool for each tenant

Over a backend in memory a task that closes connections goes on at once, so that only the task that
an event has reached can be seen to do so, and when it yields to another pool that one still is the
tenant's. `Orderly` says this of the states between an event and the next one.

`one_live_pool`: the pools that are not closed are those in use, each of one tenant, and none comes
back; every request gets a pool that then is its tenant's; and so of all the pools that requests for
a tenant ever got, one is not closed at most.
-/

namespace Tenancy.Manager

variable {m m₁ m' : Manager} {task k : TaskId} {o : Origin} {e : Event} {s : Stage}
  {t : TenantId} {id : PoolId} {outcome : Outcome} {log : List (TaskId × Request)}

/-! ### Requests -/

/-- The requests that came in over a backend in memory, with their tasks. -/
def requestsInMemory (m : Manager) : List Event → List (TaskId × Request)
  | [] => []
  | e :: events => (e.request? m).toList ++ (m.step e).settle.requestsInMemory events

lemma requestsInMemory_append (m : Manager) (events later : List Event) :
    m.requestsInMemory (events ++ later) =
      m.requestsInMemory events ++ (m.runInMemory events).requestsInMemory later := by
  induction events generalizing m with
  | nil => rfl
  | cons e rest ih =>
    rw [List.cons_append, requestsInMemory, requestsInMemory, ih, List.append_assoc]
    rfl

/-! ### What holds between events -/

/-- What holds of a manager in every run. -/
structure Regular (m : Manager) : Prop where
  fresh : m.Fresh
  answered : m.Answered
  pending : m.Pending
  mapped : Mapped m.entries m.pools

namespace Regular

lemma new (c : Config) : Regular (Manager.new c) :=
  ⟨fresh_new c, answered_new c, pending_run c [], mapped_run c []⟩

lemma turn (ht : Turn m e m') (h : Regular m) : Regular m' :=
  ⟨ht.fresh h.fresh, ht.answered h.answered, ht.pending h.answered h.pending, h.mapped.turn ht⟩

lemma step (h : Regular m) (e : Event) : Regular (m.step e) := h.turn (Turn.of_step h.fresh e)

lemma run (h : Regular m) (events : List Event) : Regular (m.run events) :=
  run_induction (A := fun _ => True) (fun ht _ h _ => h.turn ht) h.fresh h fun _ _ => trivial

/-- A task that an event reaches has no outcome yet. -/
lemma outcomes_eq_none (h : Regular m) (ho : e.origin? m = some (task, o)) :
    m.outcomes.get? task = none := by
  cases Event.Drives.of_origin? ho with
  | call =>
    cases hout : m.outcomes.get? m.nextTask with
    | none => rfl
    | some outcome => exact absurd (h.answered _ _ hout) (lt_irrefl _)
  | resume a hs => exact h.pending _ _ hs

/-- A task that has an outcome has ended. -/
lemma get?_eq_none_of_ended (h : Regular m) (hout : m.outcomes.get? k ≠ none) :
    m.tasks.get? k = none := by
  cases hs : m.tasks.get? k with
  | none => rfl
  | some s => exact absurd (h.pending k s hs) hout

lemma existsUnique_of_unclosed (h : Regular m) {p : Pool} (hp : m.pools[id]? = some p)
    (hopen : p.closed = false) : ∃! t, m.entries.get? t = some id := by
  obtain ⟨t, ht⟩ := (h.mapped.unclosed_iff hp).1 hopen
  exact ⟨t, ht, fun t' ht' => h.mapped.injective ht' ht⟩

lemma gone_of_closed (h : Regular m) {p : Pool} (hp : m.pools[id]? = some p)
    (hclosed : p.closed = true) : m.Gone id := by
  intro t ht
  rw [(h.mapped.unclosed_iff hp).2 ⟨t, ht⟩] at hclosed
  cases hclosed

end Regular

/-- A task that waits for its turn to get a pool does so for another task. -/
lemma Stage.parent?_ne_none_of_isQueued {d : Demand} (hq : s.isQueued = true)
    (hd : s.demand? = some (d, t)) : d.parent? ≠ none := by
  cases s with
  | warmQueued =>
    cases hd
    exact nofun
  | _ => simp_all [isQueued, demand?]

/-- No task but one waits for connections to be closed, and one that yields does so to the pool of
the tenant. Tasks that want a pool, and pools that were given, go with the requests in the log. -/
structure Orderly (m : Manager) (log : List (TaskId × Request)) (task : TaskId) : Prop where
  started : ∀ {k r}, log.lookup k = some r → k < m.nextTask
  asked : ∀ {k s d t}, m.tasks.get? k = some s → s.demand? = some (d, t) → d.parent? = none →
    ∃ r, log.lookup k = some r ∧ r.wants t = true
  closing : ∀ {k s}, m.tasks.get? k = some s → s.isClosing = true → k = task
  yielding : ∀ {k d t connections winner},
    m.tasks.get? k = some (.yielding d t connections winner) → m.entries.get? t = some winner
  given : ∀ {k outcome id}, m.outcomes.get? k = some outcome → outcome.pool? = some id →
    ∃ r t, log.lookup k = some r ∧ r.wants t = true ∧ id < m.pools.length ∧
      (m.entries.get? t = some id ∨ m.Gone id)

namespace Orderly

lemma new (c : Config) (task : TaskId) : Orderly (Manager.new c) [] task := by
  constructor <;> intros <;> contradiction

lemma spared (hs : m.Spared m') (h : Orderly m log task) : Orderly m' log task := by
  constructor
  · intro k r hr
    exact (h.started hr).trans_le hs.nextTask
  · intro k s d t hk hd hparent
    rcases hs.tasks hk with hk | hq
    · exact h.asked hk hd hparent
    · exact absurd hparent (Stage.parent?_ne_none_of_isQueued hq hd)
  · intro k s hk hc
    rcases hs.tasks hk with hk | hq
    · exact h.closing hk hc
    · rw [Stage.isClosing_of_isQueued hq] at hc
      cases hc
  · intro k d t connections winner hk
    rw [hs.entries]
    rcases hs.tasks hk with hk | hq
    · exact h.yielding hk
    · cases hq
  · intro k outcome id hout hpool
    rw [hs.outcomes] at hout
    obtain ⟨r, t, hr, hw, hid, hentry⟩ := h.given hout hpool
    refine ⟨r, t, hr, hw, hid.trans_le hs.length_pools.ge, ?_⟩
    simpa only [Gone, hs.entries] using hentry

/-- A task that no other one has started goes with a request. -/
lemma lookup_origin (h : Orderly m log task) (ho : e.origin? m = some (k, o)) {d : Demand}
    (hd : o.demand? = some (d, t)) (hparent : d.parent? = none) :
    ∃ r, (log ++ (e.request? m).toList).lookup k = some r ∧ r.wants t = true := by
  cases Event.Drives.of_origin? ho with
  | call request =>
    have hnone : log.lookup m.nextTask = none := by
      cases hr : log.lookup m.nextTask with
      | none => rfl
      | some r => exact absurd (h.started hr) (lt_irrefl _)
    refine ⟨request, ?_, ?_⟩
    · simp [List.lookup_append, hnone, Event.request?]
    · cases request <;> simp_all [Origin.demand?, Request.wants]
  | resume a hs =>
    obtain ⟨r, hr, hw⟩ := h.asked hs hd hparent
    exact ⟨r, by simp [List.lookup_append, hr], hw⟩

/-- A request that gets a pool gets the one that the tenant then has. -/
lemma granted (hr : Regular m) (h : Orderly m log task) (ht : Turn m e m')
    (hafter : m'.outcomes.get? k = some outcome) (hpool : outcome.pool? = some id) :
    m.outcomes.get? k = some outcome ∨
    (∃ o, e.origin? m = some (k, o)) ∧
      ∃ r t, (log ++ (e.request? m).toList).lookup k = some r ∧ r.wants t = true ∧
        m'.entries.get? t = some id := by
  cases ht with
  | @act _ m₀ k' o _ ho q _ hat hm =>
    by_cases hk : k = k'
    · subst hk
      have hnone : m₀.outcomes.get? k = none := by rw [q.outcomes, hr.outcomes_eq_none ho]
      obtain ⟨d, t, hd, hparent, hentry⟩ := hm.granted hnone hafter hpool
      obtain ⟨r, hlookup, hw⟩ := h.lookup_origin ho hd hparent
      refine .inr ⟨⟨o, ho⟩, r, t, hlookup, hw, ?_⟩
      rcases hentry with hentry | ⟨heq, connections, rfl⟩
      · exact hentry
      · rw [heq]
        exact (h.spared q.spared).yielding hat
    · rw [hm.outcomes_other hk, q.outcomes] at hafter
      exact .inl hafter
  | aside _ q => exact .inl (q.outcomes ▸ hafter)
  | acquire | release | drop | cancel => exact .inl hafter

lemma lookup_append_of_some {r : Request} (h : log.lookup k = some r)
    (more : List (TaskId × Request)) : (log ++ more).lookup k = some r := by
  rw [List.lookup_append, h, Option.some_or]

/-- A request that is not known yet comes in. -/
lemma lookup_append_request {r : Request}
    (h : (log ++ (e.request? m).toList).lookup k = some r) :
    log.lookup k = some r ∨ e.origin? m = some (k, .call r) := by
  rw [List.lookup_append] at h
  cases hold : log.lookup k with
  | some r' =>
    rw [hold, Option.some_or] at h
    exact .inl h
  | none =>
    rw [hold, Option.none_or] at h
    obtain ⟨before, after, heq, -⟩ := List.lookup_eq_some_iff.1 h
    have hmem : (k, r) ∈ (e.request? m).toList := by simp [heq]
    exact .inr (origin?_of_request? (Option.mem_toList.1 hmem))

lemma given_turn (hr : Regular m) (h : Orderly m log task) (ht : Turn m e m')
    (hafter : m'.outcomes.get? k = some outcome) (hpool : outcome.pool? = some id) :
    ∃ r t, (log ++ (e.request? m).toList).lookup k = some r ∧ r.wants t = true ∧
      id < m'.pools.length ∧ (m'.entries.get? t = some id ∨ m'.Gone id) := by
  rcases h.granted hr ht hafter hpool with hbefore | ⟨-, r, t, hlookup, hw, hentry⟩
  · obtain ⟨r, t, hlookup, hw, hid, hentry⟩ := h.given hbefore hpool
    refine ⟨r, t, lookup_append_of_some hlookup _, hw, hid.trans_le ht.length_pools_le, ?_⟩
    rcases hentry with hentry | hgone
    · exact ht.entry_or_gone hr.mapped hentry
    · exact .inr (ht.gone hid hgone)
  · exact ⟨r, t, hlookup, hw, (hr.turn ht).mapped.lt_length hentry, .inl hentry⟩

/-- If only the one task is reached, it alone may come to wait for connections to be closed. -/
theorem step (hr : Regular m) (h : Orderly m log task)
    (honly : ∀ k o, e.origin? m = some (k, o) → k = task) :
    Orderly (m.step e) (log ++ (e.request? m).toList) task := by
  have ht := Turn.of_step hr.fresh e
  cases ho : e.origin? m with
  | none =>
    have hrequest : e.request? m = none := by
      cases e with
      | call => cases ho
      | _ => rfl
    rw [hrequest, Option.toList_none, List.append_nil]
    exact h.spared (ht.spared ho)
  | some reached =>
    obtain ⟨k₀, o⟩ := reached
    obtain ⟨m₀, q, hlt, hat, hm⟩ := Move.of_step hr.fresh ho
    obtain rfl := honly k₀ o ho
    have h₀ := h.spared q.spared
    refine ⟨?_, ?_, ?_, ?_, fun hafter hpool => h.given_turn hr ht hafter hpool⟩
    · intro k r hlookup
      rcases lookup_append_request hlookup with hlookup | hcall
      · exact (h₀.started hlookup).trans_le hm.nextTask_le
      · rw [ho, Option.some.injEq, Prod.mk.injEq] at hcall
        exact hcall.1 ▸ hlt.trans_le hm.nextTask_le
    · intro k s d t hs hd hparent
      rcases hm.get?_cases hs with hs | hqueued | ⟨rfl, hreach⟩
      · obtain ⟨r, hlookup, hw⟩ := h₀.asked hs hd hparent
        exact ⟨r, lookup_append_of_some hlookup _, hw⟩
      · exact absurd hparent (Stage.parent?_ne_none_of_isQueued hqueued hd)
      · exact h.lookup_origin ho (hreach.demand_eq hd hparent) hparent
    · intro k s hs hc
      rcases hm.get?_cases hs with hs | hqueued | ⟨rfl, -⟩
      · exact h₀.closing hs hc
      · rw [Stage.isClosing_of_isQueued hqueued] at hc
        cases hc
      · rfl
    · intro k d t connections winner hs
      have hk : k = k₀ := by
        rcases hm.get?_cases hs with hs | hqueued | ⟨rfl, -⟩
        · exact h₀.closing hs rfl
        · cases hqueued
        · rfl
      subst hk
      rcases hm.entry_of_yielding hs with heq | hentry
      · rw [heq] at hs ⊢
        exact h₀.yielding hs
      · exact hentry

/-- When no task waits for connections to be closed, any may be the one that does next. -/
lemma of_settled (h : Orderly m log task) (hs : m.Settled) (task' : TaskId) :
    Orderly m log task' := by
  refine ⟨h.started, h.asked, fun hk hc => ?_, h.yielding, h.given⟩
  rw [hs _ _ hk] at hc
  cases hc

end Orderly

/-- After an event and all that it brings to an end at once, a request that has got a pool since has
got the one that its tenant has. -/
structure Granted (m₀ m : Manager) (log : List (TaskId × Request)) (task : TaskId) : Prop where
  regular : Regular m
  orderly : Orderly m log task
  granted : ∀ {k outcome id}, m.outcomes.get? k = some outcome → outcome.pool? = some id →
    m₀.outcomes.get? k = some outcome ∨ k = task ∧
      ∃ r t, log.lookup k = some r ∧ r.wants t = true ∧ m.entries.get? t = some id

namespace Granted

variable {m₀ : Manager}

/-- The task goes on as long as it waits for connections to be closed, and so it has no outcome
before. -/
lemma of_closed (h : Granted m₀ m log task) (hs : m.tasks.get? k = some s)
    (hc : s.isClosing = true) : Granted m₀ (m.step (.resume k .closed)) log task := by
  obtain rfl := h.orderly.closing hs hc
  have honly : ∀ k' o, (Event.resume k .closed).origin? m = some (k', o) → k' = k := by
    intro k' o ho
    cases Event.Drives.of_origin? ho
    rfl
  have ht := Turn.of_step h.regular.fresh (.resume k .closed)
  have hlog : log ++ ((Event.resume k .closed).request? m).toList = log := List.append_nil log
  have horderly := h.orderly.step h.regular honly
  rw [hlog] at horderly
  refine ⟨h.regular.turn ht, horderly, fun hafter hpool => ?_⟩
  rcases h.orderly.granted h.regular ht hafter hpool with
    hbefore | ⟨⟨o, ho⟩, r, t, hlookup, hw, hentry⟩
  · rcases h.granted hbefore hpool with hold | ⟨rfl, -⟩
    · exact .inl hold
    · rw [h.regular.pending _ _ hs] at hbefore
      cases hbefore
  · rw [hlog] at hlookup
    exact .inr ⟨honly _ o ho, r, t, hlookup, hw, hentry⟩

lemma of_settle (h : Granted m₀ m log task) : Granted m₀ m.settle log task :=
  settle_induction (I := fun m => Granted m₀ m log task) (fun _ _ _ h hs hc => h.of_closed hs hc) h

/-- Any event may happen when no task waits for connections to be closed. -/
lemma of_event (hr : Regular m) (h : Orderly m log task) (hs : m.Settled) (e : Event) :
    ∃ task', Granted m (m.step e).settle (log ++ (e.request? m).toList) task' := by
  have ht := Turn.of_step hr.fresh e
  obtain ⟨task', honly⟩ : ∃ task', ∀ k o, e.origin? m = some (k, o) → k = task' := by
    cases ho : e.origin? m with
    | none => exact ⟨0, nofun⟩
    | some reached =>
      refine ⟨reached.1, fun k o heq => ?_⟩
      rw [Option.some.inj heq]
  have h' := h.of_settled hs task'
  refine ⟨task', of_settle ⟨hr.turn ht, h'.step hr honly, fun hafter hpool => ?_⟩⟩
  rcases h'.granted hr ht hafter hpool with hbefore | ⟨⟨o, ho⟩, hgrant⟩
  · exact .inl hbefore
  · exact .inr ⟨honly _ o ho, hgrant⟩

end Granted

lemma regular_orderly_runInMemory (c : Config) (events : List Event) :
    ∃ task, Regular ((new c).runInMemory events) ∧
      Orderly ((new c).runInMemory events) ((new c).requestsInMemory events) task := by
  induction events using List.reverseRecOn with
  | nil => exact ⟨0, .new c, .new c 0⟩
  | append_singleton events e ih =>
    -- Between two events all tasks have settled, and so the next event may reach any of them.
    obtain ⟨task, hr, ho⟩ := ih
    obtain ⟨task', h⟩ := Granted.of_event hr ho (settled_runInMemory c events) e
    rw [runInMemory_append, requestsInMemory_append]
    refine ⟨task', h.regular, ?_⟩
    rw [requestsInMemory, requestsInMemory, List.append_nil]
    exact h.orderly

/-! ### Later on -/

lemma gone_runInMemory (hr : Regular m) (hid : id < m.pools.length) (hg : m.Gone id)
    (later : List Event) : (m.runInMemory later).Gone id := by
  have h := runInMemory_induction
    (I := fun m => Regular m ∧ id < m.pools.length ∧ m.Gone id) ?_ ⟨hr, hid, hg⟩ later
  · exact h.2.2
  · rintro m e ⟨hr, hid, hg⟩
    have ht := Turn.of_step hr.fresh e
    exact ⟨hr.turn ht, hid.trans_le ht.length_pools_le, ht.gone hid hg⟩

lemma entry_or_gone_runInMemory (hr : Regular m) (hid : id < m.pools.length)
    (h : m.entries.get? t = some id ∨ m.Gone id) (later : List Event) :
    (m.runInMemory later).entries.get? t = some id ∨ (m.runInMemory later).Gone id := by
  have h := runInMemory_induction
    (I := fun m => Regular m ∧ id < m.pools.length ∧ (m.entries.get? t = some id ∨ m.Gone id)) ?_
    ⟨hr, hid, h⟩ later
  · exact h.2.2
  · rintro m e ⟨hr, hid, h⟩
    have ht := Turn.of_step hr.fresh e
    refine ⟨hr.turn ht, hid.trans_le ht.length_pools_le, ?_⟩
    rcases h with hentry | hg
    · exact ht.entry_or_gone hr.mapped hentry
    · exact .inr (ht.gone hid hg)

/-- Whether at some time a request for the pool of a tenant had got this one. -/
def HandedOut (m : Manager) (events : List Event) (t : TenantId) (id : PoolId) : Prop :=
  ∃ past k r outcome, past <+: events ∧ (m.requestsInMemory past).lookup k = some r ∧
    r.wants t = true ∧ (m.runInMemory past).outcomes.get? k = some outcome ∧
    outcome.pool? = some id

lemma Request.eq_of_wants {r : Request} {t' : TenantId} (h : r.wants t = true)
    (h' : r.wants t' = true) : t = t' := by
  cases r <;> simp_all [wants]

/-- A pool that was handed out stays its tenant's until it is closed. -/
lemma HandedOut.entry {c : Config} {events : List Event} (h : HandedOut (new c) events t id)
    {p : Pool} (hp : ((new c).runInMemory events).pools[id]? = some p) (hopen : p.closed = false) :
    ((new c).runInMemory events).entries.get? t = some id := by
  obtain ⟨past, k, r, outcome, ⟨later, rfl⟩, hlookup, hw, hout, hpool⟩ := h
  obtain ⟨task, hr, ho⟩ := regular_orderly_runInMemory c past
  obtain ⟨r', t', hlookup', hw', hid, hentry⟩ := ho.given hout hpool
  rw [hlookup] at hlookup'
  cases hlookup'
  cases Request.eq_of_wants hw hw'
  have hlater := entry_or_gone_runInMemory hr hid hentry later
  rw [← runInMemory_append] at hlater
  rcases hlater with hentry | hg
  · exact hentry
  · obtain ⟨-, hlast, -⟩ := regular_orderly_runInMemory c (past ++ later)
    obtain ⟨t', ht', -⟩ := hlast.existsUnique_of_unclosed hp hopen
    exact absurd ht' (hg t')

/-- Over a backend in memory, however tasks take turns: a pool that is not closed is the one of
exactly one tenant, and one that is closed is no tenant's; pools in use have the records of their
tenants, if these come from a store in which the tenants were created; a pool that is gone does not
come back; whatever happens next, a request gets the pool that its tenant then has, and which is not
closed; and of all the pools that requests for a tenant ever got, one is not closed at most. -/
theorem one_live_pool (c : Config) (events : List Event) :
    let m := (new c).runInMemory events
    (∀ id p, m.pools[id]? = some p →
      (p.closed = false → ∃! t, m.entries.get? t = some id) ∧ (p.closed = true → m.Gone id)) ∧
    ((new c).FromStore events → ∀ t id p, m.entries.get? t = some id → m.pools[id]? = some p →
      p.tenant.id = t) ∧
    (∀ id < m.pools.length, m.Gone id → ∀ later, (m.runInMemory later).Gone id) ∧
    (∀ e k outcome id, m.outcomes.get? k = none →
      (m.step e).settle.outcomes.get? k = some outcome → outcome.pool? = some id →
      ∃ r t, ((new c).requestsInMemory (events ++ [e])).lookup k = some r ∧ r.wants t = true ∧
        (m.step e).settle.Serves t id) ∧
    (∀ t id id' p p', HandedOut (new c) events t id → HandedOut (new c) events t id' →
      m.pools[id]? = some p → m.pools[id']? = some p' → p.closed = false → p'.closed = false →
      id = id') := by
  intro m
  obtain ⟨task, hr, ho⟩ := regular_orderly_runInMemory c events
  refine ⟨?_, ?_, ?_, ?_, ?_⟩
  · exact fun id p hp => ⟨hr.existsUnique_of_unclosed hp, hr.gone_of_closed hp⟩
  · intro hstore t id p hentry hp
    have hnew : Named (new c) := by
      constructor <;> intros <;> contradiction
    have hnamed := named_runInMemory (fresh_new c) (mapped_run c []) hnew hstore
    refine hnamed.pools hentry ?_
    rw [List.getElem?_map, hp]
    rfl
  · exact fun id hid hg later => gone_runInMemory hr hid hg later
  · intro e k outcome id hbefore hafter hpool
    obtain ⟨task', h⟩ := Granted.of_event hr ho (settled_runInMemory c events) e
    rcases h.granted hafter hpool with hold | ⟨-, r, t, hlookup, hw, hentry⟩
    · rw [hbefore] at hold
      cases hold
    · refine ⟨r, t, ?_, hw, hentry, h.regular.mapped.exists_unclosed hentry⟩
      rwa [requestsInMemory_append, requestsInMemory, requestsInMemory, List.append_nil]
  · intro t id id' p p' h h' hp hp' hopen hopen'
    have hentry := h.entry hp hopen
    have hentry' := h'.entry hp' hopen'
    exact Option.some.inj (hentry.symm.trans hentry')

/-- A store in which `acme` was created. -/
def acmeCreated : Store.History := .next .start (.create "acme" 0 acme)

lemma sized_acme : acme.Sized := ⟨by decide, by decide, by decide⟩

lemma require_acmeCreated : acmeCreated.store.require "acme" = .ok acme := by
  rw [Store.require_eq_ok_iff, Store.get_eq_ok_some_iff]
  refine ⟨acme.text, rfl, Store.decode_eq_ok_iff.2 ?_⟩
  rw [Tenant.ofText?_text sized_acme]
  rfl

lemma fromStore_acme {m : Manager} {k : TaskId} {d : Demand}
    (h : m.tasks.get? k = some (.lookingUp d "acme")) :
    (Event.resume k (.tenant (.ok acme))).FromStore m := by
  intro d' t ht
  rw [h] at ht
  cases ht
  exact ⟨acmeCreated, .next .start ⟨Nat.zero_le _, sized_acme⟩, require_acmeCreated⟩

/-- A pool is closed because its tenant is retired, and then lent anew. -/
def retiredThenLeased : List Event :=
  .call (.get "acme") :: acmeOpens 0 ++ .call (.retire "acme" "moved") ::
    .call (.lease "acme") :: acmeOpens 2

/-- The first pool that was handed out is closed and gone, and the second one is the tenant's. -/
theorem one_live_pool_retiredThenLeased :
    let start := new (.new "app" "secret")
    let m := start.runInMemory retiredThenLeased
    start.FromStore retiredThenLeased ∧ m.pools.map Pool.closed = [true, false] ∧
      HandedOut start retiredThenLeased "acme" 0 ∧ HandedOut start retiredThenLeased "acme" 1 ∧
      (∀ later, (m.runInMemory later).Gone 0) ∧
      (∃! t, m.entries.get? t = some 1) ∧ (∀ p, m.pools[1]? = some p → p.tenant.id = "acme") ∧
      (∀ id p, HandedOut start retiredThenLeased "acme" id → m.pools[id]? = some p →
        p.closed = false → id = 1) ∧
      ∃ t, (m.step (.call (.get "acme"))).settle.Serves t 1 := by
  have hstore : (new (.new "app" "secret")).FromStore retiredThenLeased :=
    ⟨trivial, fromStore_acme (d := .get) rfl, trivial, trivial, trivial, trivial,
      fromStore_acme (d := .lease) rfl, trivial, trivial, trivial⟩
  have hfirst : HandedOut (new (.new "app" "secret")) retiredThenLeased "acme" 0 :=
    ⟨retiredThenLeased.take 4, 0, .get "acme", .pool 0, List.take_prefix _ _, by decide +kernel,
      rfl, by decide +kernel, rfl⟩
  have hsecond : HandedOut (new (.new "app" "secret")) retiredThenLeased "acme" 1 :=
    ⟨retiredThenLeased, 2, .lease "acme", .leased 1, List.prefix_refl _, by decide +kernel, rfl,
      by decide +kernel, rfl⟩
  have hclosed : ((new (.new "app" "secret")).runInMemory retiredThenLeased).pools.map
      Pool.closed = [true, false] := by decide +kernel
  have hentry : ((new (.new "app" "secret")).runInMemory retiredThenLeased).entries.get? "acme" =
      some 1 := by decide +kernel
  have hserved := (one_live_pool (.new "app" "secret") retiredThenLeased).2.2.2.1
    (.call (.get "acme")) 3 (.pool 1) 1 (by decide +kernel) (by decide +kernel) rfl
  obtain ⟨hpools, hids, hgone, -, hone⟩ := one_live_pool (.new "app" "secret") retiredThenLeased
  intro start m
  obtain ⟨p, rest, hm, hp, hrest⟩ := List.map_eq_cons_iff.1 hclosed
  obtain ⟨p', rest', rfl, hp', -⟩ := List.map_eq_cons_iff.1 hrest
  have hget : m.pools[0]? = some p := congrArg (·[0]?) hm
  have hget' : m.pools[1]? = some p' := congrArg (·[1]?) hm
  have hlt : 0 < m.pools.length := (List.getElem?_eq_some_iff.1 hget).1
  refine ⟨hstore, hclosed, hfirst, hsecond, hgone 0 hlt ((hpools 0 p hget).2 hp),
    (hpools 1 p' hget').1 hp', fun q hq => hids hstore _ _ q hentry hq, ?_, ?_⟩
  · exact fun id q hq hget hopen => hone _ _ _ q p' hq hsecond hget hget' hopen hp'
  · obtain ⟨-, t, -, -, hserves⟩ := hserved
    exact ⟨t, hserves⟩

end Tenancy.Manager
