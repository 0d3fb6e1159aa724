import Tenancy.Proofs.Manager.Closing
import Tenancy.Proofs.Manager.Leases
import Tenancy.Proofs.Manager.ShutdownGate
import Tenancy.Proofs.Manager.StatusGate

/-!
# Pools that are given to requests

A request for a pool gets the one that its tenant has at that moment, or the one that was the
tenant's when its own connections came too late, `Move.granted`. A pool is entered once, under an
identifier that no other one had, so that one that was taken out of use does not come back,
`Turn.gone`, and one that was given to a request stays its tenant's until then.
-/

namespace Tenancy.Manager

variable {m m₁ m' : Manager} {task k : TaskId} {o : Origin} {e : Event} {s : Stage}
  {t : TenantId} {id : PoolId} {outcome : Outcome}

/-- The pool that a request got. -/
def Outcome.pool? : Outcome → Option PoolId
  | .pool id | .leased id => some id
  | _ => none

/-- Whether a pool is no tenant's. -/
def Gone (m : Manager) (id : PoolId) : Prop := ∀ t, m.entries.get? t ≠ some id

lemma Outcome.isGrant_of_pool? (h : outcome.pool? = some id) : outcome.isGrant = true := by
  cases outcome <;> simp_all [pool?, isGrant]

/-! ### Pools keep their tenants -/

lemma tenants_modify (pools : List Pool) (id : PoolId) {f : Pool → Pool}
    (hf : ∀ p, (f p).tenant = p.tenant) :
    (pools.modify id f).map Pool.tenant = pools.map Pool.tenant := by
  apply List.ext_getElem?
  intro i
  simp only [List.getElem?_map, List.getElem?_modify]
  cases pools[i]? with
  | none => rfl
  | some p => by_cases h : id = i <;> simp [h, hf]

lemma tenants_lend (m : Manager) (task : TaskId) (id : PoolId) :
    (m.lend task id).pools.map Pool.tenant = m.pools.map Pool.tenant :=
  tenants_modify m.pools id fun _ => rfl

lemma tenants_beginClose (m : Manager) (task : TaskId) (t : TenantId) (id : PoolId)
    (reason : String) (next : Next) :
    (m.beginClose task t id reason next).pools.map Pool.tenant = m.pools.map Pool.tenant :=
  tenants_modify m.pools id fun _ => rfl

lemma Quiet.tenants (q : m.Quiet m₁) : m₁.pools.map Pool.tenant = m.pools.map Pool.tenant := by
  have hpools := congrArg (List.map fun s => s.1) q.pools
  simpa only [List.map_map, Function.comp_def, Pool.standing] using hpools

/-- Every pool keeps the record of its tenant. A task that tries connections may add a pool with the
record that it has looked up. -/
lemma Move.tenants (h : Move m task o m') :
    m'.pools.map Pool.tenant = m.pools.map Pool.tenant ∨
    ∃ d t record connections deadline, o = .stage (.pinging d t record connections deadline) ∧
      m'.pools.map Pool.tenant = m.pools.map Pool.tenant ++ [record] := by
  cases h with
  | stay => exact .inl rfl
  | wait q _ | leave q _ | finish q _ _ | report q _ | reserve q _ _ _ _ _ | yield q _ _
  | hand q _ _ _ => exact .inl q.tenants
  | @giveUp _ d _ _ q _ _ => cases d <;> exact .inl q.tenants
  | lend q _ _ _ => exact .inl ((tenants_lend _ _ _).trans q.tenants)
  | close q _ _ _ => exact .inl ((tenants_beginClose _ _ _ _ _ _).trans q.tenants)
  | @enter m₁ d t record connections deadline q ho _ _ =>
    have hadded : (m₁.enroll t record connections).pools.map Pool.tenant =
        m.pools.map Pool.tenant ++ [record] := by
      simp [enroll, q.tenants, Pool.new]
    refine .inr ⟨d, t, record, connections, deadline, ho, ?_⟩
    rw [deliver_enroll]
    cases d with
    | get | warm => exact hadded
    | lease => exact (tenants_lend _ _ _).trans hadded
  | @withdraw m₁ d t record connections deadline reason q ho _ _ =>
    refine .inr ⟨d, t, record, connections, deadline, ho, ?_⟩
    rw [tenants_beginClose]
    simp [enroll, q.tenants, Pool.new]

lemma Turn.tenants (h : Turn m e m') :
    m'.pools.map Pool.tenant = m.pools.map Pool.tenant ∨
    ∃ task d t record connections deadline,
      e.origin? m = some (task, .stage (.pinging d t record connections deadline)) ∧
      m'.pools.map Pool.tenant = m.pools.map Pool.tenant ++ [record] := by
  cases h with
  | @act _ m₀ task o _ ho q _ _ hm =>
    rw [← q.tenants]
    rcases hm.tenants with h | ⟨d, t, record, connections, deadline, rfl, h⟩
    · exact .inl h
    · exact .inr ⟨task, d, t, record, connections, deadline, ho, h⟩
  | aside _ q => exact .inl q.tenants
  | acquire | release | drop => exact .inl (tenants_modify _ _ fun _ => rfl)
  | cancel => exact .inl rfl

lemma Turn.length_pools_le (h : Turn m e m') : m.pools.length ≤ m'.pools.length := by
  have hlength : ∀ pools : List Pool, pools.length = (pools.map Pool.tenant).length := by simp
  rw [hlength, hlength m'.pools]
  rcases h.tenants with h | ⟨_, _, _, _, _, _, _, h⟩
  · exact h.symm ▸ le_rfl
  · rw [h, List.length_append]
    exact Nat.le_add_right _ _

/-! ### Events that reach no task -/

/-- Pools in use, outcomes and the tenants of pools are as before, and there are no tasks but those
of before and some that wait for their turn. -/
structure Spared (m m' : Manager) : Prop where
  entries : m'.entries = m.entries
  outcomes : m'.outcomes = m.outcomes
  tenants : m'.pools.map Pool.tenant = m.pools.map Pool.tenant
  nextTask : m.nextTask ≤ m'.nextTask
  tasks : ∀ {k s}, m'.tasks.get? k = some s → m.tasks.get? k = some s ∨ s.isQueued = true

lemma Quiet.spared (q : m.Quiet m₁) : m.Spared m₁ := by
  refine ⟨q.entries, q.outcomes, q.tenants, q.nextTask, fun hs => ?_⟩
  rcases q.get?_or_queued hs with hs | ⟨-, hq⟩
  · exact .inl hs
  · exact .inr hq

lemma Turn.spared (h : Turn m e m') (ho : e.origin? m = none) : m.Spared m' := by
  cases h with
  | act ho' => simp [ho] at ho'
  | aside _ q => exact q.spared
  | acquire | release | drop => exact ⟨rfl, rfl, tenants_modify _ _ fun _ => rfl, le_rfl, .inl⟩
  | cancel =>
    refine ⟨rfl, rfl, rfl, le_rfl, fun hs => ?_⟩
    simp only [Assoc.get?_filter] at hs
    exact .inl (Option.eq_some_of_filter_eq_some hs)

lemma Spared.length_pools (h : m.Spared m') : m'.pools.length = m.pools.length := by
  simpa only [List.length_map] using congrArg List.length h.tenants

/-! ### Pools that are gone -/

lemma EntryChange.quiet (q : m.Quiet m₁) (h : EntryChange m₁ o m') : EntryChange m o m' := by
  cases h with
  | kept h => exact .kept fun t => (h t).trans (congrArg (·.get? t) q.entries)
  | entered ho hnone he =>
    rw [q.entries] at hnone
    rw [q.entries, q.length_pools] at he
    exact .entered ho hnone he
  | closed q' ht hw he =>
    rw [q.entries] at ht he
    exact .closed (q.trans q') ht hw he

lemma Turn.entryChange (h : Turn m e m') : ∃ o, EntryChange m o m' := by
  cases h with
  | act _ q _ _ hm => exact ⟨_, hm.entryChange.quiet q⟩
  | aside _ q => exact ⟨.call .start, .kept fun t => congrArg (·.get? t) q.entries⟩
  | acquire | release | drop | cancel => exact ⟨.call .start, .kept fun _ => rfl⟩

/-- A pool that is gone does not come back. -/
lemma Turn.gone (h : Turn m e m') (hid : id < m.pools.length) (hg : m.Gone id) : m'.Gone id := by
  intro t
  obtain ⟨o, hc⟩ := h.entryChange
  cases hc with
  | kept h => exact h t ▸ hg t
  | entered _ _ he =>
    rw [he, Assoc.get?_insert]
    split_ifs
    · rw [Ne, Option.some.injEq]
      exact hid.ne'
    · exact hg t
  | closed _ _ _ he =>
    rw [he, Assoc.get?_erase]
    split_ifs
    · exact (Option.some_ne_none id).symm
    · exact hg t

/-- A pool stays its tenant's until it is gone. -/
lemma Turn.entry_or_gone (h : Turn m e m') (hmap : Mapped m.entries m.pools)
    (ht : m.entries.get? t = some id) : m'.entries.get? t = some id ∨ m'.Gone id := by
  obtain ⟨o, hc⟩ := h.entryChange
  cases hc with
  | kept h => exact .inl ((h t).trans ht)
  | @entered _ t' _ _ _ _ hnone he =>
    rw [he, Assoc.get?_insert, if_neg, ht]
    · exact .inl rfl
    · rintro rfl
      rw [hnone] at ht
      cases ht
  | @closed _ t' id' _ _ ht' _ he =>
    by_cases heq : t = t'
    · subst heq
      refine .inr fun t' => ?_
      rw [he, Assoc.get?_erase]
      split_ifs with hne
      · exact (Option.some_ne_none id).symm
      · exact fun h => hne (hmap.injective h ht)
    · rw [he, Assoc.get?_erase, if_neg heq]
      exact .inl ht

/-! ### What a request gets -/

/-- A request gets the pool that its tenant has when the request ends, or the one to which it had to
yield. -/
lemma Move.granted (h : Move m task o m') (hbefore : m.outcomes.get? task = none)
    (hafter : m'.outcomes.get? task = some outcome) (hpool : outcome.pool? = some id) :
    ∃ d t, o.demand? = some (d, t) ∧ d.parent? = none ∧
      (m'.entries.get? t = some id ∨
        m'.entries = m.entries ∧ ∃ connections, o = .stage (.yielding .get t connections id)) := by
  have hkept : ∀ {outcomes : Assoc TaskId Outcome}, outcomes = m.outcomes →
      outcomes.get? task ≠ some outcome := by
    rintro _ rfl
    rw [hbefore]
    exact nofun
  have hnoted : ∀ {outcomes : Assoc TaskId Outcome} {noted : Outcome},
      (outcomes.insert task noted).get? task = some outcome → noted = outcome := by
    intro outcomes noted h
    simpa [Assoc.get?_insert] using h
  cases h with
  | stay => exact absurd hafter (hkept rfl)
  | wait q _ | leave q _ | report q _ | reserve q _ _ _ _ _ | yield q _ _ | withdraw q _ _ _
  | close q _ _ _ => exact absurd hafter (hkept q.outcomes)
  | finish q _ hgrant =>
    rw [hnoted hafter, Outcome.isGrant_of_pool? hpool] at hgrant
    cases hgrant
  | @giveUp _ d _ _ q _ _ =>
    cases d with
    | get | lease =>
      cases hnoted hafter
      cases hpool
    | warm => exact absurd hafter (hkept q.outcomes)
  | @hand m₁ t _ q _ hd h =>
    cases hnoted hafter
    cases hpool
    refine ⟨.get, t, hd, rfl, ?_⟩
    rcases h with ⟨-, h⟩ | h
    · exact .inl h
    · exact .inr ⟨q.entries, h⟩
  | @lend m₁ t _ q _ hd h =>
    cases hnoted hafter
    cases hpool
    exact ⟨.lease, t, hd, rfl, .inl h⟩
  | @enter m₁ d t record connections _ q ho hnone _ =>
    have hentry : (m₁.enroll t record connections).entries.get? t = some m₁.pools.length := by
      simp [enroll, Assoc.get?_insert]
    rw [deliver_enroll] at hafter ⊢
    cases d with
    | get | lease =>
      cases hnoted hafter
      cases hpool
      exact ⟨_, t, by rw [ho]; rfl, rfl, .inl hentry⟩
    | warm => exact absurd hafter (hkept q.outcomes)

/-- A task that yields does so to the pool of the tenant. -/
lemma Move.entry_of_yielding (h : Move m task o m') {d : Demand} {connections : ConnectionsId}
    {winner : PoolId} (hs : m'.tasks.get? task = some (.yielding d t connections winner)) :
    m' = m ∨ m'.entries.get? t = some winner := by
  have hended : ∀ {tasks : Assoc TaskId Stage},
      (tasks.erase task).get? task ≠ some (.yielding d t connections winner) := by
    simp [Assoc.get?_erase]
  have hwaits : ∀ {tasks : Assoc TaskId Stage} {s : Stage},
      (tasks.insert task s).get? task = some (.yielding d t connections winner) →
      s = .yielding d t connections winner := by
    intro tasks s h
    simpa [Assoc.get?_insert] using h
  cases h with
  | stay => exact .inl rfl
  | wait q hl =>
    cases hwaits hs
    cases hl with
    | plain _ hplain => cases hplain
  | leave | finish | report | hand | lend => exact absurd hs hended
  | reserve | withdraw | close => cases hwaits hs
  | @giveUp _ d => cases d <;> exact absurd hs hended
  | yield q _ h =>
    cases hwaits hs
    exact .inr h
  | @enter _ d =>
    rw [deliver_enroll] at hs
    cases d <;> exact absurd hs hended

/-- A task that waits for the pool of a tenant, and not on behalf of another task, was asked for
it. -/
lemma Reaches.demand_eq (h : Reaches o s) {d : Demand} (hs : s.demand? = some (d, t))
    (hd : d.parent? = none) : o.demand? = some (d, t) := by
  cases h with
  | leads h =>
    cases h with
    | plain _ hplain =>
      cases s with
      | warmQueued parent t' =>
        cases hs
        cases hd
      | _ => simp_all [Stage.isPlain, Stage.demand?]
    | _ => exact hs
  | reserve h => exact h.trans hs
  | yield => exact hs
  | close => cases hs

end Tenancy.Manager
