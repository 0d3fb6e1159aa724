import Tenancy.Proofs.Manager.Run

/-!
# Pools in use

A pool is in use as long as it is entered for a tenant. `Move.entryChange` says how a move can
change which pools are in use. `mapped_run`: in every run the pools in use are those that are not
closed, and no pool is entered for two tenants.
-/

namespace Tenancy.Manager

/-! ### What one move does -/

/-- How a move changes which pools are in use. -/
inductive EntryChange (m : Manager) (o : Origin) (m' : Manager) : Prop
  | kept (h : ∀ t, m'.entries.get? t = m.entries.get? t)
  | entered {d t record connections deadline}
      (ho : o = .stage (.pinging d t record connections deadline))
      (hnone : m.entries.get? t = none) (he : m'.entries = m.entries.insert t m.pools.length)
  | closed {m₁ t id next} (q : m.Quiet m₁) (ht : m.entries.get? t = some id)
      (hw : Warrants m₁ t id o next) (he : m'.entries = m.entries.erase t)

lemma Move.entryChange {m m' : Manager} {task : TaskId} {o : Origin} (h : Move m task o m') :
    EntryChange m o m' := by
  cases h with
  | stay => exact .kept fun _ => rfl
  | wait q _ | leave q _ | finish q _ _ | report q _ | reserve q _ _ _ _ _ | yield q _ _
  | hand q _ _ _ | lend q _ _ _ => exact .kept fun t => congrArg (·.get? t) q.entries
  | @giveUp _ d _ _ q _ _ => cases d <;> exact .kept fun t => congrArg (·.get? t) q.entries
  | @enter m₁ d t record connections _ q ho hnone _ =>
    have he : (m₁.enroll t record connections).entries = m.entries.insert t m.pools.length := by
      rw [enroll, q.entries, q.length_pools]
    rw [q.entries] at hnone
    rw [deliver_enroll]
    cases d <;> exact .entered ho hnone he
  | @withdraw m₁ d t record connections _ _ q _ hnone _ =>
    -- The pool is taken out again before the task waits.
    refine .kept fun t' => ?_
    rw [q.entries] at hnone
    simp only [Manager.beginClose, enroll, modifyPool, giveSlot, await, Assoc.get?_erase,
      Assoc.get?_insert, q.entries]
    split_ifs with heq
    · rw [heq, hnone]
    · rfl
  | @close m₁ t id reason next q _ ht hw =>
    have he : (m₁.beginClose task t id reason next).entries = m.entries.erase t := by
      simp only [Manager.beginClose, modifyPool, giveSlot, await, q.entries]
    exact .closed q (q.entries ▸ ht) hw he

/-! ### Pools that are not closed -/

/-- The pools that are not closed are those that are entered, each for one tenant. -/
structure Mapped (entries : Assoc TenantId PoolId) (pools : List Pool) : Prop where
  injective : ∀ {t t' id}, entries.get? t = some id → entries.get? t' = some id → t = t'
  exists_pool : ∀ {t id}, entries.get? t = some id → ∃ p, pools[id]? = some p
  unclosed_iff : ∀ {id p}, pools[id]? = some p →
    (p.closed = false ↔ ∃ t, entries.get? t = some id)

variable {m m₁ m' : Manager} {task : TaskId} {o : Origin}

namespace Mapped

/-- A pool in use is not closed. -/
lemma exists_unclosed {entries : Assoc TenantId PoolId} {pools : List Pool}
    (h : Mapped entries pools) {t : TenantId} {id : PoolId} (ht : entries.get? t = some id) :
    ∃ p, pools[id]? = some p ∧ p.closed = false := by
  obtain ⟨p, hp⟩ := h.exists_pool ht
  exact ⟨p, hp, (h.unclosed_iff hp).2 ⟨t, ht⟩⟩

lemma lt_length {entries : Assoc TenantId PoolId} {pools : List Pool} (h : Mapped entries pools)
    {t : TenantId} {id : PoolId} (ht : entries.get? t = some id) : id < pools.length := by
  obtain ⟨p, hp⟩ := h.exists_pool ht
  exact (List.getElem?_eq_some_iff.1 hp).1

/-- Only whether pools are closed matters, and not how they are used. -/
lemma of_closed_eq {entries : Assoc TenantId PoolId} {pools pools' : List Pool}
    (h : Mapped entries pools) (hp : pools'.map Pool.closed = pools.map Pool.closed) :
    Mapped entries pools' := by
  have hget : ∀ id : PoolId, (pools'[id]?).map Pool.closed = (pools[id]?).map Pool.closed := by
    intro id
    rw [← List.getElem?_map, ← List.getElem?_map, hp]
  constructor
  · exact h.injective
  · intro t id ht
    obtain ⟨p, hp⟩ := h.exists_pool ht
    have := hget id
    rw [hp, Option.map_some, Option.map_eq_some_iff] at this
    obtain ⟨p', hp', -⟩ := this
    exact ⟨p', hp'⟩
  · intro id p' hp'
    have := hget id
    rw [hp', Option.map_some] at this
    obtain ⟨p, hp, hclosed⟩ := Option.map_eq_some_iff.1 this.symm
    rw [← hclosed]
    exact h.unclosed_iff hp

lemma quiet (q : m.Quiet m₁) (h : Mapped m.entries m.pools) : Mapped m₁.entries m₁.pools := by
  rw [q.entries]
  apply h.of_closed_eq
  have := congrArg (List.map fun s => s.2.2.2) q.pools
  simpa only [List.map_map, Function.comp_def, Pool.standing] using this

/-- A change of one pool that does not close it. -/
lemma modify {entries : Assoc TenantId PoolId} {pools : List Pool} (h : Mapped entries pools)
    (id : PoolId) {f : Pool → Pool} (hf : ∀ p, (f p).closed = p.closed) :
    Mapped entries (pools.modify id f) := by
  apply h.of_closed_eq
  apply List.ext_getElem?
  intro i
  simp only [List.getElem?_map, List.getElem?_modify]
  cases pools[i]? with
  | none => rfl
  | some p => by_cases hi : id = i <;> simp [hi, hf]

lemma enroll (h : Mapped m.entries m.pools) {t : TenantId} (hnone : m.entries.get? t = none)
    (record : Tenant) (connections : ConnectionsId) :
    Mapped (m.enroll t record connections).entries (m.enroll t record connections).pools := by
  simp only [Manager.enroll]
  have hlt : ∀ {t' id}, m.entries.get? t' = some id → id ≠ m.pools.length :=
    fun ht => (h.lt_length ht).ne
  constructor
  · intro t₁ t₂ id h₁ h₂
    rw [Assoc.get?_insert] at h₁ h₂
    split_ifs at h₁ h₂ with e₁ e₂ e₂
    · rw [e₁, e₂]
    · cases h₁
      exact absurd rfl (hlt h₂)
    · cases h₂
      exact absurd rfl (hlt h₁)
    · exact h.injective h₁ h₂
  · intro t' id ht
    rw [Assoc.get?_insert] at ht
    split_ifs at ht with e
    · cases ht
      exact ⟨_, List.getElem?_concat_length⟩
    · obtain ⟨p, hp⟩ := h.exists_pool ht
      exact ⟨p, by rw [List.getElem?_append_left (h.lt_length ht), hp]⟩
  · intro id p hp
    rcases Nat.lt_or_ge id m.pools.length with hid | hid
    · rw [List.getElem?_append_left hid] at hp
      rw [h.unclosed_iff hp]
      constructor
      · rintro ⟨t', ht'⟩
        refine ⟨t', ?_⟩
        rw [Assoc.get?_insert, if_neg, ht']
        rintro rfl
        rw [hnone] at ht'
        cases ht'
      · rintro ⟨t', ht'⟩
        rw [Assoc.get?_insert] at ht'
        split_ifs at ht'
        · cases ht'
          exact absurd hid (lt_irrefl _)
        · exact ⟨t', ht'⟩
    · rw [List.getElem?_append_right hid, List.getElem?_singleton] at hp
      split_ifs at hp with hzero
      cases hp
      have hid : id = m.pools.length := Nat.le_antisymm (Nat.sub_eq_zero_iff_le.1 hzero) hid
      subst hid
      exact ⟨fun _ => ⟨t, by rw [Assoc.get?_insert, if_pos rfl]⟩, fun _ => rfl⟩

lemma beginClose (h : Mapped m.entries m.pools) {t : TenantId} {id : PoolId}
    (ht : m.entries.get? t = some id) (task : TaskId) (reason : String) (next : Next) :
    Mapped (m.beginClose task t id reason next).entries
      (m.beginClose task t id reason next).pools := by
  simp only [Manager.beginClose, Manager.modifyPool, Manager.giveSlot, Manager.await]
  have hother : ∀ {t' id'}, (m.entries.erase t).get? t' = some id' →
      m.entries.get? t' = some id' ∧ id' ≠ id := by
    intro t' id' ht'
    rw [Assoc.get?_erase] at ht'
    split_ifs at ht' with hne
    exact ⟨ht', fun heq => hne (h.injective ht' (heq ▸ ht))⟩
  constructor
  · intro t₁ t₂ id' h₁ h₂
    exact h.injective (hother h₁).1 (hother h₂).1
  · intro t' id' ht'
    obtain ⟨p, hp⟩ := h.exists_pool (hother ht').1
    rw [List.getElem?_modify, hp]
    exact ⟨_, rfl⟩
  · intro id' p' hp'
    rw [List.getElem?_modify] at hp'
    obtain ⟨p, hp, rfl⟩ := Option.map_eq_some_iff.1 hp'
    by_cases heq : id = id'
    · subst heq
      simp only [if_true, Bool.true_eq_false, false_iff, not_exists]
      intro t' ht'
      exact (hother ht').2 rfl
    · rw [if_neg heq, h.unclosed_iff hp]
      constructor
      · rintro ⟨t', ht'⟩
        refine ⟨t', ?_⟩
        rw [Assoc.get?_erase, if_neg, ht']
        rintro rfl
        rw [ht] at ht'
        exact heq (Option.some.inj ht')
      · rintro ⟨t', ht'⟩
        exact ⟨t', (hother ht').1⟩

lemma lend (h : Mapped m.entries m.pools) (task : TaskId) (id : PoolId) :
    Mapped (m.lend task id).entries (m.lend task id).pools :=
  h.modify id fun _ => rfl

lemma move (hm : Move m task o m') (h : Mapped m.entries m.pools) :
    Mapped m'.entries m'.pools := by
  cases hm with
  | stay => exact h
  | wait q _ | leave q _ | finish q _ _ | report q _ | reserve q _ _ _ _ _ | yield q _ _
  | hand q _ _ _ =>
    have hq := h.quiet q
    exact hq
  | @giveUp _ d _ _ q _ _ =>
    have hq := h.quiet q
    cases d <;> exact hq
  | lend q _ _ _ => exact (h.quiet q).lend _ _
  | @enter m₁ d t record connections _ q _ hnone _ =>
    have he := (h.quiet q).enroll hnone record connections
    rw [Move.deliver_enroll]
    cases d with
    | get | warm => exact he
    | lease => exact he.lend _ _
  | @withdraw m₁ d t record connections _ _ q _ hnone _ =>
    have he := (h.quiet q).enroll hnone record connections
    exact he.beginClose (by simp [Manager.enroll, Assoc.get?_insert]) _ _ _
  | close q _ ht _ => exact (h.quiet q).beginClose ht _ _ _

lemma turn {e : Event} (ht : Turn m e m') (h : Mapped m.entries m.pools) :
    Mapped m'.entries m'.pools := by
  cases ht with
  | act _ q _ _ hm => exact (h.quiet q).move hm
  | aside _ q => exact h.quiet q
  | acquire id | release id | drop _ => exact h.modify _ fun _ => rfl
  | cancel => exact h

end Mapped

/-- In every run the pools in use are those that are not closed, each entered for one tenant. -/
theorem mapped_run (c : Config) (events : List Event) :
    Mapped ((new c).run events).entries ((new c).run events).pools := by
  refine run_induction (I := fun m => Mapped m.entries m.pools) (A := fun _ => True)
    (fun ht _ h _ => h.turn ht) (fresh_new c) ?_ fun _ _ => trivial
  constructor <;> intros <;> contradiction

end Tenancy.Manager
