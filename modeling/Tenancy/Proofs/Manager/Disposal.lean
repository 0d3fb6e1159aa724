import Tenancy.Proofs.Manager.Connections

/-!
# What becomes of pools

A pool that was put to use is in use until a task closes it, and then its connections are closed.
`disposed_run` says so of every run in which no task is cancelled, so that no pool is forgotten.
-/

namespace Tenancy.Manager

variable {m m₁ m' : Manager} {task : TaskId} {o : Origin} {s : Stage} {id : PoolId}
  {c : ConnectionsId}

/-- A pool is in use, or a task closes it. -/
def Retained (m : Manager) (id : PoolId) : Prop :=
  (∃ t, m.entries.get? t = some id) ∨
    ∃ k t reason next, m.tasks.get? k = some (.closing t id reason next)

/-- The connections of every pool were opened once, and are closed unless the pool is in use or a
task closes it. -/
def Disposed (m : Manager) : Prop :=
  ∀ id c, m.connectionsOf id = some c →
    c < m.ledger.all.length ∧ (m.ledger.isClosed c = true ∨ m.Retained id)

/-! ### What a move does to pools -/

lemma Quiet.retained (q : m.Quiet m₁) (h : m.Retained id) : m₁.Retained id := by
  rcases h with ⟨t, ht⟩ | ⟨k, t, reason, next, hk⟩
  · exact .inl ⟨t, q.entries ▸ ht⟩
  · exact .inr ⟨k, t, reason, next, q.get?_of_get? hk⟩

/-- A task that waits at a stage beside closing this pool closes no pool, or another one. -/
lemma Move.closing_other (h : Move m task o m') (hf : m.Fresh) (hat : o.At m task)
    (hne : ∀ t reason next, o ≠ .stage (.closing t id reason next)) {k : TaskId} {t : TenantId}
    {reason : String} {next : Next} (hk : m.tasks.get? k = some (.closing t id reason next)) :
    m'.tasks.get? k = some (.closing t id reason next) := by
  have hother : k ≠ task := by
    rintro rfl
    cases o with
    | call => exact absurd (hk.symm.trans hat) (by simp)
    | stage s =>
      have heq := Option.some.inj (hat.symm.trans hk)
      exact hne t reason next (congrArg Origin.stage heq)
  rw [h.get?_other hother (hf k _ hk), hk]

/-- A pool in use stays in use, or the task that takes it out closes it. -/
lemma Move.entry_retained (h : Move m task o m') {t : TenantId} (ht : m.entries.get? t = some id) :
    m'.Retained id := by
  cases h with
  | stay => exact .inl ⟨t, ht⟩
  | wait q _ | leave q _ | finish q _ _ | report q _ | reserve q _ _ _ _ _ | yield q _ _
  | hand q _ _ _ | lend q _ _ _ => exact .inl ⟨t, q.entries ▸ ht⟩
  | @giveUp _ d _ _ q _ _ => cases d <;> exact .inl ⟨t, q.entries ▸ ht⟩
  | @enter m₁ d t' record connections _ q _ hnone _ =>
    have hentry : (m₁.enroll t' record connections).entries.get? t = some id := by
      rw [enroll, Assoc.get?_insert, if_neg, q.entries, ht]
      rintro rfl
      rw [q.entries, ht] at hnone
      cases hnone
    rw [deliver_enroll]
    cases d <;> exact .inl ⟨t, hentry⟩
  | @withdraw m₁ d t' record connections _ reason q _ hnone _ =>
    refine .inl ⟨t, ?_⟩
    have hne : t ≠ t' := by
      rintro rfl
      rw [q.entries, ht] at hnone
      cases hnone
    simp only [beginClose, enroll, modifyPool, giveSlot, await, Assoc.get?_erase,
      Assoc.get?_insert, if_neg hne, q.entries, ht]
  | @close m₁ t' id' reason next q _ hsome _ =>
    by_cases hne : t = t'
    · subst hne
      rw [q.entries, ht] at hsome
      cases hsome
      exact .inr ⟨task, t, reason, next, by simp [beginClose, await, Assoc.get?_insert]⟩
    · refine .inl ⟨t, ?_⟩
      simp only [beginClose, modifyPool, giveSlot, await, Assoc.get?_erase, if_neg hne, q.entries,
        ht]

lemma Move.retained (h : Move m task o m') (hf : m.Fresh) (hat : o.At m task)
    (hne : ∀ t reason next, o ≠ .stage (.closing t id reason next)) (hr : m.Retained id) :
    m'.Retained id := by
  rcases hr with ⟨t, ht⟩ | ⟨k, t, reason, next, hk⟩
  · exact h.entry_retained ht
  · exact .inr ⟨k, t, reason, next, h.closing_other hf hat hne hk⟩

lemma connectionsOf_enroll_cases {record : Tenant} {connections : ConnectionsId} {t : TenantId}
    (hc : (m.enroll t record connections).connectionsOf id = some c) :
    m.connectionsOf id = some c ∨ id = m.pools.length ∧ c = connections := by
  rcases Nat.lt_trichotomy id m.pools.length with hlt | heq | hgt
  · rw [connectionsOf_enroll_of_lt hlt] at hc
    exact .inl hc
  · subst heq
    rw [connectionsOf_enroll_length] at hc
    exact .inr ⟨rfl, (Option.some.inj hc).symm⟩
  · rw [connectionsOf, List.getElem?_eq_none] at hc
    · cases hc
    · rw [length_pools_enroll]
      exact hgt

/-- A pool has the connections that it had before, or is a new one for those that the task has
tried. -/
lemma Move.connectionsOf_cases (h : Move m task o m') (hc : m'.connectionsOf id = some c) :
    m.connectionsOf id = some c ∨
      (∃ d t record deadline, o = .stage (.pinging d t record c deadline)) ∧ m'.Retained id := by
  cases h with
  | stay => exact .inl hc
  | wait q _ | leave q _ | finish q _ _ | report q _ | reserve q _ _ _ _ _ | yield q _ _
  | hand q _ _ _ => exact .inl (q.connectionsOf_eq ▸ hc)
  | @giveUp _ d _ _ q _ _ => cases d <;> exact .inl (q.connectionsOf_eq ▸ hc)
  | lend q _ _ _ =>
    rw [connectionsOf_lend, q.connectionsOf_eq] at hc
    exact .inl hc
  | @enter m₁ d t record connections deadline q ho _ _ =>
    have hof : ((m₁.enroll t record connections).deliver task d t
        m₁.pools.length).connectionsOf = (m₁.enroll t record connections).connectionsOf := by
      rw [deliver_enroll]
      cases d with
      | get | warm => rfl
      | lease => exact connectionsOf_lend ..
    have hentry : ((m₁.enroll t record connections).deliver task d t
        m₁.pools.length).entries.get? t = some m₁.pools.length := by
      have hget : (m₁.enroll t record connections).entries.get? t = some m₁.pools.length := by
        simp [enroll, Assoc.get?_insert]
      rw [deliver_enroll]
      cases d <;> exact hget
    rw [hof] at hc
    rcases connectionsOf_enroll_cases hc with hold | ⟨rfl, rfl⟩
    · exact .inl (q.connectionsOf_eq ▸ hold)
    · exact .inr ⟨⟨d, t, record, deadline, ho⟩, .inl ⟨t, hentry⟩⟩
  | @withdraw m₁ d t record connections deadline reason q ho _ _ =>
    rw [connectionsOf_beginClose] at hc
    rcases connectionsOf_enroll_cases hc with hold | ⟨rfl, rfl⟩
    · exact .inl (q.connectionsOf_eq ▸ hold)
    · exact .inr ⟨⟨d, t, record, deadline, ho⟩, .inr ⟨task, t, reason, .withdraw d, by
        simp [beginClose, await, Assoc.get?_insert]⟩⟩
  | close q _ _ _ =>
    rw [connectionsOf_beginClose, q.connectionsOf_eq] at hc
    exact .inl hc

/-! ### What every event preserves -/

/-- A move that leaves the ledger alone forgets no pool, if the connections that the task tried are
open, and those of a pool that it closed are closed. -/
lemma Disposed.move (h : m.Disposed) (hm : Move m task o m') (hl : m'.ledger = m.ledger)
    (hf : m.Fresh) (hat : o.At m task)
    (hping : ∀ d t record c deadline, o = .stage (.pinging d t record c deadline) →
      c < m.ledger.all.length)
    (hclosed : ∀ t id reason next c, o = .stage (.closing t id reason next) →
      m.connectionsOf id = some c → m.ledger.isClosed c = true) : m'.Disposed := by
  intro id c hc
  rw [hl]
  rcases hm.connectionsOf_cases hc with hold | ⟨⟨d, t, record, deadline, ho⟩, hr⟩
  · obtain ⟨hlt, hdisposed⟩ := h id c hold
    refine ⟨hlt, ?_⟩
    by_cases hclosing : ∃ t reason next, o = .stage (.closing t id reason next)
    · obtain ⟨t, reason, next, ho⟩ := hclosing
      exact .inl (hclosed t id reason next c ho hold)
    · refine hdisposed.imp_right (hm.retained hf hat ?_)
      exact fun t reason next ho => hclosing ⟨t, reason, next, ho⟩
  · exact ⟨hping d t record c deadline ho, .inr hr⟩

lemma Disposed.closeHeld (h : m.Disposed) (s : Stage) : (m.closeHeld s).Disposed := by
  intro id c hc
  obtain ⟨hlt, hdisposed⟩ := h id c hc
  have hledger : (m.closeHeld s).ledger = m.ledger ∨
      ∃ c', (m.closeHeld s).ledger = m.ledger.close c' := by
    cases hs : s.connections? m.connectionsOf with
    | none => exact .inl (by simp [Manager.closeHeld, hs])
    | some c' => exact .inr ⟨c', by simp [Manager.closeHeld, hs]⟩
  rcases hledger with heq | ⟨c', heq⟩
  · rw [heq]
    exact ⟨hlt, hdisposed⟩
  · rw [heq, Ledger.length_close, Ledger.isClosed_close]
    exact ⟨hlt, hdisposed.imp_left fun hc => by rw [hc, Bool.true_or]⟩

/-- The connections that a task holds were opened. -/
lemma Booked.lt_length (h : m.Booked) (hs : m.tasks.get? task = some s)
    (hc : s.connections? m.connectionsOf = some c) : c < m.ledger.all.length := by
  have hheld : c ∈ m.held :=
    List.mem_append_right _ (Assoc.mem_collect.2 ⟨task, s, hs, hc⟩)
  have hopen := Ledger.mem_openIds.1 (h.held.mem_iff.1 hheld)
  by_contra hle
  rw [Ledger.isClosed_of_length_le (not_lt.1 hle)] at hopen
  cases hopen

theorem Handling.disposed (h : Handling m task o m') (hf : m.Fresh) (hat : o.At m task)
    (hb : m.Booked) (hd : m.Disposed) : m'.Disposed := by
  cases h with
  | stayed => exact hd
  | @opened d t record deadline database size =>
    intro id c hc
    obtain ⟨hlt, hdisposed⟩ := hd id c hc
    have hlength : (m.ledger.open database size).all.length = m.ledger.all.length + 1 := by
      simp [Ledger.open]
    have hne : c ≠ m.ledger.next := hlt.ne
    rw [ledger_await, hlength, Ledger.isClosed_open, if_neg hne]
    refine ⟨Nat.lt_succ_of_lt hlt, hdisposed.imp_right fun hr => ?_⟩
    have hmove : Move m task (.stage (.opening d t record deadline))
        (m.afterOpening task d t record (.ok (database, size))) :=
      .of_afterOpening (.refl m) _
    exact hmove.retained hf hat (fun _ _ _ => by simp) hr
  | failed =>
    refine hd.move (.giveUp (.refl m) rfl rfl) (ledger_giveUp ..) hf hat ?_ ?_
    · rintro _ _ _ _ _ ⟨⟩
    · rintro _ _ _ _ _ ⟨⟩
  | rejected =>
    refine hd.move (.wait (.refl m) .rejecting) rfl hf hat ?_ ?_
    · rintro _ _ _ _ _ ⟨⟩
      exact hb.lt_length hat rfl
    · rintro _ _ _ _ _ ⟨⟩
  | entered =>
    refine hd.move (.of_enter (.refl m)) (ledger_enter ..) hf hat ?_ ?_
    · rintro _ _ _ _ _ ⟨⟩
      exact hb.lt_length hat rfl
    · rintro _ _ _ _ _ ⟨⟩
  | @closed s _ hs hmove hl _ =>
    refine (hd.closeHeld s).move hmove hl hf hat ?_ ?_
    · rintro _ _ _ _ _ ⟨⟩
      cases hs
    · rintro t id reason next c ⟨⟩ hc
      have hc' : m.connectionsOf id = some c := hc
      simp [closeHeld, Stage.connections?, hc', Ledger.isClosed_close]
  | passed hn hc hmove hl =>
    refine hd.move hmove hl hf hat ?_ ?_
    · rintro _ _ _ _ _ rfl
      cases hn
    · rintro _ _ _ _ _ rfl
      cases hc

lemma Disposed.modifyPool (h : m.Disposed) (id : PoolId) {f : Pool → Pool}
    (hf : ∀ p, (f p).connections = p.connections) : (m.modifyPool id f).Disposed := by
  intro id' c hc
  rw [connectionsOf_modifyPool m id hf] at hc
  exact h id' c hc

theorem Disposed.step (hf : m.Fresh) (hb : m.Booked) (h : m.Disposed) {e : Event}
    (he : e.isCancel = false) : (m.step e).Disposed := by
  cases e with
  | call request =>
    have hf₀ : Fresh { m with nextTask := m.nextTask + 1 } :=
      fun k s hk => (hf k s hk).trans (Nat.lt_succ_self _)
    have hb₀ : Booked { m with nextTask := m.nextTask + 1 } := ⟨hb.wellKept, hb.held⟩
    exact (Handling.of_call hf request).disposed hf₀ hf.get?_nextTask hb₀ h
  | resume task a =>
    simp only [Manager.step, resume]
    split
    next s hs => exact (Handling.of_answer hf s a).disposed hf hs hb h
    next => exact h
  | advance nanos => exact h
  | drop lease =>
    simp only [Manager.step, dropLease]
    split
    next id _ => exact h.modifyPool id (f := (·.release m.now)) fun _ => rfl
    next => exact h
  | touch id | acquire id | release id => exact h.modifyPool id fun _ => rfl
  | cancel task => cases he

/-- In every run in which no task is cancelled, the connections of a pool are closed unless the pool
is in use or a task closes it. -/
theorem disposed_run (c : Config) {events : List Event} (h : ∀ e ∈ events, e.isCancel = false) :
    ((new c).run events).Disposed := by
  induction events using List.reverseRecOn with
  | nil =>
    intro id c hc
    cases hc
  | append_singleton past e ih =>
    have hpast : ∀ e' ∈ past, e'.isCancel = false := fun e' he' => h e' (by simp [he'])
    rw [run_append]
    exact (ih hpast).step ((fresh_new c).run past) (booked_run c hpast) (h e (by simp))

end Tenancy.Manager
