import Tenancy.Proofs.Manager.Connections

/-!
# Attempts to open a pool ahead of time

A task that is to get a pool for another one waits for its turn and then does what a request for a
pool does, while the manager is open; at the end it tells the other task how that went. `Tried` says
what an answer does to such a task, stage by stage, and `Tried.of_answer` that nothing else happens.
What matters of it for the other task is `Attempted`, and `Unspoilt` if no answer is a fault.
-/

namespace Tenancy.Manager

variable {m m' : Manager} {k j : TaskId} {t : TenantId} {s : Stage} {a : Answer}

/-! ### Stages of an attempt -/

/-- The tenant for which a task tries to get a pool for another task. -/
def Stage.tries? (k : TaskId) (s : Stage) : Option TenantId :=
  s.demand?.bind fun d => if d.1 = .warm k then some d.2 else none

/-- Whether a task waits for the end of connections that it has opened in vain. -/
def Stage.isUndoing : Stage → Bool
  | .rejecting _ _ _ _ | .yielding _ _ _ _ => true
  | _ => false

/-- Whether a task has found that another pool of the tenant came first. -/
def Stage.isYielding : Stage → Bool
  | .yielding _ _ _ _ => true
  | _ => false

/-- The greatest number of answers that a task hears until what it tells is read. -/
def Stage.toGo : Stage → Nat
  | .warmQueued _ _ => 6
  | .lookingUp _ _ => 5
  | .opening _ _ _ _ => 4
  | .pinging _ _ _ _ _ => 3
  | .rejecting _ _ _ _ | .yielding _ _ _ _ => 2
  | _ => 0

lemma Stage.tries?_eq_some_iff : s.tries? k = some t ↔ s.demand? = some (.warm k, t) := by
  simp only [tries?, Option.bind_eq_some_iff, Option.ite_none_right_eq_some, Option.some.injEq,
    Prod.exists]
  constructor
  · rintro ⟨d, t', hs, rfl, rfl⟩
    exact hs
  · intro hs
    exact ⟨_, _, hs, rfl, rfl⟩

lemma Stage.parent?_of_tries? (h : s.tries? k = some t) : s.parent? = some k := by
  have hd := tries?_eq_some_iff.1 h
  cases s with
  | lookingUp | opening | pinging | rejecting | yielding | warmQueued =>
    cases hd
    rfl
  | _ => cases hd

lemma Stage.tries?_of_parent? (h : s.parent? = none) : s.tries? k = none := by
  rw [Option.eq_none_iff_forall_ne_some]
  intro t ht
  rw [parent?_of_tries? ht] at h
  cases h

/-! ### Answers -/

/-- Whether a task goes on with an answer when it waits at this stage to open pools ahead of time,
or to get one. -/
def Stage.hears (m : Manager) (task : TaskId) : Stage → Answer → Bool
  | .listing, .tenants _ | .warmQueued _ _, .proceed | .lookingUp _ _, .tenant _
  | .opening _ _ _ _, .opened _ | .pinging _ _ _ _ _, .pinged _ | .rejecting _ _ _ _, .closed
  | .yielding _ _ _ _, .closed => true
  | .opening _ _ _ deadline, .elapsed | .pinging _ _ _ _ deadline, .elapsed => deadline ≤ m.now
  | .gathering _ _, .proceed => (m.nextReport? task).isSome
  | _, _ => false

/-- Whether an answer is no fault: the tenants are listed, a tenant is found and active, connections
are opened, or they answer. -/
def Answer.succeeds : Answer → Bool
  | .tenants (.ok _) | .opened (.ok _) | .pinged (.ok _) | .closed | .proceed => true
  | .tenant (.ok record) => record.isActive
  | _ => false

/-- What an answer does to a task that tries to get a pool for a tenant while the manager is
open. -/
inductive Tried (m : Manager) (k j : TaskId) (t : TenantId) : Stage → Answer → Manager → Prop
  | unheard {s : Stage} {a : Answer} (h : s.hears m j a = false) : Tried m k j t s a m
  | served {id} (h : m.entries.get? t = some id) :
      Tried m k j t (.warmQueued k t) .proceed
        ((m.modifyPool id (·.touch m.now)).report j k (.warmed (.ok ())))
  | refused (hnone : m.entries.get? t = none) (hfull : m.isFull = true) :
      Tried m k j t (.warmQueued k t) .proceed
        (m.report j k (.warmed (.error (.limitReached m.config.maxPools))))
  | reserved (hnone : m.entries.get? t = none) (hfull : m.isFull = false) :
      Tried m k j t (.warmQueued k t) .proceed (m.takeSlot.await j (.lookingUp (.warm k) t))
  | found {record} (h : record.isActive = true) :
      Tried m k j t (.lookingUp (.warm k) t) (.tenant (.ok record))
        (m.await j (.opening (.warm k) t record m.connectDeadline))
  | opened {record deadline database size} :
      Tried m k j t (.opening (.warm k) t record deadline) (.opened (.ok (database, size)))
        ({ m with ledger := m.ledger.open database size }.await j
          (.pinging (.warm k) t record m.ledger.next m.connectDeadline))
  | failed {s : Stage} {a : Answer} {e} (hs : 4 ≤ s.toGo) (hh : s.hears m j a = true)
      (h : a.succeeds = false) : Tried m k j t s a (m.giveSlot.report j k (.warmed (.error e)))
  | rejects {s : Stage} {a : Answer} {id fault} (hs : s.isPinging = true)
      (hh : s.hears m j a = true) (h : a.succeeds = false) :
      Tried m k j t s a (m.await j (.rejecting (.warm k) t id fault))
  | rejected {id fault} :
      Tried m k j t (.rejecting (.warm k) t id fault) .closed
        ({ m with ledger := m.ledger.close id }.giveSlot.report j k
          (.warmed (.error (.setup t (.ping fault)))))
  | yields {record id deadline winner} (h : m.entries.get? t = some winner) :
      Tried m k j t (.pinging (.warm k) t record id deadline) (.pinged (.ok ()))
        (m.giveSlot.await j (.yielding (.warm k) t id winner))
  | yielded {id winner} :
      Tried m k j t (.yielding (.warm k) t id winner) .closed
        (({ m with ledger := m.ledger.close id }.modifyPool winner (·.touch m.now)).report j k
          (.warmed (.ok ())))
  | entered {record id deadline} (hnone : m.entries.get? t = none) :
      Tried m k j t (.pinging (.warm k) t record id deadline) (.pinged (.ok ()))
        ((m.enroll t record id).report j k (.warmed (.ok ())))

namespace Tried

lemma of_beginGet (hopen : m.shuttingDown = false) :
    Tried m k j t (.warmQueued k t) .proceed (m.beginGet j (.warm k) t) := by
  rw [beginGet, if_neg (by simp [hopen])]
  cases h : m.entries.get? t with
  | some id => exact .served h
  | none =>
    simp only [beginCreation]
    split
    next hfull => exact .refused h hfull
    next hfull => exact .reserved h (by simpa using hfull)

lemma of_afterLookup (result : Except StoreError Tenant) :
    Tried m k j t (.lookingUp (.warm k) t) (.tenant result)
      (m.afterLookup j (.warm k) t result) := by
  cases result with
  | error cause => exact .failed (Nat.le_succ 4) rfl rfl
  | ok record =>
    simp only [afterLookup]
    split
    next h => exact .found h
    next h => exact .failed (Nat.le_succ 4) rfl (by simpa [Answer.succeeds] using h)

lemma of_afterOpening {record : Tenant} {deadline : Nat}
    (result : Except OpenFault (String × Nat)) :
    Tried m k j t (.opening (.warm k) t record deadline) (.opened result)
      (m.afterOpening j (.warm k) t record result) := by
  cases result with
  | error fault => exact .failed le_rfl rfl rfl
  | ok opened => exact .opened

lemma of_afterFirstPing (hopen : m.shuttingDown = false) {record : Tenant} {id : ConnectionsId}
    {deadline : Nat} (result : Except PingFault Unit) :
    Tried m k j t (.pinging (.warm k) t record id deadline) (.pinged result)
      (m.afterFirstPing j (.warm k) t record id result) := by
  cases result with
  | error fault => exact .rejects rfl rfl rfl
  | ok _ =>
    simp only [afterFirstPing, Manager.enter]
    cases h : m.entries.get? t with
    | some winner => exact .yields h
    | none =>
      simp only
      split
      next hdown =>
        rw [hopen] at hdown
        cases hdown
      next => exact .entered h

/-- Whatever a task is told that tries to get a pool, one of these things happens. -/
theorem of_answer (hs : s.tries? k = some t) (hopen : m.shuttingDown = false) (a : Answer) :
    Tried m k j t s a (m.answer j s a) := by
  have hd := Stage.tries?_eq_some_iff.1 hs
  cases s with
  | warmQueued =>
    cases hd
    cases a with
    | proceed => exact of_beginGet hopen
    | _ => exact .unheard rfl
  | lookingUp =>
    cases hd
    cases a with
    | tenant result => exact of_afterLookup result
    | _ => exact .unheard rfl
  | opening _ _ record deadline =>
    cases hd
    cases a with
    | opened result => exact of_afterOpening result
    | elapsed =>
      simp only [answer]
      split
      next h => exact .failed le_rfl (decide_eq_true h) rfl
      next h => exact .unheard (decide_eq_false h)
    | _ => exact .unheard rfl
  | pinging _ _ record id deadline =>
    cases hd
    cases a with
    | pinged result => exact of_afterFirstPing hopen result
    | elapsed =>
      simp only [answer]
      split
      next h => exact .rejects rfl (decide_eq_true h) rfl
      next h => exact .unheard (decide_eq_false h)
    | _ => exact .unheard rfl
  | rejecting =>
    cases hd
    cases a with
    | closed => exact .rejected
    | _ => exact .unheard rfl
  | yielding =>
    cases hd
    cases a with
    | closed => exact .yielded
    | _ => exact .unheard rfl
  | _ => cases hd

/-- Nothing happens if the task does not go on with the answer. -/
lemma eq_of_unheard (h : Tried m k j t s a m') (hh : s.hears m j a = false) : m' = m := by
  cases h with
  | unheard => rfl
  | failed _ hheard | rejects _ hheard =>
    rw [hh] at hheard
    cases hheard
  | _ => cases hh

end Tried

/-! ### What matters of an attempt -/

/-- Between two states no task goes on, and nothing is told. -/
structure Unmoved (m m₁ : Manager) : Prop where
  tasks : m₁.tasks = m.tasks
  reports : m₁.reports = m.reports
  outcomes : m₁.outcomes = m.outcomes
  config : m₁.config = m.config
  shuttingDown : m₁.shuttingDown = m.shuttingDown

/-- The task `j` goes on to another stage or ends, and tells the task `k` something or does not. -/
structure Steps (m : Manager) (k j : TaskId) (next : Option Stage)
    (told : Option (Except PoolError Unit)) (m' : Manager) : Prop where
  own : m'.tasks.get? j = next
  others : ∀ i ≠ j, m'.tasks.get? i = m.tasks.get? i
  reports : m'.reports = m.reports ++ told.toList.map fun r => (k, .warmed r)
  outcomes : m'.outcomes = m.outcomes
  config : m'.config = m.config
  shuttingDown : m'.shuttingDown = m.shuttingDown

namespace Steps

variable {m₁ : Manager}

lemma of_await (h : Unmoved m m₁) : Steps m k j (some s) none (m₁.await j s) := by
  refine ⟨get?_await m₁ j s, fun i hi => ?_, ?_, h.outcomes, h.config, h.shuttingDown⟩
  · rw [await, Assoc.get?_insert, if_neg hi, h.tasks]
  · exact h.reports.trans (List.append_nil _).symm

lemma of_report {r : Except PoolError Unit} (h : Unmoved m m₁) :
    Steps m k j none (some r) (m₁.report j k (.warmed r)) := by
  refine ⟨?_, fun i hi => ?_, congrArg (· ++ _) h.reports, h.outcomes, h.config, h.shuttingDown⟩
  · rw [report, leave, Assoc.get?_erase, if_pos rfl]
  · rw [report, leave, Assoc.get?_erase, if_neg hi, h.tasks]

end Steps

/-- What an answer means to the one for whom the task `j` tries to get a pool: the task waits on,
with fewer answers to hear, or it ends and tells how that went. A new pool is entered only together
with the news; and if the news is good without it, the tenant has a pool. -/
inductive Attempted (m : Manager) (k j : TaskId) (t : TenantId) (s : Stage) (a : Answer) :
    Manager → Prop
  | unheard (h : s.hears m j a = false) : Attempted m k j t s a m
  | waits {m' : Manager} {s'} (hst : Steps m k j (some s') none m') (ht : s'.tries? k = some t)
      (hless : s'.toGo < s.toGo) (he : m'.entries = m.entries)
      (hp : m'.pools.length = m.pools.length)
      (hy : s'.isYielding = true → (m.entries.get? t).isSome = true) : Attempted m k j t s a m'
  | ends {m' : Manager} {r} (hst : Steps m k j none (some r) m') (hmore : 1 < s.toGo)
      (he : m'.entries = m.entries) (hp : m'.pools.length = m.pools.length)
      (hr : r = .ok () → s.isYielding = true ∨ (m.entries.get? t).isSome = true) :
      Attempted m k j t s a m'
  | enters {m' : Manager} (hst : Steps m k j none (some (.ok ())) m') (hmore : 1 < s.toGo)
      (hnone : m.entries.get? t = none) (he : m'.entries = m.entries.insert t m.pools.length)
      (hp : m'.pools.length = m.pools.length + 1) : Attempted m k j t s a m'

lemma length_modifyPool (m : Manager) (id : PoolId) (f : Pool → Pool) :
    (m.modifyPool id f).pools.length = m.pools.length := List.length_modify ..

lemma Stage.toGo_of_isPinging (h : s.isPinging = true) : s.toGo = 3 := by
  cases s with
  | pinging => rfl
  | _ => cases h

theorem Tried.attempted (h : Tried m k j t s a m') : Attempted m k j t s a m' := by
  have hnews {e : PoolError} : Except.error e = .ok () → s.isYielding = true ∨
      (m.entries.get? t).isSome = true := nofun
  cases h with
  | unheard h => exact .unheard h
  | served h =>
    refine .ends (.of_report ⟨rfl, rfl, rfl, rfl, rfl⟩) (by simp [Stage.toGo]) rfl ?_
      fun _ => .inr ?_
    · exact length_modifyPool _ _ _
    · rw [h]
      rfl
  | reserved | found | opened =>
    refine .waits (.of_await ⟨rfl, rfl, rfl, rfl, rfl⟩) (Stage.tries?_eq_some_iff.2 rfl)
      (by simp [Stage.toGo]) rfl rfl nofun
  | failed hs =>
    exact .ends (.of_report ⟨rfl, rfl, rfl, rfl, rfl⟩) (by omega) rfl rfl hnews
  | rejects hs =>
    refine .waits (.of_await ⟨rfl, rfl, rfl, rfl, rfl⟩) (Stage.tries?_eq_some_iff.2 rfl) ?_ rfl rfl
      nofun
    rw [Stage.toGo_of_isPinging hs]
    simp [Stage.toGo]
  | refused | rejected =>
    exact .ends (.of_report ⟨rfl, rfl, rfl, rfl, rfl⟩) (by simp [Stage.toGo]) rfl rfl hnews
  | yields h =>
    refine .waits (.of_await ⟨rfl, rfl, rfl, rfl, rfl⟩) (Stage.tries?_eq_some_iff.2 rfl)
      (by simp [Stage.toGo]) rfl rfl fun _ => ?_
    rw [h]
    rfl
  | yielded =>
    refine .ends (.of_report ⟨rfl, rfl, rfl, rfl, rfl⟩) (by simp [Stage.toGo]) rfl ?_
      fun _ => .inl rfl
    exact length_modifyPool _ _ _
  | entered hnone =>
    exact .enters (.of_report ⟨rfl, rfl, rfl, rfl, rfl⟩) (by simp [Stage.toGo]) hnone rfl
      List.length_append

/-! ### Attempts without a fault -/

/-- What an answer that is no fault means, as long as the tenant of the connections that a task
tries has no pool. A task that finds no pool takes a slot, or ends if there is none left. -/
inductive Unspoilt (m : Manager) (k j : TaskId) (t : TenantId) (s : Stage) : Manager → Prop
  | unheard : Unspoilt m k j t s m
  | waits {m' : Manager} {s'} (hst : Steps m k j (some s') none m') (ht : s'.tries? k = some t)
      (hs' : s'.isUndoing = false)
      (hslot : s'.hasSlot = true → s.hasSlot = true ∨ m.entries.get? t = none)
      (he : m'.entries = m.entries)
      (hslots : m'.slots + s.hasSlot.toNat = m.slots + s'.hasSlot.toNat)
      (hfull : m'.slots = m.slots ∨ m.isFull = false ∧ m'.slots = m.slots + 1)
      (hopened : m'.ledger.opened + s.isPinging.toNat = m.ledger.opened + s'.isPinging.toNat)
      (hclosed : m'.ledger.closed = m.ledger.closed) : Unspoilt m k j t s m'
  | ends {m' : Manager} {r} (hst : Steps m k j none (some r) m') (hs : s.hasSlot = false)
      (he : m'.entries = m.entries) (hslots : m'.slots = m.slots) (hledger : m'.ledger = m.ledger)
      (hr : ∀ e, r = .error e → e = .limitReached m.config.maxPools ∧ m.isFull = true ∧
        m.entries.get? t = none) : Unspoilt m k j t s m'
  | enters {m' : Manager} (hst : Steps m k j none (some (.ok ())) m') (hs : s.isPinging = true)
      (hnone : m.entries.get? t = none) (he : m'.entries = m.entries.insert t m.pools.length)
      (hslots : m'.slots = m.slots) (hledger : m'.ledger = m.ledger) : Unspoilt m k j t s m'

theorem Tried.unspoilt (h : Tried m k j t s a m') (ha : a.succeeds = true)
    (hs : s.isUndoing = false) (hfree : s.isPinging = true → m.entries.get? t = none) :
    Unspoilt m k j t s m' := by
  cases h with
  | unheard => exact .unheard
  | served => exact .ends (.of_report ⟨rfl, rfl, rfl, rfl, rfl⟩) rfl rfl rfl rfl (by simp)
  | refused hnone hfull =>
    refine .ends (.of_report ⟨rfl, rfl, rfl, rfl, rfl⟩) rfl rfl rfl rfl ?_
    rintro _ ⟨⟩
    exact ⟨rfl, hfull, hnone⟩
  | reserved hnone hfull =>
    exact .waits (.of_await ⟨rfl, rfl, rfl, rfl, rfl⟩) (Stage.tries?_eq_some_iff.2 rfl) rfl
      (fun _ => .inr hnone) rfl (by simp [takeSlot, await, Stage.hasSlot])
      (.inr ⟨hfull, rfl⟩) rfl rfl
  | found | opened =>
    exact .waits (.of_await ⟨rfl, rfl, rfl, rfl, rfl⟩) (Stage.tries?_eq_some_iff.2 rfl) rfl
      (fun _ => .inl rfl) rfl rfl (.inl rfl) rfl rfl
  | failed _ _ hfault | rejects _ _ hfault =>
    rw [ha] at hfault
    cases hfault
  | rejected | yielded => cases hs
  | yields h =>
    rw [hfree rfl] at h
    cases h
  | entered hnone =>
    exact .enters (.of_report ⟨rfl, rfl, rfl, rfl, rfl⟩) rfl hnone rfl rfl rfl

end Tenancy.Manager
