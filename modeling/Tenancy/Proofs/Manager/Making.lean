import Tenancy.Proofs.Manager.Discard

/-!
# A manager that makes a pool

What the steps of a request for a pool are when its tenant has none: `making` is a manager in which
the request is under way, `refusing` one in which it has failed, and `serving` one in which it was
served. Connections that were opened in vain and closed again leave the others as they are:
`Ledger.sameLive_close_open`.
-/

namespace Tenancy

namespace Ledger

variable {id : ConnectionsId}

/-- Connections that are closed again leave nothing behind that is open. -/
lemma close_open (l : Ledger) (database : String) (size : Nat) :
    (l.open database size).close l.next =
      ⟨l.all ++ [⟨database, size, true⟩], l.opened + 1, l.closed + 1⟩ := by
  have hlast : (l.open database size).all[l.next]? = some ⟨database, size, false⟩ :=
    List.getElem?_concat_length
  have hopen : (l.open database size).isClosed l.next = false := by rw [isClosed, hlast]; rfl
  rw [close, hopen]
  simp only [«open», next, Bool.false_eq_true, if_false, mk.injEq, and_self, and_true]
  rw [List.modify_eq_set_getElem?]
  simp

/-- Connections that are opened and closed again leave those that were there as they are. -/
lemma openIds_close_open (l : Ledger) (database : String) (size : Nat) :
    ((l.open database size).close l.next).openIds = l.openIds := by
  rw [close_open, openIds, List.length_append, List.length_singleton, List.range_succ,
    List.filter_append, openIds]
  have hlast : isClosed ⟨l.all ++ [⟨database, size, true⟩], l.opened + 1, l.closed + 1⟩
      l.all.length = true := by
    simp [isClosed]
  simp only [List.filter_cons, hlast, Bool.not_true, Bool.false_eq_true, if_false, List.filter_nil,
    List.append_nil]
  refine List.filter_congr fun id hid => ?_
  rw [isClosed, isClosed, List.getElem?_append_left (List.mem_range.1 hid)]

/-- The same connections are open in two ledgers. -/
structure SameLive (l l' : Ledger) : Prop where
  live : l'.live = l.live
  openIds : l'.openIds = l.openIds
  connections : ∀ id ∈ l.openIds, l'.all[id]? = l.all[id]?

lemma SameLive.refl (l : Ledger) : l.SameLive l := ⟨rfl, rfl, fun _ _ => rfl⟩

lemma sameLive_close_open (l : Ledger) (database : String) (size : Nat) :
    l.SameLive ((l.open database size).close l.next) := by
  refine ⟨?_, openIds_close_open l database size, fun id hid => ?_⟩
  · rw [close_open, live, live, Nat.add_sub_add_right]
  · rw [close_open, List.getElem?_append_left]
    exact List.mem_range.1 (List.mem_of_mem_filter hid)

end Ledger

namespace Manager

variable {m : Manager} {now now' : Nat} {l l' : Ledger} {s s' : Stage}

/-- A manager in which the next request is making a pool. -/
def making (m : Manager) (now : Nat) (l : Ledger) (s : Stage) : Manager :=
  { m with
    now := now
    ledger := l
    slots := m.slots + 1
    tasks := m.tasks.insert m.nextTask s
    nextTask := m.nextTask + 1 }

/-- A manager in which the next request was refused. -/
def refusing (m : Manager) (now : Nat) (l : Ledger) (e : PoolError) : Manager :=
  { m with
    now := now
    ledger := l
    nextTask := m.nextTask + 1
    outcomes := m.outcomes.insert m.nextTask (.failed e) }

/-- A manager in which the next request was served with a new pool. -/
def serving (m : Manager) (now : Nat) (t : TenantId) (record : Tenant) (l : Ledger) : Manager :=
  { m with
    now := now
    entries := m.entries.insert t m.pools.length
    pools := m.pools ++ [Pool.new record m.ledger.next now]
    ledger := l
    slots := m.slots + 1
    nextTask := m.nextTask + 1
    outcomes := m.outcomes.insert m.nextTask (.pool m.pools.length) }

lemma get?_tasks_making : (m.making now l s).tasks.get? m.nextTask = some s := by
  rw [making, Assoc.get?_insert, if_pos rfl]

lemma await_making : (m.making now l s).await m.nextTask s' = m.making now l s' := by
  simp only [making, await, Assoc.insert_insert]

/-- Connections that were opened are pinged. -/
lemma answer_opened_making (m : Manager) (now : Nat) (t : TenantId) (record : Tenant)
    (deadline : Nat) (database : String) (size : Nat) :
    (m.making now m.ledger (.opening .get t record deadline)).answer m.nextTask
        (.opening .get t record deadline) (.opened (.ok (database, size))) =
      m.making now (m.ledger.open database size)
        (.pinging .get t record m.ledger.next (now + m.config.connectTimeout.nanos)) := by
  simp only [answer, afterOpening, making, await, connectDeadline, Assoc.insert_insert]

lemma Fresh.erase_making (h : m.Fresh) :
    (m.making now l s).tasks.erase m.nextTask = m.tasks := by
  rw [making, Assoc.erase_insert]
  exact Assoc.eq_of_toList (Assoc.erase_eq_self h.get?_nextTask)

lemma Fresh.giveUp_making (h : m.Fresh) (e : PoolError) :
    (m.making now l s).giveUp m.nextTask .get e = m.refusing now l e := by
  have hslots : m.slots + 1 - 1 = m.slots := by omega
  have htasks : (m.making now l s).tasks.erase m.nextTask = m.tasks := h.erase_making
  simp only [giveUp, giveSlot, fail, finish, leave]
  rw [htasks]
  simp only [making, refusing, hslots]

/-- The record of an active tenant leads to connections. -/
lemma answer_tenant_making (m : Manager) (now : Nat) (l : Ledger) (t : TenantId)
    {record : Tenant} (hactive : record.status = .active) :
    (m.making now l (.lookingUp .get t)).answer m.nextTask (.lookingUp .get t)
        (.tenant (.ok record)) =
      m.making now l (.opening .get t record (now + m.config.connectTimeout.nanos)) := by
  have hisActive : record.isActive = true := decide_eq_true hactive
  simp only [answer, afterLookup, hisActive, if_true]
  exact await_making

lemma Fresh.answer_inactive_making (h : m.Fresh) (now : Nat) (l : Ledger) (t : TenantId)
    {record : Tenant} (hinactive : record.status ≠ .active) :
    (m.making now l (.lookingUp .get t)).answer m.nextTask (.lookingUp .get t)
        (.tenant (.ok record)) =
      m.refusing now l (.notActive t record.status) := by
  have hisActive : record.isActive = false := decide_eq_false hinactive
  simp only [answer, afterLookup, hisActive, Bool.false_eq_true, if_false]
  exact h.giveUp_making _

/-- A pool is entered for a tenant that has none. -/
lemma Fresh.enter_making (h : m.Fresh) {t : TenantId} (ht : m.entries.get? t = none)
    (hopen : m.shuttingDown = false) (record : Tenant) :
    (m.making now l s).enter m.nextTask .get t record m.ledger.next =
      m.serving now t record l := by
  have htasks : (m.making now l s).tasks.erase m.nextTask = m.tasks := h.erase_making
  have hentry : (m.making now l s).entries.get? t = none := ht
  have hstate : (m.making now l s).shuttingDown = false := hopen
  simp only [enter, hentry, hstate, Bool.false_eq_true, if_false, deliver, finish, leave]
  rw [htasks]
  simp only [making, serving, hopen]

/-- The first step of a request for a pool of a tenant that has none. -/
lemma step_get (h : m.Fresh) {t : TenantId} (ht : m.entries.get? t = none) :
    m.step (.call (.get t)) =
      if m.shuttingDown then m.refusing m.now m.ledger .closed
      else if 0 < m.config.maxPools ∧ m.config.maxPools ≤ m.slots then
        m.refusing m.now m.ledger (.limitReached m.config.maxPools)
      else m.making m.now m.ledger (.lookingUp .get t) := by
  have htasks : m.tasks.erase m.nextTask = m.tasks :=
    Assoc.eq_of_toList (Assoc.erase_eq_self h.get?_nextTask)
  simp only [step, call, admitRequest, beginGet, ht, beginCreation, isFull, fail, finish, leave,
    htasks, Bool.and_eq_true, decide_eq_true_eq]
  rfl

end Manager

end Tenancy
