import Mathlib.Data.List.Range
import Mathlib.Data.List.Nodup
import Mathlib.Data.List.Induction
import Tenancy.Proofs.Manager.Run

/-!
# The ledger of connections

Connections are opened once and closed at most once: `Ledger.openIds` lists those that are open, and
`WellKept` says that the two counts of a ledger are those of its list. In a step of the manager only
two things are done to the ledger: connections are opened for a task that waits for them, and closed
for a task that waits for that. Everything else leaves it alone: `ledger_call` says so of requests,
and the other lemmas of the operations that answers lead to.
-/

namespace Tenancy

namespace Ledger

variable {l : Ledger} {id : ConnectionsId}

/-- The connections that are open, in the order in which they were opened. -/
def openIds (l : Ledger) : List ConnectionsId :=
  (List.range l.all.length).filter fun id => !l.isClosed id

/-- The counts are those of the connections that were opened, and of those that were closed. -/
structure WellKept (l : Ledger) : Prop where
  opened : l.opened = l.all.length
  closed : l.closed = l.all.countP Connections.closed

@[simp] lemma isClosed_of_length_le (h : l.all.length ≤ id) : l.isClosed id = true := by
  simp [isClosed, List.getElem?_eq_none h]

lemma mem_openIds : id ∈ l.openIds ↔ l.isClosed id = false := by
  simp only [openIds, List.mem_filter, List.mem_range, Bool.not_eq_true', and_iff_right_iff_imp]
  intro h
  by_contra hle
  rw [isClosed_of_length_le (not_lt.1 hle)] at h
  cases h

lemma nodup_openIds (l : Ledger) : l.openIds.Nodup := List.nodup_range.filter _

lemma isClosed_open (l : Ledger) (database : String) (size : Nat) (id : ConnectionsId) :
    (l.open database size).isClosed id = if id = l.next then false else l.isClosed id := by
  split_ifs with heq
  · simp [isClosed, Ledger.open, heq, next]
  · rcases Nat.lt_or_gt_of_ne heq with hlt | hgt
    · simp only [isClosed, Ledger.open, List.getElem?_append_left hlt]
    · rw [isClosed_of_length_le (Nat.le_of_lt hgt), isClosed_of_length_le]
      simpa [Ledger.open, next] using Nat.succ_le_of_lt hgt

lemma openIds_open (l : Ledger) (database : String) (size : Nat) :
    (l.open database size).openIds = l.openIds ++ [l.next] := by
  have hlength : (l.open database size).all.length = l.all.length + 1 := by simp [Ledger.open]
  rw [openIds, hlength, List.range_succ, List.filter_append]
  congr 1
  · apply List.filter_congr
    intro id hid
    have hne : id ≠ l.next := (List.mem_range.1 hid).ne
    rw [isClosed_open, if_neg hne]
  · have hopen : (l.open database size).isClosed l.all.length = false :=
      (isClosed_open l database size l.next).trans (if_pos rfl)
    simp [hopen, next]

lemma isClosed_close (l : Ledger) (id other : ConnectionsId) :
    (l.close id).isClosed other = (l.isClosed other || decide (other = id)) := by
  by_cases hclosed : l.isClosed id = true
  · by_cases heq : other = id
    · simp [close, hclosed, heq]
    · simp [close, hclosed, heq]
  · rw [close, if_neg hclosed]
    simp only [isClosed, List.getElem?_modify]
    cases ho : l.all[other]? with
    | none => simp
    | some c =>
      by_cases heq : id = other
      · simp [heq]
      · simp [heq, Ne.symm heq]

lemma length_close (l : Ledger) (id : ConnectionsId) :
    (l.close id).all.length = l.all.length := by
  unfold close
  split
  · rfl
  · exact List.length_modify ..

lemma openIds_close (h : l.isClosed id = false) :
    l.openIds.Perm (id :: (l.close id).openIds) := by
  rw [List.perm_ext_iff_of_nodup l.nodup_openIds]
  · intro other
    rw [List.mem_cons, mem_openIds, mem_openIds, isClosed_close, Bool.or_eq_false_iff,
      decide_eq_false_iff_not]
    by_cases heq : other = id
    · simp [heq, h]
    · simp [heq]
  · rw [List.nodup_cons]
    exact ⟨by simp [mem_openIds, isClosed_close], nodup_openIds _⟩

lemma wellKept_open (h : l.WellKept) (database : String) (size : Nat) :
    (l.open database size).WellKept := by
  refine ⟨?_, ?_⟩
  · simp [Ledger.open, h.opened]
  · simp [Ledger.open, h.closed]

lemma countP_modify_close {all : List Connections} {c : Connections} (hc : all[id]? = some c)
    (hopen : c.closed = false) :
    (all.modify id fun c => { c with closed := true }).countP Connections.closed =
      all.countP Connections.closed + 1 := by
  induction all generalizing id with
  | nil => cases hc
  | cons x rest ih =>
    cases id with
    | zero =>
      cases hc
      simp [hopen]
    | succ n =>
      rw [List.modify_succ_cons, List.countP_cons, List.countP_cons, ih hc]
      omega

lemma wellKept_close (h : l.WellKept) (id : ConnectionsId) : (l.close id).WellKept := by
  by_cases hclosed : l.isClosed id = true
  · rwa [close, if_pos hclosed]
  · rw [close, if_neg hclosed]
    cases hc : l.all[id]? with
    | none => simp [isClosed, hc] at hclosed
    | some c =>
      have hopen : c.closed = false := by simpa [isClosed, hc] using hclosed
      exact ⟨by simp [h.opened], by rw [countP_modify_close hc hopen, h.closed]⟩

lemma countP_range_isClosed (all : List Connections) (n m : Nat) :
    ((List.range all.length).countP fun id => !(⟨all, n, m⟩ : Ledger).isClosed id) =
      all.countP fun c => !c.closed := by
  induction all using List.reverseRecOn with
  | nil => rfl
  | append_singleton rest c ih =>
    rw [List.length_append, List.length_singleton, List.range_succ, List.countP_append,
      List.countP_append, ← ih]
    congr 1
    · apply List.countP_congr
      intro id hid
      simp [isClosed, List.getElem?_append_left (List.mem_range.1 hid)]
    · simp [isClosed, List.countP_singleton]

/-- As many connections are open as were opened and not closed. -/
lemma WellKept.length_openIds (h : l.WellKept) : l.openIds.length = l.live := by
  have hopen : l.openIds.length = l.all.countP fun c => !c.closed := by
    rw [openIds, ← List.countP_eq_length_filter]
    exact countP_range_isClosed l.all l.opened l.closed
  have hsplit := List.length_eq_countP_add_countP Connections.closed (l := l.all)
  simp only [Bool.not_eq_true, Bool.decide_eq_false] at hsplit
  rw [live, h.opened, h.closed, hopen]
  omega

end Ledger

namespace Manager

variable (m : Manager) (task : TaskId)

/-! ### What leaves the ledger alone -/

@[simp] lemma ledger_modifyPool (id : PoolId) (f : Pool → Pool) :
    (m.modifyPool id f).ledger = m.ledger := rfl

@[simp] lemma ledger_takeSlot : m.takeSlot.ledger = m.ledger := rfl

@[simp] lemma ledger_giveSlot : m.giveSlot.ledger = m.ledger := rfl

@[simp] lemma ledger_await (s : Stage) : (m.await task s).ledger = m.ledger := rfl

@[simp] lemma ledger_leave : (m.leave task).ledger = m.ledger := rfl

@[simp] lemma ledger_finish (outcome : Outcome) : (m.finish task outcome).ledger = m.ledger := rfl

@[simp] lemma ledger_report (parent : TaskId) (r : Report) :
    (m.report task parent r).ledger = m.ledger := rfl

@[simp] lemma ledger_dropReport : (m.dropReport task).ledger = m.ledger := rfl

@[simp] lemma ledger_spawnAll (stages : List Stage) : (m.spawnAll stages).ledger = m.ledger := by
  simp only [spawnAll]
  induction stages generalizing m with
  | nil => rfl
  | cons s rest ih => exact ih (m.spawn s)

@[simp] lemma ledger_beginClose (t : TenantId) (id : PoolId) (reason : String) (next : Next) :
    (m.beginClose task t id reason next).ledger = m.ledger := rfl

@[simp] lemma ledger_fail (d : Demand) (e : PoolError) : (m.fail task d e).ledger = m.ledger := by
  cases d <;> rfl

@[simp] lemma ledger_giveUp (d : Demand) (e : PoolError) :
    (m.giveUp task d e).ledger = m.ledger := by
  simp [giveUp]

@[simp] lemma ledger_lend (id : PoolId) : (m.lend task id).ledger = m.ledger := rfl

@[simp] lemma ledger_beginCreation (d : Demand) (t : TenantId) :
    (m.beginCreation task d t).ledger = m.ledger := by
  unfold beginCreation
  split <;> simp

@[simp] lemma ledger_beginLease (t : TenantId) : (m.beginLease task t).ledger = m.ledger := by
  unfold beginLease
  split
  · simp
  · split <;> simp

@[simp] lemma ledger_deliver (d : Demand) (t : TenantId) (id : PoolId) :
    (m.deliver task d t id).ledger = m.ledger := by
  cases d with
  | lease =>
    simp only [deliver]
    split <;> simp
  | _ => rfl

@[simp] lemma ledger_beginGet (d : Demand) (t : TenantId) :
    (m.beginGet task d t).ledger = m.ledger := by
  unfold beginGet
  split
  · simp
  · split <;> simp

@[simp] lemma ledger_afterLookup (d : Demand) (t : TenantId)
    (result : Except StoreError Tenant) : (m.afterLookup task d t result).ledger = m.ledger := by
  unfold afterLookup
  split
  · simp
  · split <;> simp

@[simp] lemma ledger_enter (d : Demand) (t : TenantId) (record : Tenant)
    (connections : ConnectionsId) : (m.enter task d t record connections).ledger = m.ledger := by
  unfold enter
  split
  · simp
  · simp only
    split <;> simp

@[simp] lemma ledger_afterFirstPing (d : Demand) (t : TenantId) (record : Tenant)
    (connections : ConnectionsId) (result : Except PingFault Unit) :
    (m.afterFirstPing task d t record connections result).ledger = m.ledger := by
  unfold afterFirstPing
  split <;> simp

@[simp] lemma ledger_finishSweep (sweeper : Sweeper) (loop : Loop) (outcome : Outcome) :
    (m.finishSweep task sweeper loop outcome).ledger = m.ledger := by
  cases sweeper with
  | caller => rfl
  | loop =>
    simp only [finishSweep, rest]
    split <;> simp

@[simp] lemma ledger_rest (loop : Loop) : (m.rest task loop).ledger = m.ledger :=
  ledger_finishSweep m task .loop loop .done

@[simp] lemma ledger_evictRest (sweeper : Sweeper) (count : Nat)
    (pools : List (TenantId × PoolId)) :
    (m.evictRest task sweeper count pools).ledger = m.ledger := by
  induction pools with
  | nil => simp [evictRest]
  | cons e rest ih =>
    simp only [evictRest]
    split
    · split <;> simp [ih]
    · exact ih

@[simp] lemma ledger_beginEviction (sweeper : Sweeper) :
    (m.beginEviction task sweeper).ledger = m.ledger := by
  simp [beginEviction]

@[simp] lemma ledger_awaitProbes (sweeper : Sweeper) (sweep : HealthSweep) :
    (m.awaitProbes task sweeper sweep).ledger = m.ledger := by
  unfold awaitProbes
  split <;> simp

@[simp] lemma ledger_beginCheck (sweeper : Sweeper) :
    (m.beginCheck task sweeper).ledger = m.ledger := by
  simp [beginCheck]

@[simp] lemma ledger_noteProbe (sweeper : Sweeper) (sweep : HealthSweep) (t : TenantId)
    (id : PoolId) (result : Except PingFault Unit) :
    (m.noteProbe task sweeper sweep t id result).ledger = m.ledger := by
  cases result with
  | ok => simp [noteProbe]
  | error =>
    simp only [noteProbe]
    split <;> simp

@[simp] lemma ledger_absorbProbe (sweeper : Sweeper) (sweep : HealthSweep) :
    (m.absorbProbe task sweeper sweep).ledger = m.ledger := by
  unfold absorbProbe
  split <;> simp

@[simp] lemma ledger_beginRound (loop : Loop) : (m.beginRound task loop).ledger = m.ledger := by
  cases loop <;> simp [beginRound]

@[simp] lemma ledger_awaitWarmed (warmed : Nat) (first : Option PoolError) :
    (m.awaitWarmed task warmed first).ledger = m.ledger := by
  unfold awaitWarmed
  split
  · simp
  · split <;> simp

@[simp] lemma ledger_afterListing (result : Except StoreError (List Tenant)) :
    (m.afterListing task result).ledger = m.ledger := by
  cases result <;> simp [afterListing]

@[simp] lemma ledger_absorbWarmed (warmed : Nat) (first : Option PoolError) :
    (m.absorbWarmed task warmed first).ledger = m.ledger := by
  unfold absorbWarmed
  split <;> simp

@[simp] lemma ledger_beginRetirement (t : TenantId) (reason : String) :
    (m.beginRetirement task t reason).ledger = m.ledger := by
  unfold beginRetirement
  split <;> simp

@[simp] lemma ledger_afterUpdate (t : TenantId) (status : Status)
    (result : Except StoreError Unit) :
    (m.afterUpdate task t status result).ledger = m.ledger := by
  unfold afterUpdate
  split
  · simp
  · split
    · simp
    · split <;> simp

@[simp] lemma ledger_closeRest (count : Option Nat) (pools : List (TenantId × PoolId)) :
    (m.closeRest task count pools).ledger = m.ledger := by
  induction pools with
  | nil => cases count <;> rfl
  | cons e rest ih =>
    simp only [closeRest]
    split <;> simp [ih]

@[simp] lemma ledger_beginShutdown (count : Option Nat) :
    (m.beginShutdown task count).ledger = m.ledger := by
  simp only [beginShutdown]
  split
  · cases count <;> rfl
  · unfold awaitLoops
    split <;> simp

@[simp] lemma ledger_drainRound (deadline : Nat) :
    (m.drainRound task deadline).ledger = m.ledger := by
  unfold drainRound
  split <;> simp

@[simp] lemma ledger_beginLoops : (m.beginLoops task).ledger = m.ledger := by
  unfold beginLoops
  split <;> simp

/-! ### Steps -/

/-- A request that comes in leaves the ledger alone. -/
lemma ledger_call (request : Request) : (m.call request).ledger = m.ledger := by
  cases request <;> simp [call, admitRequest, beginDrain]

end Manager

end Tenancy
