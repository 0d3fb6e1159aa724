import Mathlib.Data.List.Induction
import Tenancy.Proofs.Manager.Connections
import Tenancy.Proofs.Manager.StatusGate

/-!
# Requests that are cancelled

A task that is cancelled goes no further, whatever it waits for. A slot that it has taken for a
pool is not given back, and connections that it holds are not closed. `slots_eq_add_forfeited`
keeps the books of every run: beside the pools in use and the pools that are being made, slots
are taken by the tasks that were cut off while they had one, and those count for the limit; and
the connections that such tasks held stay open for ever.
-/

namespace Tenancy.Manager

variable {m m' : Manager} {task : TaskId}

/-! ### What is cut off -/

/-- The stages at which a cancellation cuts off tasks: the one of a request, and those that it
started. -/
def cutOff (m : Manager) (task : TaskId) : List Stage :=
  match m.tasks.get? task with
  | some s =>
    if s.isLoop || s.parent?.isSome then []
    else (m.tasks.toList.filter fun e => !(e.1 ≠ task && e.2.parent? ≠ some task)).map Prod.snd
  | none => []

/-- The stages at which an event cuts off tasks. -/
def Event.cutOff (m : Manager) : Event → List Stage
  | .cancel task => m.cutOff task
  | _ => []

/-- The number of slots that the tasks had which the events cut off. -/
def forfeited (m : Manager) : List Event → Nat
  | [] => 0
  | e :: events => (e.cutOff m).countP Stage.hasSlot + (m.step e).forfeited events

/-- The connections that the tasks held which the events cut off. -/
def strays (m : Manager) : List Event → List ConnectionsId
  | [] => []
  | e :: events =>
    (e.cutOff m).filterMap (Stage.connections? m.connectionsOf) ++ (m.step e).strays events

lemma forfeited_append (m : Manager) (past events : List Event) :
    m.forfeited (past ++ events) = m.forfeited past + (m.run past).forfeited events := by
  induction past generalizing m with
  | nil => exact (Nat.zero_add _).symm
  | cons e rest ih =>
    rw [List.cons_append, forfeited, forfeited, ih, Nat.add_assoc]
    rfl

lemma strays_append (m : Manager) (past events : List Event) :
    m.strays (past ++ events) = m.strays past ++ (m.run past).strays events := by
  induction past generalizing m with
  | nil => rfl
  | cons e rest ih =>
    rw [List.cons_append, strays, strays, ih, List.append_assoc]
    rfl

lemma Event.cutOff_of_not_isCancel {e : Event} (h : e.isCancel = false) : e.cutOff m = [] := by
  cases e with
  | cancel task => cases h
  | _ => rfl

/-- The tasks before a cancellation are those after it, and those that it cuts off. -/
lemma tasks_cancel_perm (m : Manager) (task : TaskId) :
    ((m.cancel task).tasks.toList.map Prod.snd ++ m.cutOff task).Perm
      (m.tasks.toList.map Prod.snd) := by
  unfold cancel cutOff
  cases m.tasks.get? task with
  | none => simp
  | some s =>
    dsimp only
    split
    · simp
    · rw [Assoc.filter, ← List.map_append]
      exact (List.filter_append_perm _ m.tasks.toList).map Prod.snd

/-- A cancellation changes nothing but tasks and reports. -/
lemma exists_cancel_eq (m : Manager) (task : TaskId) :
    ∃ tasks reports, m.cancel task = { m with tasks, reports } := by
  unfold cancel
  split
  · split
    · exact ⟨_, _, rfl⟩
    · exact ⟨_, _, rfl⟩
  · exact ⟨_, _, rfl⟩

lemma creations_cancel (m : Manager) (task : TaskId) :
    m.creations = (m.cancel task).creations + (m.cutOff task).countP Stage.hasSlot := by
  have h := (tasks_cancel_perm m task).countP_eq Stage.hasSlot
  rw [List.countP_append, List.countP_map, List.countP_map] at h
  exact h.symm

lemma held_cancel (m : Manager) (task : TaskId) :
    ((m.cancel task).held ++
      (m.cutOff task).filterMap (Stage.connections? m.connectionsOf)).Perm m.held := by
  obtain ⟨tasks, reports, hc⟩ := exists_cancel_eq m task
  have hpools : (m.cancel task).connectionsOf = m.connectionsOf := by rw [hc]; rfl
  have hentries : (m.cancel task).entries = m.entries := by rw [hc]
  have h := (tasks_cancel_perm m task).filterMap (Stage.connections? m.connectionsOf)
  rw [List.filterMap_append, List.filterMap_map, List.filterMap_map] at h
  rw [Manager.held, Manager.held, holdings, holdings, hpools, hentries, List.append_assoc]
  exact h.append_left _

/-! ### What every event preserves -/

lemma SlotChange.balance (h : SlotChange m m') :
    m'.slots - (m'.entries.size + m'.creations) = m.slots - (m.entries.size + m.creations) := by
  cases h <;> omega

lemma Turn.balance {e : Event} (h : Turn m e m') (he : e.isCancel = false) :
    m'.slots - (m'.entries.size + m'.creations) = m.slots - (m.entries.size + m.creations) := by
  obtain ⟨m₀, q, hs, -⟩ := h.slotChange he
  rw [hs.balance, q.slots, q.entries, q.creations_eq]

lemma balance_step (hf : m.Fresh) (e : Event) :
    (m.step e).slots - ((m.step e).entries.size + (m.step e).creations) =
      m.slots - (m.entries.size + m.creations) + (e.cutOff m).countP Stage.hasSlot := by
  cases he : e.isCancel with
  | false =>
    rw [(Turn.of_step hf e).balance he, Event.cutOff_of_not_isCancel he, List.countP_nil]
    exact (Int.add_zero _).symm
  | true =>
    cases e with
    | cancel task =>
      obtain ⟨tasks, reports, hc⟩ := exists_cancel_eq m task
      have hslots : (m.cancel task).slots = m.slots := by rw [hc]
      have hentries : (m.cancel task).entries = m.entries := by rw [hc]
      have hcreations := creations_cancel m task
      rw [Manager.step, hslots, hentries, Event.cutOff]
      omega
    | _ => cases he

/-- Slots are taken by the pools in use, those that are made, and those that never will be. -/
lemma slots_run (c : Config) (events : List Event) :
    ((new c).run events).slots = ((new c).run events).entries.size +
      ((new c).run events).creations + (new c).forfeited events := by
  induction events using List.reverseRecOn with
  | nil => rfl
  | append_singleton past e ih =>
    have hstep := balance_step ((fresh_new c).run past) e
    rw [forfeited_append, run_append]
    simp only [forfeited, Nat.add_zero, run, List.foldl_cons, List.foldl_nil] at hstep ih ⊢
    omega

lemma BookedWith.cancel {strays : List ConnectionsId} (hb : m.BookedWith strays) (task : TaskId) :
    (m.cancel task).BookedWith
      (strays ++ (m.cutOff task).filterMap (Stage.connections? m.connectionsOf)) := by
  obtain ⟨tasks, reports, hc⟩ := exists_cancel_eq m task
  have hledger : (m.cancel task).ledger = m.ledger := by rw [hc]
  refine ⟨hledger ▸ hb.wellKept, ?_⟩
  rw [hledger]
  refine (List.perm_append_comm.append_left _).trans ?_
  rw [← List.append_assoc]
  exact ((held_cancel m task).append_right strays).trans hb.held

/-- The open connections are those that somebody holds, and those that nobody does any more. -/
lemma bookedWith_run (c : Config) (events : List Event) :
    ((new c).run events).BookedWith ((new c).strays events) := by
  induction events using List.reverseRecOn with
  | nil => exact ⟨⟨rfl, rfl⟩, .refl _⟩
  | append_singleton past e ih =>
    rw [run_append, strays_append, strays, strays, List.append_nil]
    cases he : e.isCancel with
    | false =>
      rw [Event.cutOff_of_not_isCancel he, List.filterMap_nil, List.append_nil]
      exact ih.step ((fresh_new c).run past) (mapped_run c past) (closesKnown_run c past) he
    | true =>
      cases e with
      | cancel task => exact ih.cancel task
      | _ => cases he

/-! ### Requests that find no slot left -/

lemma Answered.get?_nextTask (ha : m.Answered) : m.outcomes.get? m.nextTask = none := by
  cases hout : m.outcomes.get? m.nextTask with
  | none => rfl
  | some outcome => exact absurd (ha _ _ hout) (lt_irrefl _)

/-- A request for the pool of a tenant that has none starts to make one. -/
lemma exists_call_eq {request : Request} {t : TenantId} (hw : request.wants t = true)
    (hdown : m.shuttingDown = false) (hnone : m.entries.get? t = none) :
    ∃ d : Demand, d.parent? = none ∧ m.call request =
      { m with nextTask := m.nextTask + 1 }.beginCreation m.nextTask d t := by
  cases request with
  | get tenant =>
    obtain rfl : tenant = t := of_decide_eq_true hw
    exact ⟨.get, rfl, by simp only [call, admitRequest, beginGet, hdown, hnone]; rfl⟩
  | lease tenant =>
    obtain rfl : tenant = t := of_decide_eq_true hw
    exact ⟨.lease, rfl, by simp only [call, admitRequest, beginLease, hdown, hnone]; rfl⟩
  | _ => cases hw

lemma outcomes_beginCreation {d : Demand} (hd : d.parent? = none) (t : TenantId) :
    (m.beginCreation task d t).outcomes =
      if m.isFull then m.outcomes.insert task (.failed (.limitReached m.config.maxPools))
      else m.outcomes := by
  unfold beginCreation
  cases d with
  | warm parent => cases hd
  | get => split <;> rfl
  | lease => split <;> rfl

/-- Such a request fails at once with the limit exactly if no slot is left. -/
lemma outcome_call_iff (ha : m.Answered) {request : Request} {t : TenantId}
    (hw : request.wants t = true) (hdown : m.shuttingDown = false)
    (hnone : m.entries.get? t = none) :
    (m.call request).outcomes.get? m.nextTask =
        some (.failed (.limitReached m.config.maxPools)) ↔ m.isFull = true := by
  obtain ⟨d, hd, hcall⟩ := exists_call_eq hw hdown hnone
  have hfull : isFull { m with nextTask := m.nextTask + 1 } = m.isFull := rfl
  rw [hcall, outcomes_beginCreation hd, hfull]
  cases m.isFull with
  | false =>
    rw [if_neg Bool.false_ne_true, ha.get?_nextTask]
    exact ⟨fun h => absurd h.symm (Option.some_ne_none _), fun h => absurd h Bool.false_ne_true⟩
  | true =>
    rw [if_pos rfl, Assoc.get?_insert, if_pos rfl]
    exact ⟨fun _ => rfl, fun _ => rfl⟩

/-! ### Every run -/

/-- However tasks take turns and whichever are cancelled: slots are taken by the pools in use, by
the pools that are being made, and by as many pools as tasks with a slot were cut off. A
cancellation leaves the slots exact only if there were no such tasks before, and it cuts off none.
A request for a pool that there is none of fails with the limit when all three together reach it.
The connections that are open are those that somebody holds and those that tasks held which were
cut off; these are never closed. -/
theorem slots_eq_add_forfeited (c : Config) (events : List Event) :
    let m := (new c).run events
    let lost := (new c).forfeited events
    let strays := (new c).strays events
    m.slots = m.entries.size + m.creations + lost ∧
    (∀ task, (m.cancel task).slots = (m.cancel task).entries.size + (m.cancel task).creations ↔
      lost = 0 ∧ ∀ s ∈ m.cutOff task, s.hasSlot = false) ∧
    (∀ request t, request.wants t = true → m.shuttingDown = false → m.entries.get? t = none →
      ((m.call request).outcomes.get? m.nextTask = some (.failed (.limitReached c.maxPools)) ↔
        0 < c.maxPools ∧ c.maxPools ≤ m.entries.size + m.creations + lost)) ∧
    (m.held ++ strays).Perm m.ledger.openIds ∧
    ∀ later, ∀ id ∈ strays, ((new c).run (events ++ later)).ledger.isClosed id = false := by
  intro m lost strays
  have hslots : m.slots = m.entries.size + m.creations + lost := slots_run c events
  have hconfig : m.config = c := config_run c events
  refine ⟨hslots, ?_, ?_, (bookedWith_run c events).held, ?_⟩
  · intro task
    have hafter : (m.cancel task).slots = (m.cancel task).entries.size +
        (m.cancel task).creations + (lost + (m.cutOff task).countP Stage.hasSlot : Nat) := by
      have h := slots_run c (events ++ [.cancel task])
      rwa [run_append, forfeited_append] at h
    have hcount : (m.cutOff task).countP Stage.hasSlot = 0 ↔
        ∀ s ∈ m.cutOff task, s.hasSlot = false := by
      simp only [List.countP_eq_zero, Bool.not_eq_true]
    rw [← hcount]
    omega
  · intro request t hw hdown hnone
    have ha : m.Answered := (answered_new c).run (fresh_new c) events
    rw [← hconfig, outcome_call_iff ha hw hdown hnone, isFull, hslots]
    simp only [Bool.and_eq_true, decide_eq_true_eq]
    omega
  · intro later id hid
    rw [← Ledger.mem_openIds, ← (bookedWith_run c (events ++ later)).held.mem_iff, strays_append]
    exact List.mem_append_right _ (List.mem_append_left _ hid)

/-- A request that is cancelled while its connections are being opened. -/
def cancelledWhileOpened : List Event :=
  [.call (.get "acme"), .resume 0 (.tenant (.ok acme)), .cancel 0]

/-- A request that is cancelled while its connections are pinged. -/
def cancelledWhilePinged : List Event :=
  [.call (.get "acme"), .resume 0 (.tenant (.ok acme)), .resume 0 (.opened (.ok ("acme_db", 2))),
    .cancel 0]

/-- Cancelled requests give back neither their slots nor their connections: the slots are not exact
afterwards, a request reaches the limit where there is no pool at all, and connections are open
that nobody holds. -/
theorem not_givenBack_cancelledWhileOpened :
    (¬ ∀ (c : Config) (events : List Event),
      let m := (new c).run events
      m.slots = m.entries.size + m.creations) ∧
    (¬ ∀ (c : Config) (events : List Event) (t : TenantId),
      let m := (new c).run events
      (m.call (.get t)).outcomes.get? m.nextTask = some (.failed (.limitReached c.maxPools)) →
        (c.maxPools : Int) ≤ m.entries.size + m.creations) ∧
    ¬ ∀ (c : Config) (events : List Event),
      let m := (new c).run events
      m.ledger.openIds.length ≤ m.entries.size + m.creations := by
  refine ⟨fun h => ?_, fun h => ?_, fun h => ?_⟩
  · exact absurd (h (.new "app" "secret") cancelledWhileOpened) (by decide)
  · have hlimit := h { Config.new "app" "secret" with maxPools := 1 } cancelledWhileOpened "globex"
    exact absurd (hlimit (by decide)) (by decide)
  · exact absurd (h (.new "app" "secret") cancelledWhilePinged) (by decide)

end Tenancy.Manager
