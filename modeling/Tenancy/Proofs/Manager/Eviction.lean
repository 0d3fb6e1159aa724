import Tenancy.Proofs.Manager.Discard
import Tenancy.Proofs.Manager.Usage

/-!
# Evicting pools

A pool is due when nobody holds it and its last ping failed, or it has been idle for longer than the
configuration allows. A request to evict pools discards those that are due when it comes in, and no
others: `settle_evict`. `eviction_exact` says what that means in every state that a manager can be
in over a backend in memory, that it does not matter in which order pools are gone through, and that
what was used lately is not due.
-/

namespace Tenancy.Manager

variable {m m' : Manager} {task : TaskId} {s : Stage} {t : TenantId} {id : PoolId}
  {pools : List (TenantId × PoolId)}

/-! ### Pools that are due -/

/-- Whether a pool is to be evicted: nobody holds it, and its last ping failed, or there is a limit
to how long a pool may be idle and the time since its last use is greater. -/
def IsDue (m : Manager) (p : Pool) : Prop :=
  p.refs = 0 ∧ (p.unhealthySince ≠ none ∨
    m.config.idleTimeout.nanos ≠ 0 ∧ m.config.idleTimeout.nanos < m.now - p.lastUsed)

instance (m : Manager) (p : Pool) : Decidable (m.IsDue p) := inferInstanceAs (Decidable (_ ∧ _))

/-- What is given as the reason. -/
def dueReason (p : Pool) : String :=
  if p.unhealthySince = none then "idle timeout" else "unhealthy"

/-- Those of several pools that are to be evicted. -/
def dueAmong (m : Manager) (pools : List (TenantId × PoolId)) : List Doomed :=
  pools.filterMap fun e =>
    ((m.pools[e.2]?).filter fun p => m.IsDue p).map fun p => (e.1, e.2, dueReason p)

/-- The pools in use that are to be evicted. -/
def due (m : Manager) : List Doomed := m.dueAmong m.entries.toList

lemma evictionReason_eq (m : Manager) (p : Pool) :
    m.evictionReason p = if m.IsDue p then some (dueReason p) else none := by
  unfold evictionReason IsDue dueReason Pool.isReferenced Pool.isUnhealthy Duration.isZero
    Pool.idleFor
  by_cases hr : p.refs = 0
  · by_cases hu : p.unhealthySince = none
    · simp [hr, hu]
    · simp [hr, hu, Option.isSome_iff_ne_none]
  · simp [hr, Nat.pos_iff_ne_zero]

lemma mem_due {x : Doomed} : x ∈ m.due ↔ m.entries.get? x.1 = some x.2.1 ∧
    ∃ p, m.pools[x.2.1]? = some p ∧ m.IsDue p ∧ x.2.2 = dueReason p := by
  obtain ⟨t, id, reason⟩ := x
  simp only [due, dueAmong, List.mem_filterMap, Option.map_eq_some_iff, Option.filter_eq_some_iff,
    decide_eq_true_eq, Prod.exists, Prod.mk.injEq, Assoc.get?_eq_some_iff]
  constructor
  · rintro ⟨t, id, hmem, p, ⟨hp, hdue⟩, rfl, rfl, rfl⟩
    exact ⟨hmem, p, hp, hdue, rfl⟩
  · rintro ⟨hmem, p, hp, hdue, rfl⟩
    exact ⟨t, id, hmem, p, ⟨hp, hdue⟩, rfl, rfl, rfl⟩

lemma filterMap_sublist {α : Type} {f : α → Option α} (h : ∀ a b, f a = some b → b = a)
    (as : List α) : (as.filterMap f).Sublist as := by
  induction as with
  | nil => exact .slnil
  | cons a rest ih =>
    cases hf : f a with
    | some b =>
      rw [List.filterMap_cons_some hf, h a b hf]
      exact ih.cons_cons a
    | none =>
      rw [List.filterMap_cons_none hf]
      exact ih.cons a

/-- The pools that are due are some of those in use. -/
lemma sublist_due (m : Manager) :
    (m.due.map fun x => (x.1, x.2.1)).Sublist m.entries.toList := by
  rw [due, dueAmong, List.map_filterMap]
  refine filterMap_sublist (fun e e' he => ?_) _
  obtain ⟨x, hx, rfl⟩ := Option.map_eq_some_iff.1 he
  obtain ⟨p, -, rfl⟩ := Option.map_eq_some_iff.1 hx
  rfl

/-! ### What the request does -/

lemma finishSweep_await (m : Manager) (task : TaskId) (s : Stage) (sweeper : Sweeper)
    (loop : Loop) (outcome : Outcome) :
    (m.await task s).finishSweep task sweeper loop outcome =
      m.finishSweep task sweeper loop outcome := by
  cases sweeper with
  | caller => simp only [finishSweep, finish, leave, await, Assoc.erase_insert]
  | loop => simp only [finishSweep, rest, leave, await, Assoc.erase_insert, Assoc.insert_insert]

/-- A task that has begun to evict a pool goes on to the next one when it is closed. -/
lemma finishClosing_beginClose (m : Manager) (task : TaskId) (t : TenantId) (id : PoolId)
    (reason : String) (sweeper : Sweeper) (rest : List (TenantId × PoolId)) (count n : Nat) :
    (m.beginClose task t id reason (.evict sweeper rest count)).finishClosing task (n + 1) =
      (((m.discard (t, id, reason)).await task
          (.closing t id reason (.evict sweeper rest count))).evictRest
        task sweeper (count + 1) rest).finishClosing task n := by
  have hstage : (m.beginClose task t id reason (.evict sweeper rest count)).tasks.get? task =
      some (.closing t id reason (.evict sweeper rest count)) := get?_await _ _ _
  rw [finishClosing, hstage, resume, hstage]
  simp only [Stage.isClosing, if_true, answer]
  rw [afterClosing_eq, ← closeHeld_beginClose]

/-- A task that goes through pools discards one after another of those that are due. -/
lemma exists_finishClosing_evictRest (sweeper : Sweeper) (count : Nat)
    (hentries : ∀ e ∈ pools, m.entries.get? e.1 = some e.2)
    (htenants : (pools.map Prod.fst).Nodup) (hids : (pools.map Prod.snd).Nodup) :
    ∃ n, (m.evictRest task sweeper count pools).finishClosing task n =
      (m.discards (m.dueAmong pools)).finishSweep task sweeper .eviction
        (.count (count + (m.dueAmong pools).length)) := by
  induction pools generalizing m count with
  | nil => exact ⟨0, rfl⟩
  | cons e rest ih =>
    obtain ⟨t, id⟩ := e
    obtain ⟨ht, htenants⟩ := List.nodup_cons.1 htenants
    obtain ⟨hid, hids⟩ := List.nodup_cons.1 hids
    have hentry := hentries (t, id) List.mem_cons_self
    have hrest : ∀ e ∈ rest, m.entries.get? e.1 = some e.2 :=
      fun e he => hentries e (List.mem_cons_of_mem _ he)
    cases hr : (m.pools[id]?).bind m.evictionReason with
    | none =>
      have hdue : m.dueAmong ((t, id) :: rest) = m.dueAmong rest := by
        refine List.filterMap_cons_none ?_
        cases hp : m.pools[id]? with
        | none => rfl
        | some p =>
          rw [hp, Option.bind_some, evictionReason_eq, ite_eq_right_iff] at hr
          have hnot : ¬m.IsDue p := fun h => nomatch hr h
          simp [hnot]
      rw [hdue]
      simp only [evictRest, hr]
      exact ih count hrest htenants hids
    | some reason =>
      obtain ⟨p, hp, hreason⟩ := Option.bind_eq_some_iff.1 hr
      rw [evictionReason_eq, ite_eq_iff] at hreason
      obtain ⟨hisDue, hreason⟩ : m.IsDue p ∧ dueReason p = reason := by simpa using hreason
      have hdue : m.dueAmong ((t, id) :: rest) = (t, id, reason) :: m.dueAmong rest := by
        refine List.filterMap_cons_some ?_
        simp [hp, hisDue, hreason]
      set next := Next.evict sweeper rest count
      set m₁ := (m.discard (t, id, reason)).await task (.closing t id reason next) with hm₁
      have hentries₁ : ∀ e ∈ rest, m₁.entries.get? e.1 = some e.2 := by
        intro e he
        have hne : e.1 ≠ t := fun heq => ht (List.mem_map.2 ⟨e, he, heq⟩)
        exact (Assoc.get?_erase _ _ _).trans ((if_neg hne).trans (hrest e he))
      have hdue₁ : m₁.dueAmong rest = m.dueAmong rest := by
        refine List.filterMap_congr fun e he => ?_
        have hne : id ≠ e.2 := fun heq => hid (List.mem_map.2 ⟨e, he, heq.symm⟩)
        have hpool : m₁.pools[e.2]? = m.pools[e.2]? := by
          simp only [hm₁, await, discard, List.getElem?_modify, if_neg hne, id_map']
        rw [hpool]
        rfl
      obtain ⟨n, hn⟩ := ih (m := m₁) (count + 1) hentries₁ htenants hids
      refine ⟨n + 1, ?_⟩
      have hholds : m.holds t id = true := by simpa [holds] using hentry
      simp only [evictRest, hr, hholds, if_true]
      rw [finishClosing_beginClose, ← hm₁, hn, hdue₁, hdue, hm₁, discards_await, finishSweep_await,
        List.length_cons, Nat.add_right_comm, Nat.add_assoc]
      rfl

/-- Before anything else happens, a task that goes through all pools has discarded those that are
due. -/
lemma settle_evictRest (hs : m.Settled) (hmap : Mapped m.entries m.pools) (sweeper : Sweeper) :
    (m.evictRest task sweeper 0 m.snapshot).settle =
      (m.discards m.due).finishSweep task sweeper .eviction (.count m.due.length) := by
  have hentries : ∀ e ∈ m.entries.toList, m.entries.get? e.1 = some e.2 :=
    fun e he => Assoc.get?_eq_some_iff.2 he
  obtain ⟨n, hn⟩ : ∃ n, (m.evictRest task sweeper 0 m.snapshot).finishClosing task n = _ :=
    exists_finishClosing_evictRest sweeper 0 hentries m.entries.nodup hmap.nodup_ids
  rw [Nat.zero_add] at hn
  refine (settle_eq_finishClosing (fun i s hne hi => ?_) (hn ▸ ?_)).trans hn
  · have hmove : Move m task (.call .evict) (m.evictRest task sweeper 0 m.snapshot) :=
      .of_evictRest (.refl m) rfl sweeper 0 _
    rcases hmove.get?_cases hi with hold | hqueued | ⟨heq, -⟩
    · exact hs i s hold
    · exact Stage.isClosing_of_isQueued hqueued
    · exact absurd heq hne
  · rw [discards_eq]
    cases sweeper with
    | caller => exact hs.erase rfl
    | loop =>
      simp only [finishSweep, rest]
      split
      · exact hs.erase rfl
      · exact hs.insert rfl rfl

/-- A request to evict pools ends with the number of those that are due. -/
lemma settle_evict (hs : m.Settled) (hf : m.Fresh) (hmap : Mapped m.entries m.pools) :
    (m.step (.call .evict)).settle =
      { m.discards m.due with
        nextTask := m.nextTask + 1
        outcomes := m.outcomes.insert m.nextTask (.count m.due.length) } := by
  have hended : m.tasks.erase m.nextTask = m.tasks :=
    Assoc.eq_of_toList (Assoc.erase_eq_self hf.get?_nextTask)
  have hcall : Settled { m with nextTask := m.nextTask + 1 } := hs
  refine (settle_evictRest hcall hmap .caller).trans ?_
  rw [discards_eq, discards_eq]
  simp only [finishSweep, finish, leave, hended]
  rfl

/-- A loop that evicts pools discards those that are due, and rests again. -/
lemma settle_evictionRound {k : TaskId} {wake : Nat} (hs : m.Settled)
    (hmap : Mapped m.entries m.pools)
    (hk : m.tasks.get? k = some (.loopSleeping .eviction wake)) (hwake : wake ≤ m.now) :
    (m.step (.resume k .elapsed)).settle = (m.discards m.due).rest k .eviction := by
  rw [step_resume hk]
  simp only [answer, hwake, if_true]
  exact settle_evictRest hs hmap .loop

/-! ### In every state -/

/-- What eviction relies on: every task goes on as soon as connections are closed, and pools in use
have open connections, each its own. -/
structure InOrder (m : Manager) : Prop extends InUse m where
  settled : m.Settled
  fresh : m.Fresh

lemma inOrder_runInMemory (c : Config) (events : List Event) :
    InOrder ((new c).runInMemory events) := by
  have hs := settled_runInMemory c events
  obtain ⟨events', hrun, -⟩ := exists_run_eq (new c) events
  rw [hrun] at hs ⊢
  exact ⟨inUse_run c events', hs, (fresh_new c).run events'⟩

/-- The order in which pools were entered does not matter to the order of a manager. -/
lemma InOrder.of_perm (h : m.InOrder) {entries : Assoc TenantId PoolId}
    (hperm : entries.toList.Perm m.entries.toList) : InOrder { m with entries } := by
  have hget := Assoc.get?_eq_of_perm hperm
  have hcollect : (entries.collect m.connectionsOf).Perm (m.entries.collect m.connectionsOf) :=
    hperm.filterMap _
  refine ⟨⟨⟨?_, ?_, ?_⟩, ?_, hcollect.nodup_iff.2 h.nodup⟩, h.settled, h.fresh⟩
  · intro t t' id ht ht'
    exact h.mapped.injective ((hget t).symm.trans ht) ((hget t').symm.trans ht')
  · intro t id ht
    exact h.mapped.exists_pool ((hget t).symm.trans ht)
  · intro id p hp
    simpa only [hget] using h.mapped.unclosed_iff hp
  · intro id hid
    exact h.isOpen id (hcollect.mem_iff.1 hid)

lemma config_runInMemory (c : Config) (events : List Event) :
    ((new c).runInMemory events).config = c := by
  obtain ⟨events', hrun, -⟩ := exists_run_eq (new c) events
  rw [hrun, config_run]

/-- Before the next event a request to evict pools has ended. -/
lemma InOrder.runInMemory_evict (h : m.InOrder) :
    m.runInMemory [.call .evict] =
      { m.discards m.due with
        nextTask := m.nextTask + 1
        outcomes := m.outcomes.insert m.nextTask (.count m.due.length) } :=
  settle_evict h.settled h.fresh h.mapped

/-- A pool that is due has its connections closed, which were open. -/
lemma InOrder.closed_discards (h : m.InOrder) :
    (m.discards m.due).ledger.closed = m.ledger.closed + m.due.length :=
  h.toInUse.closed_discards m.sublist_due.subperm

/-- What is not due stays. -/
lemma kept_of_not_isDue {p : Pool} (hp : m.pools[id]? = some p) (hdue : ¬m.IsDue p) :
    (m.discards m.due).pools[id]? = some p ∧
      ∀ t, m.entries.get? t = some id → (m.discards m.due).entries.get? t = some id := by
  have hnot {x : Doomed} (hx : x ∈ m.due) : x.2.1 ≠ id := by
    rintro rfl
    obtain ⟨-, p', hp', hdue', -⟩ := mem_due.1 hx
    rw [hp] at hp'
    cases hp'
    exact hdue hdue'
  constructor
  · have hid : id ∉ m.due.map (·.2.1) := by
      rw [List.mem_map]
      rintro ⟨x, hx, heq⟩
      exact hnot hx heq
    rw [getElem?_pools_discards, hp, Option.map_some, if_neg hid]
  · intro t ht
    rw [Assoc.get?_eq_some_iff, toList_entries_discards, List.mem_filter]
    refine ⟨Assoc.get?_eq_some_iff.1 ht, ?_⟩
    rw [decide_eq_true_iff, List.mem_map]
    rintro ⟨x, hx, rfl⟩
    have hentry := (mem_due.1 hx).1
    rw [ht] at hentry
    exact hnot hx (Option.some.inj hentry).symm

/-- In every state that a manager can be in over a backend in memory, and at every time, a request
to evict pools takes those out of use that are due, and closes them. It ends at once with their
number; as many slots are given back and as many connections closed; the reasons are recorded; and
all other pools stay as they are. A round of the loop does the same. In whatever order pools are
gone through, only the order in which pools are recorded is another one. A pool that was used, and
since then no longer ago than pools may be idle, stays unless its last ping failed. -/
theorem eviction_exact (c : Config) (events : List Event) :
    let m := (new c).runInMemory events
    let m' := m.runInMemory [.call .evict]
    (m'.outcomes.get? m.nextTask = some (.count m.due.length) ∧
      m'.entries.toList = m.entries.toList.filter (fun e => e.1 ∉ m.due.map Prod.fst) ∧
      m'.slots = m.slots - m.due.length ∧
      (∀ id, m'.pools[id]? = (m.pools[id]?).map fun p =>
        if id ∈ m.due.map (·.2.1) then { p with closed := true } else p) ∧
      m'.ledger.opened = m.ledger.opened ∧
      m'.ledger.closed = m.ledger.closed + m.due.length ∧
      (∀ id, m'.ledger.isClosed id = true ↔
        m.ledger.isClosed id = true ∨ ∃ x ∈ m.due, m.connectionsOf x.2.1 = some id) ∧
      m'.closures = m.closures ++ m.due.map (fun x => (x.1, x.2.2)) ∧
      m'.now = m.now ∧ m'.leases = m.leases ∧ m'.tasks = m.tasks) ∧
    (∀ k wake, m.tasks.get? k = some (.loopSleeping .eviction wake) → wake ≤ m.now →
      let round := m.runInMemory [.resume k .elapsed]
      round.entries = m'.entries ∧ round.pools = m'.pools ∧ round.ledger = m'.ledger ∧
        round.slots = m'.slots ∧ round.closures = m'.closures) ∧
    (∀ entries : Assoc TenantId PoolId, entries.toList.Perm m.entries.toList →
      let other := { m with entries }.runInMemory [.call .evict]
      other.entries.toList.Perm m'.entries.toList ∧ other.closures.Perm m'.closures ∧
        other = { m' with entries := other.entries, closures := other.closures }) ∧
    ∀ past e later id, events = past ++ e :: later → Touches ((new c).runInMemory past) e id →
      m.now - ((new c).runInMemory past).now ≤ c.idleTimeout.nanos →
      ∀ p, m.pools[id]? = some p → p.unhealthySince = none →
        m'.pools[id]? = some p ∧ ∀ t, m.entries.get? t = some id → m'.entries.get? t = some id := by
  intro m m'
  have h : m.InOrder := inOrder_runInMemory c events
  have hm' : m' = _ := h.runInMemory_evict
  refine ⟨?_, fun k wake hk hwake => ?_, fun entries hperm => ?_,
    fun past e later id hevents htouch hlate p hp hmark => ?_⟩
  · rw [hm']
    refine ⟨by simp [Assoc.get?_insert], toList_entries_discards m m.due, ?_,
      getElem?_pools_discards m m.due, ?_, h.closed_discards, fun id => ?_, ?_, ?_, ?_, ?_⟩
    · rw [discards_eq]
    · rw [discards_eq]
      exact Ledger.opened_foldl_close _ _
    · rw [discards_eq, Ledger.isClosed_foldl_close, Bool.or_eq_true, decide_eq_true_iff,
        List.mem_filterMap]
    all_goals rw [discards_eq]
  · intro round
    have hround : round = (m.discards m.due).rest k .eviction :=
      settle_evictionRound h.settled h.mapped hk hwake
    rw [hround, hm']
    unfold rest
    split <;> exact ⟨rfl, rfl, rfl, rfl, rfl⟩
  · intro other
    -- The pools that are due are the same, in another order.
    have hdue : (due { m with entries }).Perm m.due := hperm.filterMap _
    have hother : other = _ := (h.of_perm hperm).runInMemory_evict
    rw [discards_perm hdue, hdue.length_eq] at hother
    refine ⟨?_, ?_, ?_⟩
    · rw [hother, hm']
      simp only [toList_entries_discards]
      exact hperm.filter _
    · rw [hother, hm', discards_eq m]
      exact (hdue.map _).append_left _
    · rw [hother, hm', discards_eq, discards_eq]
      rfl
  · set used := (new c).runInMemory past
    have hrun : m = (used.step e).settle.runInMemory later := by
      simp only [m, hevents, runInMemory_append]
      rfl
    have hle : used.now ≤ (used.step e).settle.now :=
      (now_le_step used e).trans (Noted.settle _).now.ge
    have hused : m.UsedSince id used.now := by
      rw [hrun]
      exact (htouch.usedSince (settled_runInMemory c past)).runInMemory hle later
    have hlast := hused p hp
    have hconfig : m.config = c := config_runInMemory c events
    rw [hm']
    refine kept_of_not_isDue hp fun hdue => ?_
    obtain ⟨-, hmarked | ⟨-, hidle⟩⟩ := hdue
    · exact hmarked hmark
    · rw [hconfig] at hidle
      omega

/-- A pool that nobody uses for longer than pools may be idle, one of which a lease is given back at
the end of this time, and one whose database has failed a ping while it was held. -/
def idleAndUsed : List Event :=
  .call (.get "acme") :: acmeOpens 0 ++
    [.call (.lease "globex"), .resume 1 (.tenant (.ok globex)),
      .resume 1 (.opened (.ok ("globex_db", 2))), .resume 1 (.pinged (.ok ())),
      .call (.lease "initech"), .resume 2 (.tenant (.ok initech)),
      .resume 2 (.opened (.ok ("initech_db", 2))), .resume 2 (.pinged (.ok ())),
      .call .checkHealth, .resume 6 .proceed,
      .resume 6 (.pinged (.error (.unreachable "initech_db"))), .resume 3 .proceed,
      .advance (Duration.ofSeconds 1801).nanos, .drop 2, .drop 1]

/-- The first pool and the last one are evicted, each for its own reason, and the one that was given
back just now stays. -/
theorem eviction_exact_idleAndUsed :
    let past := (new (.new "app" "secret")).runInMemory idleAndUsed.dropLast
    let m := (new (.new "app" "secret")).runInMemory idleAndUsed
    let m' := m.runInMemory [.call .evict]
    Touches past (.drop 1) 1 ∧ m.now - past.now ≤ (Config.new "app" "secret").idleTimeout.nanos ∧
      m.due = [("acme", 0, "idle timeout"), ("initech", 2, "unhealthy")] ∧
      m'.outcomes.get? 7 = some (.count 2) ∧ m'.slots = 1 ∧
      m'.entries.toList = [("globex", 1)] ∧ m'.pools[1]? = m.pools[1]? ∧
      m'.closures = [("acme", "idle timeout"), ("initech", "unhealthy")] := by
  intro past m m'
  have htouch : Touches past (.drop 1) 1 := .dropped (by decide +kernel)
  have hnow : m.now - past.now ≤ (Config.new "app" "secret").idleTimeout.nanos := by
    decide +kernel
  have hdue : m.due = [("acme", 0, "idle timeout"), ("initech", 2, "unhealthy")] := by
    decide +kernel
  obtain ⟨⟨hcount, -⟩, -, -, hkept⟩ :=
    eviction_exact (.new "app" "secret") idleAndUsed
  change m'.outcomes.get? m.nextTask = _ at hcount
  have hpool : ∃ p, m.pools[1]? = some p ∧ p.unhealthySince = none :=
    ⟨(m.pools[1]?).get (by decide +kernel), by simp, by decide +kernel⟩
  obtain ⟨p, hp, hmark⟩ := hpool
  have hstays := (hkept idleAndUsed.dropLast (.drop 1) [] 1 rfl htouch hnow p hp hmark).1
  refine ⟨htouch, hnow, hdue, ?_, ?_, ?_, hstays.trans hp.symm, ?_⟩
  · have hnext : m.nextTask = 7 := by decide +kernel
    rw [← hnext, hcount, hdue]
    rfl
  · decide +kernel
  · decide +kernel
  · decide +kernel

end Tenancy.Manager
