import Mathlib.Data.Finset.Card
import Tenancy.Proofs.Manager.Shutdown

/-!
# What a drain reports

A drain waits until nobody holds a pool, though not beyond its deadline. Then it counts the pools
that are held, shuts the manager down and gives the number. But it takes the pools out of use only
when the loops have ended, and one after another, and meanwhile pools are given back. `drain_tally`
compares the number with the pools that are held when the drain takes them out of use: it is right
if the drain is left alone.
-/

namespace Tenancy.Manager

variable {m m' : Manager} {k : TaskId} {e : Event} {n deadline wake : Nat} {s : Stage}
  {t : TenantId} {id : PoolId}

/-! ### Pools that are held -/

/-- The pools in use that somebody holds. -/
def heldPools (m : Manager) : List PoolId := (m.snapshot.map Prod.snd).filter m.isReferenced

/-- The pool that a task takes out of use as it shuts the manager down, if the event reaches it. -/
def shutOut? (m : Manager) (k : TaskId) (e : Event) : Option PoolId :=
  match e.origin? m, (m.step e).tasks.get? k with
  | some (task, _), some (.closing t id _ (.shutdown _ _)) =>
    if task = k ∧ m.holds t id ∧ ¬(m.step e).holds t id then some id else none
  | _, _ => none

/-- The pools that a task takes out of use, as it shuts the manager down, although somebody holds
them. -/
def forced (m : Manager) (k : TaskId) : List Event → List PoolId
  | [] => []
  | e :: rest => ((m.shutOut? k e).filter m.isReferenced).toList ++ (m.step e).forced k rest

/-- A task that shuts the manager down is left alone: nobody takes pools or gives them back, and no
other task takes one out of use. -/
def LeftAlone (m : Manager) (k : TaskId) : List Event → Prop
  | [] => True
  | e :: rest =>
    (∀ id, (m.step e).isReferenced id = m.isReferenced id) ∧
    (∀ t id, m.entries.get? t = some id →
      (m.step e).entries.get? t = some id ∨ m.shutOut? k e = some id) ∧
    (m.step e).LeftAlone k rest

lemma length_heldPools (m : Manager) : m.heldPools.length = m.referencedPools := by
  rw [heldPools, referencedPools, ← List.countP_eq_length_filter, List.countP_map]
  rfl

lemma mem_heldPools :
    id ∈ m.heldPools ↔ (∃ t, m.entries.get? t = some id) ∧ m.isReferenced id = true := by
  simp [heldPools, snapshot, Assoc.get?_eq_some_iff]

lemma nodup_heldPools (h : Mapped m.entries m.pools) : m.heldPools.Nodup := by
  apply List.Nodup.filter
  refine List.Nodup.map_on ?_ (.of_map _ m.entries.nodup)
  rintro ⟨t, id⟩ ht ⟨t', id'⟩ ht' heq
  obtain rfl : id = id' := heq
  rw [h.injective (Assoc.get?_eq_some_iff.2 ht) (Assoc.get?_eq_some_iff.2 ht')]

lemma exists_of_shutOut? (h : m.shutOut? k e = some id) :
    ∃ t, m.entries.get? t = some id ∧ (m.step e).entries.get? t ≠ some id := by
  unfold shutOut? at h
  split at h
  next t id' _ _ _ _ _ =>
    split_ifs at h with hholds
    cases h
    simp only [holds, decide_eq_true_eq] at hholds
    exact ⟨t, hholds.2⟩
  next => cases h

/-- A pool that is taken out of use is gone. -/
lemma gone_of_shutOut? (hr : Regular m) (h : m.shutOut? k e = some id) :
    id < m.pools.length ∧ (m.step e).Gone id := by
  obtain ⟨t, ht, ht'⟩ := exists_of_shutOut? h
  have hgone := (Turn.of_step hr.fresh e).entry_or_gone hr.mapped ht
  exact ⟨hr.mapped.lt_length ht, hgone.resolve_left ht'⟩

lemma forced_append (m : Manager) (k : TaskId) (events events' : List Event) :
    m.forced k (events ++ events') = m.forced k events ++ (m.run events).forced k events' := by
  induction events generalizing m with
  | nil => rfl
  | cons e rest ih => simp only [List.cons_append, forced, ih, run_cons, List.append_assoc]

/-- A pool that is gone is not taken out of use again. -/
lemma not_mem_forced_of_gone (hr : Regular m) (hid : id < m.pools.length) (hg : m.Gone id)
    (events : List Event) : id ∉ m.forced k events := by
  induction events generalizing m with
  | nil => exact List.not_mem_nil
  | cons e rest ih =>
    have ht := Turn.of_step hr.fresh e
    rw [forced, List.mem_append, Option.mem_toList]
    rintro (hmem | hmem)
    · obtain ⟨t, ht, -⟩ := exists_of_shutOut? (Option.eq_some_of_filter_eq_some hmem)
      exact hg t ht
    · exact ih (hr.step e) (hid.trans_le ht.length_pools_le) (ht.gone hid hg) hmem

lemma nodup_forced (hr : Regular m) (k : TaskId) (events : List Event) :
    (m.forced k events).Nodup := by
  induction events generalizing m with
  | nil => exact List.nodup_nil
  | cons e rest ih =>
    rw [forced]
    cases hid : (m.shutOut? k e).filter m.isReferenced with
    | none => exact ih (hr.step e)
    | some id =>
      obtain ⟨hlt, hgone⟩ := gone_of_shutOut? hr (Option.eq_some_of_filter_eq_some hid)
      have hle := (Turn.of_step hr.fresh e).length_pools_le
      have hnot := not_mem_forced_of_gone (k := k) (hr.step e) (hlt.trans_le hle) hgone rest
      exact List.nodup_cons.2 ⟨hnot, ih (hr.step e)⟩

/-- Once the manager is shut down, only pools that are in use now are taken out of use. -/
lemma exists_of_mem_forced (hr : Regular m) (hdown : m.shuttingDown = true) {events : List Event}
    (h : id ∈ m.forced k events) : ∃ t, m.entries.get? t = some id := by
  induction events generalizing m with
  | nil => cases h
  | cons e rest ih =>
    have ht := Turn.of_step hr.fresh e
    rw [forced, List.mem_append, Option.mem_toList] at h
    rcases h with hmem | hmem
    · obtain ⟨t, ht, -⟩ := exists_of_shutOut? (Option.eq_some_of_filter_eq_some hmem)
      exact ⟨t, ht⟩
    · obtain ⟨t, hentry⟩ := ih (hr.step e) (ht.shuttingDown hdown) hmem
      exact ⟨t, ht.entries_of_shutDown hdown hentry⟩

/-! ### Tasks that have ended -/

/-- A task that has ended, or was cancelled, has no further outcome. -/
lemma outcomes_run_of_ended (hr : Regular m) (hlt : k < m.nextTask)
    (hnone : m.tasks.get? k = none) (events : List Event) :
    (m.run events).outcomes.get? k = m.outcomes.get? k := by
  induction events generalizing m with
  | nil => rfl
  | cons e rest ih =>
    have ht := Turn.of_step hr.fresh e
    have hk : ∀ o, e.origin? m ≠ some (k, o) := Event.origin?_ne_of_ended hlt hnone
    have hnone' : (m.step e).tasks.get? k = none := by
      cases hs : (m.step e).tasks.get? k with
      | none => rfl
      | some s => exact hnone ▸ (ht.get?_before hlt hk hs).symm
    have hrest := ih (hr.step e) (hlt.trans_le ht.nextTask_le) hnone'
    exact hrest.trans (ht.outcomes_of_not_reached hk)

/-! ### The number -/

/-- The number that a task gives when it has shut the manager down. -/
def Stage.count? : Stage → Option Nat
  | .joining count | .closing _ _ _ (.shutdown _ count) => count
  | _ => none

/-- A task that shuts the manager down is to give a number, unless it is cancelled. -/
structure Owes (m : Manager) (k : TaskId) (n : Nat) : Prop where
  waiting : ∀ s, m.tasks.get? k = some s → s.count? = some n
  ended : ∀ outcome, m.outcomes.get? k = some outcome → outcome = .count n

/-- Of the pools that it goes through, a task closes the first one that still is its tenant's. -/
lemma closeRest_cases (m : Manager) (k : TaskId) (count : Option Nat)
    (pools : List (TenantId × PoolId)) :
    m.closeRest k count pools = m.finishShutdown k count ∨
      ∃ t id rest, m.closeRest k count pools =
        m.beginClose k t id "shutdown" (.shutdown rest count) := by
  induction pools with
  | nil => exact .inl rfl
  | cons e rest ih =>
    obtain ⟨t, id⟩ := e
    rw [closeRest]
    split
    next => exact .inr ⟨t, id, rest, rfl⟩
    next => exact ih

/-- A task that starts to shut the manager down ends, waits for the loops, or closes a pool. -/
lemma beginShutdown_cases (m : Manager) (k : TaskId) (count : Option Nat) :
    ∃ m₁ : Manager, m₁.shuttingDown = true ∧ m₁.closed = true ∧ m₁.outcomes = m.outcomes ∧
      (m.beginShutdown k count = m₁.finishShutdown k count ∨
        m.beginShutdown k count = m₁.await k (.joining count) ∨
        ∃ t id rest, m.beginShutdown k count =
          m₁.beginClose k t id "shutdown" (.shutdown rest count)) := by
  simp only [beginShutdown]
  split
  next hclosed => exact ⟨{ m with shuttingDown := true }, rfl, hclosed, rfl, .inl rfl⟩
  next =>
    refine ⟨{ m with shuttingDown := true, closed := true }, rfl, rfl, rfl, ?_⟩
    unfold awaitLoops
    split
    next => exact .inr (.inl rfl)
    next => exact (closeRest_cases _ k count _).imp_right .inr

lemma beginShutdown_flags (m : Manager) (k : TaskId) (count : Option Nat) :
    (m.beginShutdown k count).shuttingDown = true ∧ (m.beginShutdown k count).closed = true := by
  obtain ⟨m₁, hdown, hclosed, -, heq | heq | ⟨t, id, rest, heq⟩⟩ := beginShutdown_cases m k count
  · rw [heq]
    cases count <;> exact ⟨hdown, hclosed⟩
  · rw [heq]
    exact ⟨hdown, hclosed⟩
  · rw [heq]
    exact ⟨hdown, hclosed⟩

lemma owes_await (hout : m.outcomes.get? k = none) (hs : s.count? = some n) :
    Owes (m.await k s) k n := by
  constructor
  · intro s' hs'
    rw [get?_await] at hs'
    cases hs'
    exact hs
  · intro outcome h
    rw [await, hout] at h
    cases h

lemma owes_finish (m : Manager) (k : TaskId) (n : Nat) : Owes (m.finish k (.count n)) k n := by
  constructor
  · intro s hs
    simp [finish, leave, Assoc.get?_erase] at hs
  · intro outcome h
    simpa [finish, Assoc.get?_insert, eq_comm] using h

lemma owes_closeRest (hout : m.outcomes.get? k = none) (pools : List (TenantId × PoolId)) :
    Owes (m.closeRest k (some n) pools) k n := by
  rcases closeRest_cases m k (some n) pools with heq | ⟨t, id, rest, heq⟩
  · rw [heq]
    exact owes_finish m k n
  · rw [heq]
    exact owes_await hout rfl

lemma owes_beginShutdown (hout : m.outcomes.get? k = none) :
    Owes (m.beginShutdown k (some n)) k n := by
  obtain ⟨m₁, -, -, houts, heq | heq | ⟨t, id, rest, heq⟩⟩ := beginShutdown_cases m k (some n)
  · rw [heq]
    exact owes_finish m₁ k n
  · rw [heq]
    exact owes_await (houts ▸ hout) rfl
  · rw [heq]
    exact owes_await (houts ▸ hout) rfl

lemma Owes.step (hr : Regular m) (hlt : k < m.nextTask) (h : Owes m k n) (e : Event) :
    Owes (m.step e) k n := by
  have ht := Turn.of_step hr.fresh e
  by_cases hk : ∃ o, e.origin? m = some (k, o)
  · obtain ⟨o, ho⟩ := hk
    obtain ⟨a, s, rfl, -, hs⟩ := Event.exists_resume ho hlt
    have hout := hr.pending k s hs
    have hcount := h.waiting s hs
    rw [step_resume hs]
    cases s with
    | joining count =>
      obtain rfl : count = some n := hcount
      cases a with
      | proceed =>
        simp only [answer]
        split
        next => exact h
        next => exact owes_closeRest hout _
      | _ => exact h
    | closing t id reason next =>
      cases next with
      | shutdown rest count =>
        obtain rfl : count = some n := hcount
        cases a with
        | closed =>
          refine owes_closeRest ?_ rest
          exact hout
        | _ => exact h
      | _ => cases hcount
    | _ => cases hcount
  · have hk : ∀ o, e.origin? m ≠ some (k, o) := fun o ho => hk ⟨o, ho⟩
    refine ⟨fun s hs => h.waiting s (ht.get?_before hlt hk hs), fun outcome hout => ?_⟩
    rw [ht.outcomes_of_not_reached hk] at hout
    exact h.ended outcome hout

lemma Owes.run (hr : Regular m) (hlt : k < m.nextTask) (h : Owes m k n) (events : List Event) :
    Owes (m.run events) k n := by
  induction events generalizing m with
  | nil => exact h
  | cons e rest ih =>
    have hle := (Turn.of_step hr.fresh e).nextTask_le
    exact ih (hr.step e) (hlt.trans_le hle) (h.step hr hlt e)

/-! ### The count -/

/-- With an event a drain stops waiting: it counts the pools that are held, and begins to shut the
manager down. -/
structure StopsWaiting (m : Manager) (e : Event) (k : TaskId) : Prop where
  reached : ∃ o, e.origin? m = some (k, o) ∧ o.mayClose = true
  stops : ∀ deadline wake, (m.step e).tasks.get? k ≠ some (.draining deadline wake)

/-- With an event a drain stops waiting, since nobody holds a pool or the deadline is over. -/
structure Settles (m : Manager) (e : Event) (k : TaskId) (deadline : Nat) : Prop where
  reached : ∃ o, e.origin? m = some (k, o) ∧ o.mayClose = true
  late : m.referencedPools ≠ 0 → deadline ≤ m.now
  owes : Owes (m.step e) k m.referencedPools
  down : (m.step e).shuttingDown = true
  closed : (m.step e).closed = true

lemma Settles.stopsWaiting (h : Settles m e k deadline) : StopsWaiting m e k := by
  refine ⟨h.reached, fun deadline wake hk => ?_⟩
  have hcount := h.owes.waiting _ hk
  cases hcount

/-- A drain that looks whether a pool is held goes on waiting or stops. -/
lemma waits_or_settles {m₁ : Manager} {o : Origin} (hr : Regular m)
    (ho : e.origin? m = some (k, o)) (hmay : o.mayClose = true)
    (hrefs : m₁.referencedPools = m.referencedPools) (hnow : m₁.now = m.now)
    (houts : m₁.outcomes = m.outcomes) (heq : m.step e = m₁.drainRound k deadline) :
    (∃ wake, (m.step e).tasks.get? k = some (.draining deadline wake)) ∨
      Settles m e k deadline := by
  unfold drainRound at heq
  split at heq
  next hdone =>
    have hflags := beginShutdown_flags m₁ k m₁.referencedPools
    rw [← heq] at hflags
    refine .inr ⟨⟨o, ho, hmay⟩, ?_, ?_, hflags.1, hflags.2⟩
    · rw [hrefs, hnow] at hdone
      exact hdone.resolve_left
    · rw [heq, hrefs]
      exact owes_beginShutdown (houts ▸ hr.outcomes_eq_none ho)
  next =>
    rw [heq]
    exact .inl ⟨_, get?_await ..⟩

/-- A drain that waits, and comes to an end, stops waiting with some event. -/
lemma exists_settles (hr : Regular m) (hk : m.tasks.get? k = some (.draining deadline wake))
    {events : List Event} (hout : (m.run events).outcomes.get? k ≠ none) :
    ∃ early e late, events = early ++ e :: late ∧ Settles (m.run early) e k deadline ∧
      m.forced k early = [] := by
  induction events generalizing m wake with
  | nil => exact absurd (hr.pending k _ hk) hout
  | cons e rest ih =>
    have hlt := hr.fresh k _ hk
    have ht := Turn.of_step hr.fresh e
    have hwaits : ∀ wake', (m.step e).tasks.get? k = some (.draining deadline wake') →
        ∃ early e' late, e :: rest = early ++ e' :: late ∧
          Settles (m.run early) e' k deadline ∧ m.forced k early = [] := by
      intro wake' hk'
      obtain ⟨early, e', late, rfl, hsettles, hforced⟩ := ih (hr.step e) hk' hout
      refine ⟨e :: early, e', late, rfl, hsettles, ?_⟩
      simp [forced, shutOut?, hk', hforced]
    by_cases hreached : ∃ o, e.origin? m = some (k, o)
    · obtain ⟨o, ho⟩ := hreached
      obtain ⟨a, s, rfl, rfl, hs⟩ := Event.exists_resume ho hlt
      obtain rfl : .draining deadline wake = s := Option.some.inj (hk.symm.trans hs)
      have hstep := step_resume hk
      by_cases hwake : a = .elapsed ∧ wake ≤ m.now
      · obtain ⟨rfl, hwake⟩ := hwake
        have heq : m.step (.resume k .elapsed) = m.drainRound k deadline := by
          rw [hstep]
          exact if_pos hwake
        rcases waits_or_settles hr ho rfl rfl rfl rfl heq with ⟨wake', hk'⟩ | hsettles
        · exact hwaits wake' hk'
        · exact ⟨[], _, rest, rfl, hsettles, rfl⟩
      · refine hwaits wake ?_
        rw [hstep]
        cases a with
        | elapsed =>
          have hearly : ¬wake ≤ m.now := fun h => hwake ⟨rfl, h⟩
          simp only [answer, if_neg hearly]
          exact hk
        | _ => exact hk
    · have hreached : ∀ o, e.origin? m ≠ some (k, o) := fun o ho => hreached ⟨o, ho⟩
      cases hs : (m.step e).tasks.get? k with
      | none =>
        -- The drain was cancelled.
        rw [run_cons, outcomes_run_of_ended (hr.step e) (hlt.trans_le ht.nextTask_le) hs,
          ht.outcomes_of_not_reached hreached, hr.pending k _ hk] at hout
        exact absurd rfl hout
      | some s =>
        refine hwaits wake (hs.trans ?_)
        rw [← ht.get?_before hlt hreached hs, hk]

/-- A request to drain that comes to an end stops waiting with some event, at first or later. -/
lemma exists_settles_of_call (hr : Regular m) (patience : Duration) {events : List Event}
    (hout : (m.run (.call (.drain patience) :: events)).outcomes.get? m.nextTask ≠ none) :
    ∃ early e late, .call (.drain patience) :: events = early ++ e :: late ∧
      Settles (m.run early) e m.nextTask (m.now + patience.nanos) ∧
      m.forced m.nextTask early = [] := by
  let m₁ : Manager := { m with nextTask := m.nextTask + 1, shuttingDown := true }
  have ho : Event.origin? m (.call (.drain patience)) =
      some (m.nextTask, .call (.drain patience)) := rfl
  have hrefs : m₁.referencedPools = m.referencedPools := rfl
  have heq : m.step (.call (.drain patience)) =
      m₁.drainRound m.nextTask (m.now + patience.nanos) := rfl
  rcases waits_or_settles hr ho rfl hrefs rfl rfl heq with ⟨wake, hk⟩ | hsettles
  · obtain ⟨early, e, late, rfl, hsettles, hforced⟩ := exists_settles (hr.step _) hk hout
    refine ⟨.call (.drain patience) :: early, e, late, rfl, hsettles, ?_⟩
    simp [forced, shutOut?, hk, hforced]
  · exact ⟨[], _, events, rfl, hsettles, rfl⟩

/-! ### After the count -/

/-- No pool comes into use as a task starts to shut the manager down. -/
lemma entries_of_mayClose {o : Origin} (hf : m.Fresh) (ho : e.origin? m = some (k, o))
    (hmay : o.mayClose = true) (ht : (m.step e).entries.get? t = some id) :
    m.entries.get? t = some id := by
  obtain ⟨m₀, q, -, -, hm⟩ := Move.of_step hf ho
  cases hm.entryChange.quiet q with
  | kept h => exact (h t).symm.trans ht
  | entered hpinging =>
    rw [hpinging] at hmay
    cases hmay
  | closed _ _ _ he =>
    rw [he, Assoc.get?_erase] at ht
    split_ifs at ht
    exact ht

/-- The drain takes only pools out of use that were in use when it counted. -/
lemma Settles.exists_of_mem_forced (hr : Regular m) (h : Settles m e k deadline)
    {late : List Event} (hid : id ∈ m.forced k (e :: late)) :
    ∃ t, m.entries.get? t = some id := by
  rw [forced, List.mem_append, Option.mem_toList] at hid
  rcases hid with hmem | hmem
  · obtain ⟨t, ht, -⟩ := exists_of_shutOut? (Option.eq_some_of_filter_eq_some hmem)
    exact ⟨t, ht⟩
  · obtain ⟨t, ht⟩ := Manager.exists_of_mem_forced (hr.step e) h.down hmem
    obtain ⟨o, ho, hmay⟩ := h.reached
    exact ⟨t, entries_of_mayClose hr.fresh ho hmay ht⟩

/-- The request that shuts the manager down goes on, unless it is cancelled. -/
lemma Closing.step_or_cancelled (hr : Regular m) (h : Closing m k) (e : Event) :
    Closing (m.step e) k ∨
      (m.step e).tasks.get? k = none ∧ (m.step e).outcomes.get? k = none := by
  cases he : e.isCancel with
  | false => exact .inl (h.step hr.fresh he)
  | true =>
    have ht := Turn.of_step hr.fresh e
    have hk : ∀ o, e.origin? m ≠ some (k, o) := by
      intro o ho
      cases e with
      | cancel => cases ho
      | _ => cases he
    have hcovers : m.tasks.get? k = (m.step e).tasks.get? k → Closing (m.step e) k := by
      intro hsame
      refine ⟨ht.shuttingDown h.down, h.started.trans_le ht.nextTask_le, ?_⟩
      exact (hsame ▸ h.covers).mono fun t id => ht.entries_of_shutDown h.down
    cases hs' : (m.step e).tasks.get? k with
    | some s => exact .inl (hcovers ((ht.get?_before h.started hk hs').trans hs'.symm))
    | none =>
      cases hs : m.tasks.get? k with
      | none => exact .inl (hcovers (hs.trans hs'.symm))
      | some s =>
        exact .inr ⟨rfl, (ht.outcomes_of_not_reached hk).trans (hr.pending k s hs)⟩

/-- A drain that is left alone takes every pool out of use that is held. -/
lemma mem_forced_of_leftAlone (hr : Regular m) {rest : List Event} (hc : Closing (m.step e) k)
    (hleft : m.LeftAlone k (e :: rest)) (hout : ((m.step e).run rest).outcomes.get? k ≠ none)
    (ht : m.entries.get? t = some id) (href : m.isReferenced id = true) :
    id ∈ m.forced k (e :: rest) := by
  induction rest generalizing m e with
  | nil =>
    obtain ⟨-, hkept, -⟩ := hleft
    rw [forced, List.mem_append, Option.mem_toList]
    rcases hkept t id ht with hentry | hshut
    · -- When the drain has ended no pool is in use.
      have hended := (hr.step e).get?_eq_none_of_ended hout
      rw [(hc.isDown hended).entries t] at hentry
      cases hentry
    · exact .inl (by simp [hshut, href])
  | cons e' rest ih =>
    obtain ⟨hsame, hkept, hrest⟩ := hleft
    rw [forced, List.mem_append, Option.mem_toList]
    rcases hkept t id ht with hentry | hshut
    · right
      rcases hc.step_or_cancelled (hr.step e) e' with hc' | ⟨hnone, hnone'⟩
      · exact ih (hr.step e) hc' hrest hout hentry ((hsame id).trans href)
      · have hlt := hc.started.trans_le (Turn.of_step (hr.step e).fresh e').nextTask_le
        rw [run_cons, outcomes_run_of_ended ((hr.step e).step e') hlt hnone] at hout
        exact absurd hnone' hout
    · exact .inl (by simp [hshut, href])

/-- A drain that is left alone takes no other pool out of use that is held. -/
lemma isReferenced_of_mem_forced {events : List Event} (hleft : m.LeftAlone k events)
    (h : id ∈ m.forced k events) : m.isReferenced id = true := by
  induction events generalizing m with
  | nil => cases h
  | cons e rest ih =>
    obtain ⟨hsame, -, hrest⟩ := hleft
    rw [forced, List.mem_append, Option.mem_toList] at h
    rcases h with hmem | hmem
    · exact (Option.filter_eq_some_iff.1 hmem).2
    · exact (hsame id).symm.trans (ih hrest hmem)

/-! ### Every run -/

/-- The number that a drain gives, when it has ended, is that of the pools that it took out of use
although somebody held them. -/
def CountsForced (m : Manager) (patience : Duration) (events : List Event) : Prop :=
  ∀ n, (m.run (.call (.drain patience) :: events)).outcomes.get? m.nextTask = some (.count n) →
    n = (m.forced m.nextTask (.call (.drain patience) :: events)).length

/-- Every drain that ends gives the number of pools that were held when it stopped waiting. If there
were any the deadline was over. Before that moment the drain took no pool out of use, and afterwards
none that was not in use then. The number is that of the pools that were held when the drain took
them out of use exactly if as many pools were counted in vain as came to be held only after the
count. So it is if the drain was left alone from then on and the pools were not closed before. -/
theorem drain_tally (c : Config) (past : List Event) (patience : Duration) (events : List Event)
    (n : Nat)
    (hended : (((new c).run past).run (.call (.drain patience) :: events)).outcomes.get?
      ((new c).run past).nextTask = some (.count n)) :
    let m := (new c).run past
    let k := m.nextTask
    let taken := m.forced k (.call (.drain patience) :: events)
    ∃ early e late, .call (.drain patience) :: events = early ++ e :: late ∧
      let m₀ := m.run early
      StopsWaiting m₀ e k ∧
      n = m₀.referencedPools ∧
      (n ≠ 0 → m.now + patience.nanos ≤ m₀.now) ∧
      taken = m₀.forced k (e :: late) ∧ taken.Nodup ∧
      (∀ id ∈ taken, ∃ t, m₀.entries.get? t = some id) ∧
      (m.CountsForced patience events ↔
        (m₀.heldPools.toFinset \ taken.toFinset).card =
          (taken.toFinset \ m₀.heldPools.toFinset).card) ∧
      (m₀.closed = false → m₀.LeftAlone k (e :: late) → m.CountsForced patience events) := by
  intro m k taken
  have hr : Regular m := (Regular.new c).run past
  have hout : (m.run (.call (.drain patience) :: events)).outcomes.get? k ≠ none := by
    rw [hended]
    exact nofun
  obtain ⟨early, e, late, hsplit, hsettles, hbefore⟩ := exists_settles_of_call hr patience hout
  refine ⟨early, e, late, hsplit, ?_⟩
  intro m₀
  have hr₀ : Regular m₀ := hr.run early
  have htaken : taken = m₀.forced k (e :: late) := by
    change m.forced k _ = _
    rw [hsplit, forced_append, hbefore]
    rfl
  have hrun : m.run (.call (.drain patience) :: events) = (m₀.step e).run late := by
    rw [hsplit, run_append]
    rfl
  have hstarted : k < (m₀.step e).nextTask := by
    obtain ⟨o, ho, -⟩ := hsettles.reached
    obtain ⟨m₁, -, hlt, -, hm⟩ := Move.of_step hr₀.fresh ho
    exact hlt.trans_le hm.nextTask_le
  have hn : n = m₀.referencedPools := by
    have howes := hsettles.owes.run (hr₀.step e) hstarted late
    have hcount := howes.ended (.count n) (hrun ▸ hended)
    cases hcount
    rfl
  have hcounts : m.CountsForced patience events ↔ n = taken.length :=
    ⟨fun h => h n hended, fun h n' hn' => by
      rw [hended] at hn'
      cases hn'
      exact h⟩
  have hnodup : taken.Nodup := nodup_forced hr k _
  have hinUse : ∀ id ∈ taken, ∃ t, m₀.entries.get? t = some id := by
    intro id hid
    rw [htaken] at hid
    exact hsettles.exists_of_mem_forced hr₀ hid
  refine ⟨hsettles.stopsWaiting, hn, ?_, htaken, hnodup, hinUse, ?_, ?_⟩
  · rw [hn]
    exact hsettles.late
  · rw [hcounts, hn, ← length_heldPools, Finset.card_sdiff_eq_card_sdiff_iff,
      List.toFinset_card_of_nodup (nodup_heldPools hr₀.mapped),
      List.toFinset_card_of_nodup hnodup]
  · intro hopen hleft
    have hclosing : Closing (m₀.step e) k :=
      Performs.closing hr₀.fresh ⟨hopen, hsettles.closed, hsettles.reached⟩
    have hperm : m₀.heldPools.Perm taken := by
      refine (List.perm_ext_iff_of_nodup (nodup_heldPools hr₀.mapped) hnodup).2 fun id => ?_
      rw [mem_heldPools]
      constructor
      · rintro ⟨⟨t, ht⟩, href⟩
        rw [htaken]
        exact mem_forced_of_leftAlone hr₀ hclosing hleft (hrun ▸ hout) ht href
      · intro hid
        exact ⟨hinUse id hid, isReferenced_of_mem_forced hleft (htaken ▸ hid)⟩
    rw [hcounts, hn, ← length_heldPools]
    exact hperm.length_eq

/-- A pool is lent, and a check of all pools pings it. The loop that evicts is asleep. -/
def lentAndPinged : List Event :=
  .call (.lease "acme") :: acmeOpens 0 ++
    [.call .start, .resume 2 .proceed, .resume 3 .proceed, .advance 60000000000,
      .resume 3 .elapsed, .resume 4 .proceed]

/-- A drain waits until its deadline and counts the pool. It closes the pool when the ping has been
answered and the loops have ended. -/
def drainedAtDeadline (meanwhile : List Event) : List Event :=
  [.advance 1000000000, .resume 5 .elapsed] ++ meanwhile ++
    [.resume 4 (.pinged (.ok ())), .resume 3 .proceed, .resume 2 .proceed, .resume 5 .proceed,
      .resume 5 .closed]

/-- The lease is kept all the time, and the number is right. -/
theorem drain_tally_atDeadline :
    let m := (new (.new "app" "secret")).run lentAndPinged
    let taken := m.forced 5 (.call (.drain (.ofSeconds 1)) :: drainedAtDeadline [])
    (m.run (.call (.drain (.ofSeconds 1)) :: drainedAtDeadline [])).outcomes.get? 5 =
      some (.count 1) ∧
    taken = [0] ∧ m.CountsForced (.ofSeconds 1) (drainedAtDeadline []) ∧
    ∃ early e, StopsWaiting (m.run early) e 5 ∧ (m.run early).referencedPools = 1 ∧
      61000000000 ≤ (m.run early).now := by
  intro m taken
  have hnext : m.nextTask = 5 := by decide +kernel
  have hended : (m.run (.call (.drain (.ofSeconds 1)) :: drainedAtDeadline [])).outcomes.get?
      m.nextTask = some (.count 1) := by
    decide +kernel
  have htaken : taken = [0] := by decide +kernel
  obtain ⟨early, e, late, -, hstops, hcount, hlate, -⟩ := drain_tally (.new "app" "secret")
    lentAndPinged (.ofSeconds 1) (drainedAtDeadline []) 1 hended
  have hnow : m.now + (Duration.ofSeconds 1).nanos = 61000000000 := by decide +kernel
  refine ⟨hnext ▸ hended, htaken, ?_, early, e, hnext ▸ hstops, hcount.symm, ?_⟩
  · intro n hn
    rw [hended] at hn
    cases hn
    rw [hnext]
    exact (congrArg List.length htaken).symm
  · exact hnow ▸ hlate one_ne_zero

/-- The lease is given back after the count, while the drain waits for the loops. The drain gives
the number one, but takes no pool out of use that is held. -/
theorem not_countsForced_droppedMeanwhile :
    let m := (new (.new "app" "secret")).run lentAndPinged
    let events := drainedAtDeadline [.drop 0]
    ¬ m.CountsForced (.ofSeconds 1) events ∧
    (m.run (.call (.drain (.ofSeconds 1)) :: events)).outcomes.get? 5 = some (.count 1) ∧
    (m.run (.call (.drain (.ofSeconds 1)) :: events)).closures = [("acme", "shutdown")] ∧
    m.forced 5 (.call (.drain (.ofSeconds 1)) :: events) = [] := by
  intro m events
  have hnext : m.nextTask = 5 := by decide +kernel
  have hended : (m.run (.call (.drain (.ofSeconds 1)) :: events)).outcomes.get? 5 =
      some (.count 1) := by
    decide +kernel
  have hforced : m.forced 5 (.call (.drain (.ofSeconds 1)) :: events) = [] := by decide +kernel
  refine ⟨fun h => ?_, hended, by decide +kernel, hforced⟩
  have hcount := h 1 (hnext ▸ hended)
  rw [hnext, hforced] at hcount
  cases hcount

end Tenancy.Manager
