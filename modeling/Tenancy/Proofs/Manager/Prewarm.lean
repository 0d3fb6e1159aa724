import Tenancy.Proofs.Manager.WarmingRun
import Tenancy.Proofs.Store.Listing

/-!
# Opening pools ahead of time under the limit

However the tasks of a request to open pools compete for the slots that are left, and in whatever
order they end: every tenant is tried, the request fails if an attempt does, and there are the pools
that there were and those of the attempts that succeeded. If nothing fails but for want of a slot,
as many pools are opened as there are slots, and no other connections: `Flawless`. All of this is
`prewarm_exact`.
-/

namespace Tenancy.Manager

variable {m₀ m m' : Manager} {k j : TaskId} {t : TenantId} {s : Stage} {a : Answer} {e : Event}
  {events : List Event} {tenants : List TenantId} {records : List Tenant} {log : List Attempt}
  {read : List (Except PoolError Unit)} {work : Nat} {outcome : Outcome} {next : Option Stage}
  {told : Option (Except PoolError Unit)}

/-! ### Runs without a fault -/

/-- Whether a task hears of a fault. -/
def Event.isFault (m : Manager) : Event → Bool
  | .resume j a => (Event.resume j a).isHeard m && !a.succeeds
  | _ => false

/-- No task hears of a fault. -/
def GoesWell (m : Manager) : List Event → Prop
  | [] => True
  | e :: events => e.isFault m = false ∧ (m.step e).GoesWell events

instance decidableGoesWell (m : Manager) : (events : List Event) → Decidable (m.GoesWell events)
  | [] => .isTrue trivial
  | e :: events =>
    let _ := decidableGoesWell (m.step e) events
    inferInstanceAs (Decidable (e.isFault m = false ∧ (m.step e).GoesWell events))

/-- The tenants that tasks try for the task `k` which wait at such a stage. -/
def tryingAt (m : Manager) (k : TaskId) (p : Stage → Bool) : List TenantId :=
  m.tasks.collect fun s => if p s then s.tries? k else none

/-- Where the request stands that came in as the task `m₀.nextTask` if there was no fault: only for
want of a slot attempts have failed. What was opened is in use, or a task tries it. -/
structure Flawless (m₀ : Manager) (log : List Attempt) (m : Manager) : Prop where
  going : ∀ j s t, m.tasks.get? j = some s → s.tries? m₀.nextTask = some t →
    s.isUndoing = false ∧ (s.hasSlot = true → m₀.entries.get? t = none)
  refused : ∀ t e, (t, .error e) ∈ log →
    e = .limitReached m₀.config.maxPools ∧ m.isFull = true ∧ m₀.entries.get? t = none
  slots : m.slots + m₀.entries.size =
    m₀.slots + m.entries.size + (m.tryingAt m₀.nextTask Stage.hasSlot).length
  least : m₀.slots ≤ m.slots
  most : 0 < m₀.config.maxPools → m.slots ≤ m₀.slots ∨ m.slots ≤ m₀.config.maxPools
  opened : m.ledger.opened + m₀.entries.size =
    m₀.ledger.opened + m.entries.size + (m.tryingAt m₀.nextTask Stage.isPinging).length
  closed : m.ledger.closed = m₀.ledger.closed

lemma Steps.length_tryingAt (h : Steps m k j next told m') (hj : m.tasks.get? j = some s)
    (ht : s.tries? k = some t)
    (hon : Onward k t next told) (p : Stage → Bool) :
    (m'.tryingAt k p).length + (p s).toNat =
      (m.tryingAt k p).length + next.elim 0 fun s' => (p s').toNat := by
  have hlength := (h.collect_perm hj fun s => if p s then s.tries? k else none).length_eq
  have hone {s : Stage} (ht : s.tries? k = some t) :
      (if p s then s.tries? k else none).toList.length = (p s).toNat := by
    rw [ht]
    cases p s <;> rfl
  rw [List.length_append, List.length_append, hone ht] at hlength
  cases hon with
  | waits ht' => rwa [Option.bind_some, hone ht'] at hlength
  | ends => exact hlength

lemma isFull_mono (hconfig : m'.config = m.config) (hle : m.slots ≤ m'.slots)
    (h : m.isFull = true) : m'.isFull = true := by
  simp only [isFull, Bool.and_eq_true, decide_eq_true_eq] at h ⊢
  rw [hconfig]
  exact ⟨h.1, h.2.trans hle⟩

namespace Flawless

/-- Nothing is opened, and the tasks that try to get a pool are the same but for those that wait for
their turn. -/
lemma of_same (h : Flawless m₀ log m)
    (hgoing : ∀ i s t, m'.tasks.get? i = some s → s.tries? m₀.nextTask = some t →
      m.tasks.get? i = some s ∨ s = .warmQueued m₀.nextTask t)
    (htrying : ∀ p : Stage → Bool, (∀ k t, p (.warmQueued k t) = false) →
      (m'.tryingAt m₀.nextTask p).length = (m.tryingAt m₀.nextTask p).length)
    (hconfig : m'.config = m.config) (hentries : m'.entries = m.entries)
    (hslots : m'.slots = m.slots) (hledger : m'.ledger = m.ledger) : Flawless m₀ log m' where
  going i s t hi ht := by
    rcases hgoing i s t hi ht with hold | rfl
    · exact h.going i s t hold ht
    · exact ⟨rfl, nofun⟩
  refused t e he := by
    obtain ⟨hlimit, hfull, hnone⟩ := h.refused t e he
    exact ⟨hlimit, isFull_mono hconfig hslots.ge hfull, hnone⟩
  slots := by
    rw [htrying _ fun _ _ => rfl, hslots, hentries]
    exact h.slots
  least := h.least.trans hslots.ge
  most hpos := by
    rw [hslots]
    exact h.most hpos
  opened := by
    rw [htrying _ fun _ _ => rfl, hledger, hentries]
    exact h.opened
  closed := by
    rw [hledger]
    exact h.closed

lemma of_still (h : Flawless m₀ log m) (hs : Still m m') : Flawless m₀ log m' := by
  refine h.of_same (fun i s t hi _ => .inl ?_) (fun p _ => ?_) hs.config hs.entries hs.slots
    hs.ledger
  · rwa [← hs.tasks]
  · rw [tryingAt, hs.tasks, tryingAt]

/-- What the request itself does opens nothing. -/
lemma of_passes (h : Flawless m₀ log m) (hp : Passes m m₀.nextTask m') : Flawless m₀ log m' := by
  refine h.of_same (fun i s t hi ht => .inl ?_) (fun p _ => ?_) hp.config hp.entries hp.slots
    hp.ledger
  · exact hp.get?_of_tries hi ht
  · refine (hp.collect_perm fun s hs => ?_).length_eq
    rw [hs, ite_self]

/-- The request starts a task for each tenant that is listed. -/
lemma of_spawned (h : Flawless m₀ log m)
    (hsp : Spawned m (records.map fun t => .warmQueued m₀.nextTask t.id) m') :
    Flawless m₀ log m' := by
  refine h.of_same (fun i s t hi ht => ?_) (fun p hp => ?_) (by rw [hsp.manager])
    (by rw [hsp.manager]) (by rw [hsp.manager]) (by rw [hsp.manager])
  · rcases Nat.lt_or_ge i m.nextTask with hold | hnew
    · exact .inl (by rwa [← hsp.older i hold])
    · obtain ⟨record, -, rfl⟩ := List.mem_map.1 (hsp.newer i s hnew hi)
      rw [tries?_warmQueued] at ht
      cases ht
      exact .inr rfl
  · rw [tryingAt, hsp.collect, List.filterMap_map]
    simp [tryingAt, hp]

/-- A task goes on or ends which tries to get a pool. -/
lemma of_steps (h : Flawless m₀ log m) (hj : m.tasks.get? j = some s)
    (ht : s.tries? m₀.nextTask = some t) (hst : Steps m m₀.nextTask j next told m')
    (hon : Onward m₀.nextTask t next told) (hconfig : m.config = m₀.config)
    (hnext : ∀ s', next = some s' →
      s'.isUndoing = false ∧ (s'.hasSlot = true → m₀.entries.get? t = none))
    (hrefused : ∀ e, told = some (.error e) → e = .limitReached m₀.config.maxPools ∧
      m.isFull = true ∧ m₀.entries.get? t = none)
    (hslots : m'.slots + s.hasSlot.toNat + m.entries.size =
      m.slots + next.elim 0 (fun s' => s'.hasSlot.toNat) + m'.entries.size)
    (hmore : m'.slots = m.slots ∨ m.isFull = false ∧ m'.slots = m.slots + 1)
    (hopened : m'.ledger.opened + s.isPinging.toNat + m.entries.size =
      m.ledger.opened + next.elim 0 (fun s' => s'.isPinging.toNat) + m'.entries.size)
    (hclosed : m'.ledger.closed = m.ledger.closed) :
    Flawless m₀ (log ++ (told.map (t, ·)).toList) m' := by
  have hle : m.slots ≤ m'.slots := by omega
  refine ⟨fun i s' t' hi ht' => ?_, fun t' e he => ?_, ?_, h.least.trans hle, fun hpos => ?_, ?_,
    hclosed.trans h.closed⟩
  · by_cases hij : i = j
    · subst hij
      rw [hst.own] at hi
      subst hi
      cases hon with
      | waits ht =>
        rw [ht] at ht'
        cases ht'
        exact hnext s' rfl
    · rw [hst.others i hij] at hi
      exact h.going i s' t' hi ht'
  · rcases List.mem_append.1 he with hold | hnew
    · obtain ⟨hlimit, hfull, hnone⟩ := h.refused t' e hold
      exact ⟨hlimit, isFull_mono hst.config hle hfull, hnone⟩
    · obtain ⟨r, hr, heq⟩ := Option.map_eq_some_iff.1 (Option.mem_toList.1 hnew)
      cases heq
      obtain ⟨hlimit, hfull, hnone⟩ := hrefused e hr
      exact ⟨hlimit, isFull_mono hst.config hle hfull, hnone⟩
  · have := h.slots
    have := hst.length_tryingAt hj ht hon Stage.hasSlot
    omega
  · have hmost := h.most hpos
    rcases hmore with hsame | ⟨hfree, htaken⟩
    · rwa [hsame]
    · rw [isFull, hconfig] at hfree
      simp only [hpos, decide_true, Bool.true_and, decide_eq_false_iff_not, not_le] at hfree
      omega
  · have := h.opened
    have := hst.length_tryingAt hj ht hon Stage.isPinging
    omega

end Flawless

/-- A task that tries a tenant without a pool is the only one that could have entered one. -/
lemma Underway.none_of_trying (h : Underway m₀ tenants log read m) (hnodup : tenants.Nodup)
    (hj : m.tasks.get? j = some s)
    (ht : s.tries? m₀.nextTask = some t) (hnone : m₀.entries.get? t = none) :
    m.entries.get? t = none := by
  have hnot : t ∉ log.map Prod.fst := by
    have hdisjoint := List.disjoint_of_nodup_append (h.tenants.nodup_iff.2 hnodup)
    exact fun hlog => hdisjoint hlog (Assoc.mem_collect.2 ⟨j, s, hj, ht⟩)
  obtain ⟨entered, hlist, hmem⟩ := h.entered
  rw [Option.eq_none_iff_forall_ne_some]
  intro id hid
  rcases (Assoc.get?_of_toList_append hlist).1 hid with hold | hnew
  · rw [hnone] at hold
    cases hold
  · have hlog := ((hmem t).1 (List.mem_map.2 ⟨_, hnew, rfl⟩)).1
    exact hnot (List.mem_map.2 ⟨_, hlog, rfl⟩)

lemma Stage.hasSlot_of_isPinging (h : s.isPinging = true) : s.hasSlot = true := by
  cases s with
  | pinging => rfl
  | _ => cases h

namespace Flawless

/-- If there is no fault, what happens to a task that tries to get a pool is unspoilt. -/
lemma unspoilt (h : Flawless m₀ log m) (hu : Underway m₀ tenants log read m)
    (hnodup : tenants.Nodup) (hj : m.tasks.get? j = some s) (ht : s.tries? m₀.nextTask = some t)
    (htried : Tried m m₀.nextTask j t s a m') (hfault : (Event.resume j a).isFault m = false) :
    Unspoilt m m₀.nextTask j t s m' := by
  obtain ⟨hundoing, hslot⟩ := h.going j s t hj ht
  have hfree (hp : s.isPinging = true) : m.entries.get? t = none :=
    hu.none_of_trying hnodup hj ht (hslot (Stage.hasSlot_of_isPinging hp))
  by_cases ha : a.succeeds = true
  · exact htried.unspoilt ha hundoing hfree
  · have hheard : s.hears m j a = false := by
      simpa [Event.isFault, Event.isHeard, hj, ha] using hfault
    rw [htried.eq_of_unheard hheard]
    exact .unheard

/-- A task that tries to get a pool goes on or ends without a fault. -/
lemma of_unspoilt (h : Flawless m₀ log m) (hu : Underway m₀ tenants log read m)
    (hj : m.tasks.get? j = some s) (ht : s.tries? m₀.nextTask = some t)
    (hunspoilt : Unspoilt m m₀.nextTask j t s (m.step (.resume j a))) :
    Flawless m₀ (log ++ ((Event.resume j a).attempt? m m₀.nextTask).toList)
      (m.step (.resume j a)) := by
  generalize hm' : m.step (.resume j a) = m' at hunspoilt ⊢
  cases hunspoilt with
  | unheard =>
    rw [attempt?_of_eq (congrArg Manager.reports hm'), Option.toList_none, List.append_nil]
    exact h
  | waits hst ht' hs' hslot he hslots hfull hopened hclosed =>
    subst hm'
    rw [attempt?_of_steps hj ht hst]
    refine h.of_steps hj ht hst (.waits ht') hu.config ?_ nofun ?_ hfull ?_ hclosed
    · rintro _ ⟨⟩
      refine ⟨hs', fun hhas => ?_⟩
      rcases hslot hhas with hold | hnone
      · exact (h.going j s t hj ht).2 hold
      · exact hu.entered.none_of_none hnone
    · rw [he, hslots, Option.elim_some]
    · rw [he, hopened, Option.elim_some]
  | ends hst hs he hslots hledger hr =>
    have hp : s.isPinging = false := by
      rw [Bool.eq_false_iff]
      intro hp
      rw [Stage.hasSlot_of_isPinging hp] at hs
      cases hs
    subst hm'
    rw [attempt?_of_steps hj ht hst]
    refine h.of_steps hj ht hst .ends hu.config nofun ?_ ?_ (.inl hslots) ?_ (by rw [hledger])
    · intro e htold
      rw [← hu.config]
      obtain ⟨hlimit, hfull, hnone⟩ := hr e (Option.some.inj htold)
      exact ⟨hlimit, hfull, hu.entered.none_of_none hnone⟩
    · rw [he, hslots, hs]
      rfl
    · rw [he, hledger, hp]
      rfl
  | enters hst hs hnone he hslots hledger =>
    have hsize : m'.entries.size = m.entries.size + 1 := by
      rw [he, Assoc.size_insert_of_none hnone]
    subst hm'
    rw [attempt?_of_steps hj ht hst]
    refine h.of_steps hj ht hst .ends hu.config nofun nofun ?_ (.inl hslots) ?_ (by rw [hledger])
    · rw [hsize, hslots, Stage.hasSlot_of_isPinging hs, Bool.toNat_true, Option.elim_none]
      omega
    · rw [hsize, hledger, hs, Bool.toNat_true, Option.elim_none]
      omega

lemma awaitWarmed (h : Flawless m₀ log m)
    (hk : ∀ s, m.tasks.get? m₀.nextTask = some s → s.parent? = none) (warmed : Nat)
    (first : Option PoolError) : Flawless m₀ log (m.awaitWarmed m₀.nextTask warmed first) :=
  h.of_passes (.of_awaitWarmed hk warmed first)

lemma absorbWarmed {r : Except PoolError Unit} {warmed : Nat} {first : Option PoolError}
    (h : Flawless m₀ log m)
    (hk : m.tasks.get? m₀.nextTask = some (.gathering warmed first))
    (hr : m.nextReport? m₀.nextTask = some (.warmed r)) :
    Flawless m₀ log (m.absorbWarmed m₀.nextTask warmed first) := by
  have hdrop : Flawless m₀ log (m.dropReport m₀.nextTask) :=
    ⟨h.going, h.refused, h.slots, h.least, h.most, h.opened, h.closed⟩
  have hkeep (s) (hs : (m.dropReport m₀.nextTask).tasks.get? m₀.nextTask = some s) :
      s.parent? = none := by
    rw [show m.tasks.get? m₀.nextTask = some s from hs] at hk
    cases hk
    rfl
  simp only [Manager.absorbWarmed, hr]
  cases r with
  | ok => exact hdrop.awaitWarmed hkeep _ _
  | error e => exact hdrop.awaitWarmed hkeep _ _

/-- Whatever happens that is no fault, nothing has failed but for want of a slot. -/
theorem step (h : Flawless m₀ log m) (hw : Warming m₀ (records.map (·.id)) log m work)
    (hf : m.Fresh) (hnodup : (records.map (·.id)).Nodup) (he : e.LeavesAlone m₀.nextTask records)
    (hfault : e.isFault m = false) :
    Flawless m₀ (log ++ (e.attempt? m m₀.nextTask).toList) (m.step e) := by
  have hwarms := hw.warms he
  generalize hm' : m.step e = m' at hwarms ⊢
  cases hwarms with
  | still hs hnone _ =>
    rw [hnone, Option.toList_none, List.append_nil]
    exact h.of_still hs
  | tries hlt hj ht htried =>
    subst hm'
    cases hw with
    | listing hu _ _ =>
      rw [hu.not_tries hj] at ht
      cases ht
    | reading hu _ => exact h.of_unspoilt hu hj ht (h.unspoilt hu hnodup hj ht htried hfault)
  | lists hk =>
    rw [Warming.attempt?_self hk rfl, Option.toList_none, List.append_nil]
    have hsp := hf.spawned (records.map fun t => .warmQueued m₀.nextTask t.id)
    refine (h.of_spawned hsp).awaitWarmed (fun s hs => ?_) 0 none
    rw [hsp.older _ (hf _ _ hk), hk] at hs
    cases hs
    rfl
  | reads hk hr =>
    rw [Warming.attempt?_self hk rfl, Option.toList_none, List.append_nil]
    exact h.absorbWarmed hk hr

/-- The request comes in. -/
lemma start (hidle : m₀.expectsReports m₀.nextTask = false) :
    Flawless m₀ [] (m₀.step (.call .prewarm)) := by
  have hnone (p : Stage → Bool) : (m₀.step (.call .prewarm)).tryingAt m₀.nextTask p = [] := by
    rw [List.eq_nil_iff_forall_not_mem]
    intro t ht
    obtain ⟨j, s, hj, hs⟩ := Assoc.mem_collect.1 ht
    rw [tries?_of_prewarm hidle hj, ite_self] at hs
    cases hs
  refine ⟨fun j s t hj ht => ?_, nofun, ?_, le_rfl, fun _ => .inl le_rfl, ?_, rfl⟩
  · rw [tries?_of_prewarm hidle hj] at ht
    cases ht
  · rw [hnone, List.length_nil, Nat.cast_zero, add_zero]
    rfl
  · rw [hnone]
    rfl

theorem run (h : Flawless m₀ log m) (hw : Warming m₀ (records.map (·.id)) log m work) (hf : m.Fresh)
    (hnodup : (records.map (·.id)).Nodup)
    (he : ∀ e ∈ events, e.LeavesAlone m₀.nextTask records) (hwell : m.GoesWell events) :
    Flawless m₀ (log ++ m.attempts m₀.nextTask events) (m.run events) := by
  induction events generalizing m log work with
  | nil =>
    rw [attempts, List.append_nil]
    exact h
  | cons e rest ih =>
    have hfirst := he e List.mem_cons_self
    obtain ⟨work', hstep, -⟩ := hw.step hf hfirst
    have hrest := h.step hw hf hnodup hfirst hwell.1
    rw [attempts, ← List.append_assoc]
    exact ih hrest hstep (hf.step e) (fun e' he' => he e' (.tail _ he')) hwell.2

end Flawless

/-! ### How many pools are opened -/

/-- How many of the tenants have no pool. -/
def missing (m : Manager) (tenants : List TenantId) : Nat :=
  tenants.countP fun t => (m.entries.get? t).isNone

/-- How many of so many pools the slots that are left are enough for. -/
def roomFor (m : Manager) (pools : Nat) : Nat :=
  if m.config.maxPools = 0 then pools else min pools (m.config.maxPools - m.slots).toNat

lemma firstError?_eq_none_iff {results : List (Except PoolError Unit)} :
    firstError? results = none ↔ ∀ e, .error e ∉ results := by
  rw [firstError?, List.findSome?_eq_none_iff]
  constructor
  · intro h e he
    cases h _ he
  · intro h r hr
    cases r with
    | ok => rfl
    | error e => exact absurd hr (h e)

lemma mem_of_firstError? {results : List (Except PoolError Unit)} {e : PoolError}
    (h : firstError? results = some e) : .error e ∈ results := by
  obtain ⟨r, hr, hfirst⟩ := List.exists_of_findSome?_eq_some h
  cases r with
  | ok => cases hfirst
  | error e' =>
    cases hfirst
    exact hr

/-- A request to open pools ends with the first error, or else with the number of tenants. -/
lemma verdict_eq (results : List (Except PoolError Unit)) :
    verdict results = (firstError? results).elim (.count results.length) .failed := by
  unfold verdict
  cases h : firstError? results with
  | some e => rfl
  | none =>
    have hall : countOk results = results.length := by
      rw [countOk, List.countP_eq_length]
      intro r hr
      cases r with
      | ok => rfl
      | error e => exact absurd hr (firstError?_eq_none_iff.1 h e)
    simp only [Option.elim_none, hall]

/-- The tenants of the attempts that have failed. -/
def failures (log : List Attempt) : List TenantId := (log.filter fun x => !x.2.isOk).map Prod.fst

lemma mem_failures : t ∈ failures log ↔ ∃ e, (t, .error e) ∈ log := by
  simp only [failures, List.mem_map, List.mem_filter, Prod.exists, exists_and_right,
    exists_eq_right]
  constructor
  · rintro ⟨r, hr, hfailed⟩
    cases r with
    | ok => cases hfailed
    | error e => exact ⟨e, hr⟩
  · rintro ⟨e, he⟩
    exact ⟨.error e, he, rfl⟩

/-- The tenants without a pool that were tried are those for which a pool was entered and those for
which the attempt has failed. -/
lemma Entered.count_missing (h : Entered m₀ log m) (hnodup : (log.map Prod.fst).Nodup)
    (hrefused : ∀ t e, (t, .error e) ∈ log → m₀.entries.get? t = none) :
    m₀.missing (log.map Prod.fst) + m₀.entries.size = m.entries.size + (failures log).length := by
  obtain ⟨entered, hlist, hmem⟩ := h
  have hentered : (entered.map Prod.fst).Nodup := by
    have hall := m.entries.nodup
    rw [hlist, List.map_append] at hall
    exact (List.nodup_append.1 hall).2.1
  have hdisjoint : List.Disjoint (entered.map Prod.fst) (failures log) := by
    intro t ht hfailed
    obtain ⟨e, he⟩ := mem_failures.1 hfailed
    cases List.inj_on_of_nodup_map hnodup ((hmem t).1 ht).1 he rfl
  have hperm : ((log.map Prod.fst).filter fun t => (m₀.entries.get? t).isNone).Perm
      (entered.map Prod.fst ++ failures log) := by
    apply (List.perm_ext_iff_of_nodup (hnodup.filter _) ?_).2
    · intro t
      rw [List.mem_filter, List.mem_append, hmem, mem_failures, Option.isNone_iff_eq_none]
      constructor
      · rintro ⟨hlog, hnone⟩
        obtain ⟨⟨_, r⟩, hr, rfl⟩ := List.mem_map.1 hlog
        cases r with
        | ok => exact .inl ⟨hr, hnone⟩
        | error e => exact .inr ⟨e, hr⟩
      · rintro (⟨hlog, hnone⟩ | ⟨e, he⟩)
        · exact ⟨List.mem_map.2 ⟨_, hlog, rfl⟩, hnone⟩
        · exact ⟨List.mem_map.2 ⟨_, he, rfl⟩, hrefused t e he⟩
    · exact hentered.append ((List.filter_sublist.map _).nodup hnodup) hdisjoint
  have hlength := hperm.length_eq
  rw [← List.countP_eq_length_filter, List.length_append, List.length_map] at hlength
  rw [missing, hlength, Assoc.size, Assoc.size, hlist, List.length_append]
  omega

/-! ### Statements -/

/-- How a request to open pools for tenants has ended, with these attempts: it came in in the state
`m`, and there is the state `m'` when it has. -/
structure Prewarmed (m : Manager) (tenants : List TenantId) (attempts : List Attempt)
    (outcome : Outcome) (m' : Manager) : Prop where
  /-- Every tenant was tried. -/
  tried : (attempts.map Prod.fst).Perm tenants
  ends : outcome = (firstError? (attempts.map Prod.snd)).elim (.count tenants.length) .failed
  failed : (∃ e, outcome = .failed e) ↔ ∃ t e, (t, .error e) ∈ attempts
  /-- There are the pools that there were and those of the attempts that succeeded. -/
  entered : Entered m attempts m'
  pools : m'.pools.length + m.entries.size = m.pools.length + m'.entries.size
  inUse : m'.InUse

/-- What else holds then if nothing has failed but for want of a slot. -/
structure Filled (m : Manager) (tenants : List TenantId) (outcome : Outcome) (m' : Manager) :
    Prop where
  entries : m'.entries.size = m.entries.size + m.roomFor (m.missing tenants)
  slots : m'.slots = m.slots + m.roomFor (m.missing tenants)
  opened : m'.ledger.opened = m.ledger.opened + m.roomFor (m.missing tenants)
  closed : m'.ledger.closed = m.ledger.closed
  ends : outcome = if m.roomFor (m.missing tenants) = m.missing tenants
    then .count tenants.length else .failed (.limitReached m.config.maxPools)

lemma Underway.perm_of_trying
    (h : Underway m₀ tenants log read m) (hnone : m.trying m₀.nextTask = []) :
    (log.map Prod.fst).Perm tenants := by
  have hperm := h.tenants
  rwa [hnone, List.append_nil] at hperm

lemma tryingAt_eq_nil (h : m.trying k = []) (p : Stage → Bool) : m.tryingAt k p = [] := by
  rw [List.eq_nil_iff_forall_not_mem]
  intro t ht
  obtain ⟨j, s, hj, hs⟩ := Assoc.mem_collect.1 ht
  have hmem : t ∈ m.trying k :=
    Assoc.mem_collect.2 ⟨j, s, hj, (Option.ite_none_right_eq_some.1 hs).2⟩
  rw [h] at hmem
  cases hmem

namespace Flawless

/-- When nothing is tried any more, every slot that was taken is that of a pool that was entered. -/
lemma slots_of_trying (h : Flawless m₀ log m) (hnone : m.trying m₀.nextTask = []) :
    m.slots + m₀.entries.size = m₀.slots + m.entries.size := by
  have hslots := h.slots
  rwa [tryingAt_eq_nil hnone, List.length_nil, Nat.cast_zero, add_zero] at hslots

lemma opened_of_trying (h : Flawless m₀ log m) (hnone : m.trying m₀.nextTask = []) :
    m.ledger.opened + m₀.entries.size = m₀.ledger.opened + m.entries.size := by
  have hopened := h.opened
  rwa [tryingAt_eq_nil hnone, List.length_nil, add_zero] at hopened

/-- An attempt has failed only if there is a limit, and no slot is left. -/
lemma full_of_failures (h : Flawless m₀ log m) (hconfig : m.config = m₀.config)
    (hfailed : failures log ≠ []) :
    0 < m₀.config.maxPools ∧ (m₀.config.maxPools : Int) ≤ m.slots := by
  obtain ⟨t, ht⟩ := List.exists_mem_of_ne_nil _ hfailed
  obtain ⟨e, he⟩ := mem_failures.1 ht
  have hfull := (h.refused t e he).2.1
  rw [isFull, hconfig, Bool.and_eq_true] at hfull
  exact ⟨of_decide_eq_true hfull.1, of_decide_eq_true hfull.2⟩

/-- As many pools were entered as there was room for, and an attempt has failed if that was not
enough. -/
lemma room (h : Flawless m₀ log m) (hu : Underway m₀ tenants log read m) (hnodup : tenants.Nodup)
    (hnone : m.trying m₀.nextTask = []) :
    m.entries.size = m₀.entries.size + m₀.roomFor (m₀.missing tenants) ∧
      (failures log = [] ↔ m₀.roomFor (m₀.missing tenants) = m₀.missing tenants) := by
  have hperm := hu.perm_of_trying hnone
  have hcount : m₀.missing tenants + m₀.entries.size = m.entries.size + (failures log).length := by
    rw [missing, ← hperm.countP_eq, ← missing]
    exact hu.entered.count_missing (hperm.nodup_iff.2 hnodup) fun t e he => (h.refused t e he).2.2
  have hslots := h.slots_of_trying hnone
  have hfull := h.full_of_failures hu.config
  rw [ne_eq, ← List.length_eq_zero_iff] at hfull
  rw [← List.length_eq_zero_iff]
  unfold roomFor
  split
  next hmax => omega
  next hmax =>
    have hmost := h.most (Nat.pos_of_ne_zero hmax)
    have hleast := h.least
    rw [Nat.min_def]
    split <;> omega

end Flawless

/-! ### The result -/

lemma failures_eq_nil_iff : failures log = [] ↔ firstError? (log.map Prod.snd) = none := by
  rw [firstError?_eq_none_iff, List.eq_nil_iff_forall_not_mem]
  constructor
  · intro h e he
    obtain ⟨x, hx, heq⟩ := List.mem_map.1 he
    exact h x.1 (mem_failures.2 ⟨e, heq ▸ hx⟩)
  · intro h t ht
    obtain ⟨e, he⟩ := mem_failures.1 ht
    exact h e (List.mem_map.2 ⟨_, he, rfl⟩)

lemma Prewarmed.of_underway (h : Underway m₀ tenants log (log.map Prod.snd) m)
    (hnone : m.trying m₀.nextTask = [])
    (hout : outcome = verdict (log.map Prod.snd)) (hu : m.InUse) :
    Prewarmed m₀ tenants log outcome m := by
  have hperm := h.perm_of_trying hnone
  have hlength : (log.map Prod.snd).length = tenants.length := by
    rw [List.length_map, ← List.length_map, hperm.length_eq]
  have hends : outcome = (firstError? (log.map Prod.snd)).elim (.count tenants.length) .failed := by
    rw [hout, verdict_eq, hlength]
  refine ⟨hperm, hends, ?_, h.entered, h.pools, hu⟩
  have hfailed : (∃ t e, (t, .error e) ∈ log) ↔ firstError? (log.map Prod.snd) ≠ none := by
    rw [ne_eq, ← failures_eq_nil_iff, List.eq_nil_iff_forall_not_mem]
    simp only [mem_failures, not_forall, not_not]
  rw [hfailed, hends]
  cases firstError? (log.map Prod.snd) <;> simp

lemma Filled.of_flawless (h : Flawless m₀ log m) (hu : Underway m₀ tenants log (log.map Prod.snd) m)
    (hnodup : tenants.Nodup)
    (hnone : m.trying m₀.nextTask = []) (hp : Prewarmed m₀ tenants log outcome m) :
    Filled m₀ tenants outcome m := by
  obtain ⟨hentries, hfailed⟩ := h.room hu hnodup hnone
  have hslots := h.slots_of_trying hnone
  have hopened := h.opened_of_trying hnone
  refine ⟨hentries, by omega, by omega, h.closed, ?_⟩
  rw [hp.ends]
  cases hfirst : firstError? (log.map Prod.snd) with
  | none =>
    rw [if_pos (hfailed.1 (failures_eq_nil_iff.2 hfirst))]
    rfl
  | some e =>
    have hshort : m₀.roomFor (m₀.missing tenants) ≠ m₀.missing tenants := by
      intro heq
      rw [failures_eq_nil_iff.1 (hfailed.2 heq)] at hfirst
      cases hfirst
    obtain ⟨⟨t, r⟩, hmem, rfl⟩ := List.mem_map.1 (mem_of_firstError? hfirst)
    rw [if_neg hshort, (h.refused t e hmem).1]
    rfl

/-- However the tasks run that a request to open pools starts, it ends; and when it has, every
tenant was tried, it fails exactly if an attempt does, and there are the pools that there were and
those of the attempts that succeeded. If no task hears of a fault, as many pools are opened as there
are slots left for, nothing else is opened, and the request fails exactly if that is not enough.
What a directory lists are its active tenants, each once. -/
theorem prewarm_exact (c : Config) (past events : List Event) (tenants : List Tenant)
    (hopen : ((new c).run past).shuttingDown = false)
    (halone : ∀ e ∈ events, e.LeavesAlone ((new c).run past).nextTask tenants) :
    let m := (new c).run past
    let start := m.step (.call .prewarm)
    let attempts := start.attempts m.nextTask events
    let m' := start.run events
    (∀ h : Store.History, h.Reachable (fun _ change => change.Sized) →
      h.store.listWithStatus .active = .ok tenants →
        (tenants.map (·.id)).Nodup ∧
          ∀ t, t ∈ tenants ↔ h.store.get t.id = .ok (some t) ∧ t.status = .active) ∧
    start.heard events ≤ 6 * tenants.length + 1 ∧
    (m'.outcomes.get? m.nextTask = none →
      ∃ j a, (Event.resume j a).LeavesAlone m.nextTask tenants ∧
        (Event.resume j a).isHeard m' = true ∧ a.succeeds = true) ∧
    ∀ outcome, m'.outcomes.get? m.nextTask = some outcome →
      Prewarmed m (tenants.map (·.id)) attempts outcome m' ∧
      ((tenants.map (·.id)).Nodup → start.GoesWell events →
        Filled m (tenants.map (·.id)) outcome m') := by
  intro m start attempts m'
  have hf : m.Fresh := (fresh_new c).run past
  have hidle := (kin_run c past).expectsReports_nextTask hf
  have hstart := Warming.start hf (kin_run c past) ((answered_new c).run (fresh_new c) past) hopen
    (tenants.map (·.id))
  obtain ⟨work, hrun, hle⟩ := hstart.run (hf.step _) halone
  rw [List.nil_append] at hrun
  refine ⟨fun h hr => Store.listed_of_reachable hr, ?_, hrun.exists_heard, fun outcome hout => ?_⟩
  · rw [List.length_map] at hle
    exact (Nat.le_add_right _ _).trans hle
  · obtain ⟨hu, hnone, hends⟩ := hrun.ended hout
    have hin : m'.InUse := by
      have h := inUse_run c (past ++ .call .prewarm :: events)
      rwa [run_append] at h
    have hp := Prewarmed.of_underway hu hnone hends hin
    refine ⟨hp, fun hnodup hwell => ?_⟩
    have hflawless := (Flawless.start hidle).run hstart (hf.step _) hnodup halone hwell
    exact .of_flawless hflawless hu hnodup hnone hp

/-- Of three tenants one has a pool. The two others compete for a slot, and the second of them comes
too late while connections are opened for the first. -/
def competing : List Event :=
  [.resume 1 (.tenants (.ok [acme, globex, initech])), .resume 3 .proceed,
    .resume 3 (.tenant (.ok globex)), .resume 4 .proceed,
    .resume 3 (.opened (.ok ("globex_db", 2))), .resume 2 .proceed, .resume 1 .proceed,
    .resume 3 (.pinged (.ok ())), .resume 1 .proceed, .resume 1 .proceed]

theorem prewarm_exact_competing :
    let m := (new { Config.new "app" "secret" with maxPools := 2 }).run
      (.call (.get "acme") :: acmeOpens 0)
    let start := m.step (.call .prewarm)
    let m' := start.run competing
    m.missing ["acme", "globex", "initech"] = 2 ∧ m.roomFor 2 = 1 ∧
    start.attempts 1 competing =
      [("initech", .error (.limitReached 2)), ("acme", .ok ()), ("globex", .ok ())] ∧
    Prewarmed m ["acme", "globex", "initech"] (start.attempts 1 competing)
      (.failed (.limitReached 2)) m' ∧
    Filled m ["acme", "globex", "initech"] (.failed (.limitReached 2)) m' := by
  intro m start m'
  have halone : ∀ e ∈ competing, e.LeavesAlone m.nextTask [acme, globex, initech] := by
    have hnext : m.nextTask = 1 := by decide +kernel
    simp [hnext, competing, Event.LeavesAlone]
  obtain ⟨-, -, -, hends⟩ := prewarm_exact { Config.new "app" "secret" with maxPools := 2 }
    (.call (.get "acme") :: acmeOpens 0) competing [acme, globex, initech] (by decide +kernel)
    halone
  have hout : m'.outcomes.get? m.nextTask = some (.failed (.limitReached 2)) := by decide +kernel
  obtain ⟨hprewarmed, hfilled⟩ := hends _ hout
  refine ⟨by decide +kernel, by decide +kernel, by decide +kernel, hprewarmed, ?_⟩
  exact hfilled (by decide) (by decide +kernel)

end Tenancy.Manager
