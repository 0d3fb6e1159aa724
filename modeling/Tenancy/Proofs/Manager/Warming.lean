import Tenancy.Proofs.Manager.Attempt
import Tenancy.Proofs.Manager.Discard
import Tenancy.Proofs.Manager.Started

/-!
# Opening pools ahead of time

A request to open pools ahead of time starts a task for each tenant that is listed, and reads what
they tell in the order in which they end. `Warming` says where it stands, by the attempts that have
ended: the other tenants are those that tasks still try. What can happen meanwhile is `Warms`, and
an answer to one of the tasks leads on from such a state to another one, with less left to be heard.
-/

namespace Tenancy

namespace Assoc

variable {α β γ : Type} [DecidableEq α] {a b : Assoc α β} {key : α}

/-- What is collected from maps that differ under one key. -/
lemma collect_append_perm (h : ∀ other ≠ key, b.get? other = a.get? other) (f : β → Option γ) :
    (b.collect f ++ ((a.get? key).bind f).toList).Perm
      (a.collect f ++ ((b.get? key).bind f).toList) := by
  obtain ⟨rest, ha, hb, -⟩ := exists_rest h
  have hcollect {x : Assoc α β}
      (hx : x.toList.Perm (((x.get? key).map (key, ·)).toList ++ rest)) :
      (x.collect f).Perm (((x.get? key).bind f).toList ++ rest.filterMap fun e => f e.2) := by
    refine (hx.filterMap _).trans ?_
    rw [List.filterMap_append]
    cases x.get? key with
    | none => exact .refl _
    | some value => cases hv : f value <;> simp [hv]
  refine ((hcollect hb).append_right _).trans (.trans ?_ ((hcollect ha).append_right _).symm)
  refine List.perm_append_comm.trans ?_
  rw [List.append_assoc]
  exact List.perm_append_comm.append_left _

end Assoc

namespace Manager

variable {m₀ m m' : Manager} {k j : TaskId} {t : TenantId} {s : Stage} {a : Answer}
  {tenants : List TenantId}

/-! ### Attempts -/

/-- An attempt to get a pool for a tenant, with how it ended. -/
abbrev Attempt := TenantId × Except PoolError Unit

/-- The attempt for the task `k` that an event ends. -/
def Event.attempt? (m : Manager) (k : TaskId) : Event → Option Attempt
  | .resume j a => do
    let stage ← m.tasks.get? j
    let tenant ← stage.tries? k
    match (m.resume j a).reports[m.reports.length]? with
    | some (_, .warmed result) => some (tenant, result)
    | _ => none
  | _ => none

/-- The attempts for the task `k` that events end, in the order in which they end. -/
def attempts (m : Manager) (k : TaskId) : List Event → List Attempt
  | [] => []
  | e :: events => (e.attempt? m k).toList ++ (m.step e).attempts k events

/-- The first of the errors among results. -/
def firstError? (results : List (Except PoolError Unit)) : Option PoolError :=
  results.findSome? fun
    | .error e => some e
    | .ok _ => none

/-- The number of results that are no errors. -/
def countOk (results : List (Except PoolError Unit)) : Nat := results.countP Except.isOk

/-- How a request to open pools ends: with the first error, or else with the number of pools. -/
def verdict (results : List (Except PoolError Unit)) : Outcome :=
  match firstError? results with
  | some e => .failed e
  | none => .count (countOk results)

lemma attempt?_of_steps {next : Option Stage} {told : Option (Except PoolError Unit)}
    (hj : m.tasks.get? j = some s) (hs : s.tries? k = some t)
    (h : Steps m k j next told (m.step (.resume j a))) :
    (Event.resume j a).attempt? m k = told.map (t, ·) := by
  have hreports : (m.resume j a).reports = m.reports ++ told.toList.map fun r => (k, .warmed r) :=
    h.reports
  simp only [Event.attempt?, hj, hs, hreports, Option.bind_eq_bind, Option.bind_some]
  cases told <;> simp

lemma attempt?_of_eq (h : (m.resume j a).reports = m.reports) :
    (Event.resume j a).attempt? m k = none := by
  simp only [Event.attempt?, h, List.getElem?_length, Option.bind_eq_bind, Option.bind_fun_none]

lemma attempt?_of_none (h : ∀ s, m.tasks.get? j = some s → s.tries? k = none) :
    (Event.resume j a).attempt? m k = none := by
  cases hj : m.tasks.get? j with
  | none => simp [Event.attempt?, hj]
  | some s => simp [Event.attempt?, hj, h s hj]

/-! ### Work -/

/-- Whether an event is an answer that a task hears. -/
def Event.isHeard (m : Manager) : Event → Bool
  | .resume j a => (m.tasks.get? j).any fun s => s.hears m j a
  | _ => false

/-- The number of answers that tasks hear. -/
def heard (m : Manager) : List Event → Nat
  | [] => 0
  | e :: events => (e.isHeard m).toNat + (m.step e).heard events

/-- The tenants for which tasks try to get a pool for the task `k`. -/
def trying (m : Manager) (k : TaskId) : List TenantId := m.tasks.collect (Stage.tries? k)

/-- The answers that the tasks can still hear that try to get pools for the task `k`. -/
def effort (m : Manager) (k : TaskId) : Nat :=
  (m.tasks.collect fun s => (s.tries? k).map fun _ => s.toGo).sum

/-- The reports to the task `k`. -/
def unread (m : Manager) (k : TaskId) : List (TaskId × Report) := m.reports.filter (·.1 = k)

/-- The answers that can still be heard until all reports to the task `k` are read. -/
def warmingWork (m : Manager) (k : TaskId) : Nat := m.effort k + (m.unread k).length

/-! ### Where a request stands -/

/-- Pools were entered for those tenants that had none and for which an attempt succeeded. -/
def Entered (m₀ : Manager) (log : List Attempt) (m : Manager) : Prop :=
  ∃ entered, m.entries.toList = m₀.entries.toList ++ entered ∧
    ∀ t, t ∈ entered.map Prod.fst ↔ (t, .ok ()) ∈ log ∧ m₀.entries.get? t = none

/-- Where the request stands that came in as the task `m₀.nextTask`, beside what it does itself: the
attempts of `log` have ended, and the results of `read` were read. -/
structure Underway (m₀ : Manager) (tenants : List TenantId) (log : List Attempt)
    (read : List (Except PoolError Unit)) (m : Manager) : Prop where
  idle : m₀.expectsReports m₀.nextTask = false
  config : m.config = m₀.config
  isOpen : m.shuttingDown = false
  older : ∀ j < m₀.nextTask, m.tasks.get? j = m₀.tasks.get? j
  newer : ∀ j s, m₀.nextTask < j → m.tasks.get? j = some s → ∃ t, s.tries? m₀.nextTask = some t
  /-- Each tenant was tried, or it still is. -/
  tenants : (log.map Prod.fst ++ m.trying m₀.nextTask).Perm tenants
  results : ∃ unread, log.map Prod.snd = read ++ unread ∧
    m.unread m₀.nextTask = unread.map fun r => (m₀.nextTask, .warmed r)
  entered : Entered m₀ log m
  pools : m.pools.length + m₀.entries.size = m₀.pools.length + m.entries.size
  /-- Where another pool came first it stays in use until the attempt succeeds. -/
  yielding : ∀ j s t, m.tasks.get? j = some s → s.tries? m₀.nextTask = some t →
    s.isYielding = true → (m.entries.get? t).isSome = true

/-- What the request itself waits for, or how it has ended. -/
inductive Reader (k : TaskId) (read : List (Except PoolError Unit)) (m : Manager) : Prop
  | gathering (hk : m.tasks.get? k = some (.gathering (countOk read) (firstError? read)))
      (hleft : m.expectsReports k = true) (hout : m.outcomes.get? k = none)
  | ended (hk : m.tasks.get? k = none) (hnone : m.expectsReports k = false)
      (hout : m.outcomes.get? k = some (verdict read))

/-- Where the request stands that came in as the task `m₀.nextTask`, with the attempts that have
ended and the answers that can still be heard. -/
inductive Warming (m₀ : Manager) (tenants : List TenantId) : List Attempt → Manager → Nat → Prop
  | listing {m : Manager} (h : Underway m₀ [] [] [] m)
      (hk : m.tasks.get? m₀.nextTask = some .listing)
      (hout : m.outcomes.get? m₀.nextTask = none) : Warming m₀ tenants [] m (6 * tenants.length + 1)
  | reading {log read} {m : Manager} (h : Underway m₀ tenants log read m)
      (hr : Reader m₀.nextTask read m) : Warming m₀ tenants log m (m.warmingWork m₀.nextTask)

/-! ### What events do -/

variable {log : List Attempt} {read : List (Except PoolError Unit)} {records : List Tenant}
  {work : Nat} {next : Option Stage} {told : Option (Except PoolError Unit)}

/-- Whether an event can happen while nothing else is in progress than the request that came in as
the task `k`, if these tenants are active: what tasks that came before would hear is left out. -/
def Event.LeavesAlone (k : TaskId) (tenants : List Tenant) : Event → Prop
  | .call _ | .cancel _ => False
  | .resume j (.tenants r) => k ≤ j ∧ (j = k → r = .ok tenants)
  | .resume j _ => k ≤ j
  | _ => True

lemma Event.LeavesAlone.le (h : (Event.resume j a).LeavesAlone k records) : k ≤ j := by
  cases a with
  | tenants => exact h.1
  | _ => exact h

lemma Event.leavesAlone_of_lt (h : k < j) (a : Answer) :
    (Event.resume j a).LeavesAlone k records := by
  cases a with
  | tenants => exact ⟨h.le, fun hj => absurd hj h.ne'⟩
  | _ => exact h.le

/-- Between two states no task goes on and no pool is entered. -/
structure Still (m m₁ : Manager) : Prop extends Unmoved m m₁ where
  entries : m₁.entries = m.entries
  pools : m₁.pools.length = m.pools.length
  slots : m₁.slots = m.slots
  ledger : m₁.ledger = m.ledger

lemma Still.refl (m : Manager) : Still m m := ⟨⟨rfl, rfl, rfl, rfl, rfl⟩, rfl, rfl, rfl, rfl⟩

lemma Still.modifyPool (m : Manager) (id : PoolId) (f : Pool → Pool) :
    Still m (m.modifyPool id f) :=
  ⟨⟨rfl, rfl, rfl, rfl, rfl⟩, rfl, length_modifyPool m id f, rfl, rfl⟩

lemma Still.dropLease (m : Manager) (lease : TaskId) : Still m (m.dropLease lease) := by
  unfold Manager.dropLease
  split
  next id _ => exact ⟨⟨rfl, rfl, rfl, rfl, rfl⟩, rfl, length_modifyPool m id _, rfl, rfl⟩
  next => exact .refl m

/-- What an event does while a request to open pools is the only one in progress. -/
inductive Warms (m : Manager) (k : TaskId) (tenants : List Tenant) : Event → Manager → Prop
  | still {e : Event} {m' : Manager} (h : Still m m') (hnone : e.attempt? m k = none)
      (hheard : e.isHeard m = false) : Warms m k tenants e m'
  | tries {a : Answer} {s : Stage} {m' : Manager} {j t} (hlt : k < j) (hj : m.tasks.get? j = some s)
      (ht : s.tries? k = some t) (h : Tried m k j t s a m') : Warms m k tenants (.resume j a) m'
  | lists (hk : m.tasks.get? k = some .listing) :
      Warms m k tenants (.resume k (.tenants (.ok tenants)))
        (m.afterListing k (.ok tenants))
  | reads {warmed first r} (hk : m.tasks.get? k = some (.gathering warmed first))
      (hnext : m.nextReport? k = some (.warmed r)) :
      Warms m k tenants (.resume k .proceed) (m.absorbWarmed k warmed first)

namespace Warms

lemma of_ended (hj : m.tasks.get? j = none) (a : Answer) :
    Warms m k records (.resume j a) (m.step (.resume j a)) := by
  have hstep : m.step (.resume j a) = m := by simp only [step, resume, hj]
  rw [hstep]
  exact .still (.refl m) (attempt?_of_none (by simp [hj])) (by simp [Event.isHeard, hj])

lemma of_unheard (hk : m.tasks.get? k = some s) (hs : s.tries? k = none) (hm : m.answer k s a = m)
    (hheard : s.hears m k a = false) :
    Warms m k records (.resume k a) (m.step (.resume k a)) := by
  rw [step_resume hk, hm]
  refine .still (.refl m) (attempt?_of_none ?_) (by simp [Event.isHeard, hk, hheard])
  intro s' hs'
  rw [hk] at hs'
  cases hs'
  exact hs

lemma of_listing (hk : m.tasks.get? k = some .listing)
    (he : (Event.resume k a).LeavesAlone k records) :
    Warms m k records (.resume k a) (m.step (.resume k a)) := by
  cases a with
  | tenants r =>
    cases he.2 rfl
    rw [step_resume hk]
    exact .lists hk
  | _ => exact of_unheard hk rfl rfl rfl

lemma of_gathering {warmed : Nat} {first : Option PoolError}
    (hk : m.tasks.get? k = some (.gathering warmed first))
    (hreports : ∀ r, m.nextReport? k = some r → ∃ result, r = .warmed result) :
    Warms m k records (.resume k a) (m.step (.resume k a)) := by
  cases a with
  | proceed =>
    cases hr : m.nextReport? k with
    | none =>
      apply of_unheard hk rfl
      · simp only [answer, absorbWarmed, hr]
      · simp [Stage.hears, hr]
    | some r =>
      obtain ⟨result, rfl⟩ := hreports r hr
      rw [step_resume hk]
      exact .reads hk hr
  | _ => exact of_unheard hk rfl rfl rfl

end Warms

namespace Underway

/-- What is told to the request is how attempts ended. -/
lemma exists_warmed (h : Underway m₀ tenants log read m) {r : Report}
    (hr : m.nextReport? m₀.nextTask = some r) : ∃ result, r = .warmed result := by
  obtain ⟨unread, -, hunread⟩ := h.results
  obtain ⟨⟨k, r'⟩, hfind, rfl⟩ := Option.map_eq_some_iff.1 hr
  have hmem : (k, r') ∈ m.unread m₀.nextTask :=
    List.mem_filter.2 ⟨List.mem_of_find?_eq_some hfind, by simpa using List.find?_some hfind⟩
  rw [hunread] at hmem
  obtain ⟨result, -, heq⟩ := List.mem_map.1 hmem
  cases heq
  exact ⟨result, rfl⟩

lemma warms_of_child (h : Underway m₀ tenants log read m) (hlt : m₀.nextTask < j) (a : Answer) :
    Warms m m₀.nextTask records (.resume j a) (m.step (.resume j a)) := by
  cases hj : m.tasks.get? j with
  | none => exact .of_ended hj a
  | some s =>
    obtain ⟨t, ht⟩ := h.newer j s hlt hj
    rw [step_resume hj]
    exact .tries hlt hj ht (.of_answer ht h.isOpen a)

end Underway

/-- Whatever happens while a request to open pools is the only one in progress, it is one of these
things. -/
theorem Warming.warms {e : Event}
    (h : Warming m₀ tenants log m work) (he : e.LeavesAlone m₀.nextTask records) :
    Warms m m₀.nextTask records e (m.step e) := by
  cases e with
  | call | cancel => exact he.elim
  | advance => exact .still ⟨⟨rfl, rfl, rfl, rfl, rfl⟩, rfl, rfl, rfl, rfl⟩ rfl rfl
  | drop lease => exact .still (.dropLease m lease) rfl rfl
  | touch id | acquire id | release id => exact .still (.modifyPool m id _) rfl rfl
  | resume j a =>
    rcases he.le.eq_or_lt with rfl | hlt
    · cases h with
      | listing _ hk _ => exact .of_listing hk he
      | reading h hr =>
        cases hr with
        | gathering hk _ _ => exact .of_gathering hk fun r => h.exists_warmed
        | ended hk _ _ => exact .of_ended hk a
    · cases h with
      | listing h _ _ | reading h _ => exact h.warms_of_child hlt a

/-! ### What one of the tasks does -/

lemma unread_of_steps (h : Steps m k j next told m') :
    m'.unread k = m.unread k ++ told.toList.map fun r => (k, .warmed r) := by
  rw [unread, h.reports, List.filter_append, unread]
  cases told <;> simp

/-- What is collected from the tasks when one of them goes on. -/
lemma Steps.collect_perm {γ : Type}
    (h : Steps m k j next told m') (hj : m.tasks.get? j = some s) (f : Stage → Option γ) :
    (m'.tasks.collect f ++ (f s).toList).Perm (m.tasks.collect f ++ (next.bind f).toList) := by
  have hperm := Assoc.collect_append_perm h.others f
  rwa [hj, h.own] at hperm

/-- A task goes on trying, or it ends and tells how that went. -/
inductive Onward (k : TaskId) (t : TenantId) : Option Stage → Option (Except PoolError Unit) → Prop
  | waits {s : Stage} (ht : s.tries? k = some t) : Onward k t (some s) none
  | ends {r} : Onward k t none (some r)

lemma Steps.trying_perm (h : Steps m k j next told m') (hj : m.tasks.get? j = some s)
    (ht : s.tries? k = some t)
    (hon : Onward k t next told) :
    ((told.map (t, ·)).toList.map Prod.fst ++ m'.trying k).Perm (m.trying k) := by
  have hperm := h.collect_perm hj (Stage.tries? k)
  rw [ht] at hperm
  cases hon with
  | waits ht' =>
    rw [Option.bind_some, ht'] at hperm
    exact (List.perm_append_right_iff _).1 hperm
  | ends => exact List.perm_append_comm.trans (hperm.trans (.of_eq (List.append_nil _)))

/-- A task that goes on has fewer answers to hear. -/
lemma Steps.work_lt (h : Steps m k j next told m') (hj : m.tasks.get? j = some s)
    (ht : s.tries? k = some t)
    (hless : (next.bind fun s' => (s'.tries? k).map fun _ => s'.toGo).toList.sum
      + told.toList.length < s.toGo) :
    m'.warmingWork k < m.warmingWork k := by
  have hsum := (h.collect_perm hj fun s' => (s'.tries? k).map fun _ => s'.toGo).sum_eq
  simp only [ht, Option.map_some, Option.toList_some, List.sum_append, List.sum_singleton] at hsum
  rw [warmingWork, warmingWork, unread_of_steps h, List.length_append, List.length_map, effort,
    effort]
  omega

namespace Entered

variable {r : Except PoolError Unit}

lemma kept (h : Entered m₀ log m) {id : PoolId} (ht : m₀.entries.get? t = some id) :
    m.entries.get? t = some id := by
  obtain ⟨entered, hlist, -⟩ := h
  exact (Assoc.get?_of_toList_append hlist).2 (.inl ht)

lemma none_of_none (h : Entered m₀ log m) (hnone : m.entries.get? t = none) :
    m₀.entries.get? t = none := by
  rw [Option.eq_none_iff_forall_ne_some]
  intro id hid
  rw [h.kept hid] at hnone
  cases hnone

/-- An attempt ends with which no pool is entered. -/
lemma tell (h : Entered m₀ log m) (he : m'.entries = m.entries)
    (hr : r = .ok () → (m.entries.get? t).isSome = true) :
    Entered m₀ (log ++ [(t, r)]) m' := by
  obtain ⟨entered, hlist, hmem⟩ := h
  refine ⟨entered, by rw [he, hlist], fun t' => ?_⟩
  rw [hmem, List.mem_append, List.mem_singleton]
  constructor
  · rintro ⟨hlog, hnone⟩
    exact ⟨.inl hlog, hnone⟩
  · rintro ⟨hlog | heq, hnone⟩
    · exact ⟨hlog, hnone⟩
    · cases heq
      obtain ⟨id, hid⟩ := Option.isSome_iff_exists.1 (hr rfl)
      rcases (Assoc.get?_of_toList_append hlist).1 hid with hold | hnew
      · rw [hnone] at hold
        cases hold
      · exact (hmem _).1 (List.mem_map.2 ⟨_, hnew, rfl⟩)

/-- An attempt ends with which a pool is entered. -/
lemma enter (h : Entered m₀ log m) {id : PoolId} (he : m'.entries = m.entries.insert t id)
    (hnone : m.entries.get? t = none) : Entered m₀ (log ++ [(t, .ok ())]) m' := by
  have hnone₀ := h.none_of_none hnone
  obtain ⟨entered, hlist, hmem⟩ := h
  refine ⟨entered ++ [(t, id)], ?_, fun t' => ?_⟩
  · rw [he, Assoc.toList_insert, Assoc.erase_eq_self hnone, hlist, List.append_assoc]
  · simp only [List.map_append, List.map_cons, List.map_nil, List.mem_append, List.mem_singleton,
      hmem, Prod.mk.injEq, and_true]
    constructor
    · rintro (⟨hlog, hnone'⟩ | rfl)
      · exact ⟨.inl hlog, hnone'⟩
      · exact ⟨.inr rfl, hnone₀⟩
    · rintro ⟨hlog | rfl, hnone'⟩
      · exact .inl ⟨hlog, hnone'⟩
      · exact .inr rfl

end Entered

namespace Underway

lemma of_steps (h : Underway m₀ tenants log read m) (hlt : m₀.nextTask < j)
    (hj : m.tasks.get? j = some s) (ht : s.tries? m₀.nextTask = some t)
    (hst : Steps m m₀.nextTask j next told m') (hon : Onward m₀.nextTask t next told)
    (hentered : Entered m₀ (log ++ (told.map (t, ·)).toList) m')
    (hpools : m'.pools.length + m.entries.size = m.pools.length + m'.entries.size)
    (hkept : ∀ t', (m.entries.get? t').isSome = true → (m'.entries.get? t').isSome = true)
    (hy : ∀ s', next = some s' → s'.isYielding = true → (m.entries.get? t).isSome = true) :
    Underway m₀ tenants (log ++ (told.map (t, ·)).toList) read m' where
  idle := h.idle
  config := hst.config.trans h.config
  isOpen := hst.shuttingDown.trans h.isOpen
  older i hi := (hst.others i (hi.trans hlt).ne).trans (h.older i hi)
  newer i s' hi hs' := by
    by_cases hij : i = j
    · subst hij
      rw [hst.own] at hs'
      subst hs'
      cases hon with
      | waits ht' => exact ⟨t, ht'⟩
    · rw [hst.others i hij] at hs'
      exact h.newer i s' hi hs'
  tenants := by
    rw [List.map_append, List.append_assoc]
    exact ((hst.trying_perm hj ht hon).append_left _).trans h.tenants
  results := by
    obtain ⟨unread, hlog, hunread⟩ := h.results
    refine ⟨unread ++ told.toList, ?_, ?_⟩
    · rw [List.map_append, hlog, List.append_assoc]
      cases told <;> rfl
    · rw [unread_of_steps hst, hunread, List.map_append]
  entered := hentered
  pools := by
    have := h.pools
    omega
  yielding i s' t' hi ht' hyield := by
    by_cases hij : i = j
    · subst hij
      rw [hst.own] at hi
      subst hi
      cases hon with
      | waits ht =>
        rw [ht] at ht'
        cases ht'
        exact hkept t (hy s' rfl hyield)
    · rw [hst.others i hij] at hi
      exact hkept t' (h.yielding i s' t' hi ht' hyield)

end Underway

lemma Reader.of_steps (h : Reader k read m) (hne : k ≠ j) (hj : m.tasks.get? j = some s)
    (ht : s.tries? k = some t) (hst : Steps m k j next told m')
    (hon : Onward k t next told) : Reader k read m' := by
  cases h with
  | gathering hk _ hout =>
    refine .gathering ((hst.others k hne).trans hk) ?_ (by rw [hst.outcomes, hout])
    cases hon with
    | waits ht' => exact expectsReports_of_child hst.own (Stage.parent?_of_tries? ht')
    | @ends r =>
      refine expectsReports_iff.2 (.inr ⟨.warmed r, ?_⟩)
      rw [hst.reports]
      exact List.mem_append_right _ (List.mem_singleton_self _)
  | ended _ hnone _ =>
    rw [expectsReports_of_child hj (Stage.parent?_of_tries? ht)] at hnone
    cases hnone

/-- The request goes on to another state, which shows the attempts that an event ends. There is the
less to be heard for what is heard. -/
def Advances (m₀ : Manager) (tenants : List TenantId) (log : List Attempt) (work : Nat)
    (m : Manager) (e : Event) (m' : Manager) : Prop :=
  ∃ work', Warming m₀ tenants (log ++ (e.attempt? m m₀.nextTask).toList) m' work' ∧
    (e.isHeard m).toNat + work' ≤ work

lemma Underway.not_tries (h : Underway m₀ [] [] read m)
    (hj : m.tasks.get? j = some s) : s.tries? m₀.nextTask = none := by
  rw [Option.eq_none_iff_forall_ne_some]
  intro t ht
  have hmem : t ∈ m.trying m₀.nextTask := Assoc.mem_collect.2 ⟨j, s, hj, ht⟩
  exact List.not_mem_nil (h.tenants.subset hmem)

namespace Warming

/-- A task that tries to get a pool goes on. -/
lemma of_steps
    (h : Underway m₀ tenants (log ++ (told.map (t, ·)).toList) read (m.step (.resume j a)))
    (hr : Reader m₀.nextTask read m) (hlt : m₀.nextTask < j) (hj : m.tasks.get? j = some s)
    (ht : s.tries? m₀.nextTask = some t)
    (hst : Steps m m₀.nextTask j next told (m.step (.resume j a)))
    (hon : Onward m₀.nextTask t next told)
    (hless : (next.bind fun s' => (s'.tries? m₀.nextTask).map fun _ => s'.toGo).toList.sum
      + told.toList.length < s.toGo) :
    Advances m₀ tenants log (m.warmingWork m₀.nextTask) m (.resume j a) (m.step (.resume j a)) := by
  have hwork := hst.work_lt hj ht hless
  rw [← attempt?_of_steps hj ht hst] at h
  refine ⟨_, .reading h (hr.of_steps hlt.ne hj ht hst hon), ?_⟩
  have := Bool.toNat_le ((Event.resume j a).isHeard m)
  omega

lemma of_attempted (h : Underway m₀ tenants log read m) (hr : Reader m₀.nextTask read m)
    (hlt : m₀.nextTask < j) (hj : m.tasks.get? j = some s) (ht : s.tries? m₀.nextTask = some t)
    (ha : Attempted m m₀.nextTask j t s a (m.step (.resume j a))) :
    Advances m₀ tenants log (m.warmingWork m₀.nextTask) m (.resume j a) (m.step (.resume j a)) := by
  generalize hm' : m.step (.resume j a) = m' at ha ⊢
  cases ha with
  | unheard hnot =>
    have hreports : (m.resume j a).reports = m.reports := congrArg Manager.reports hm'
    have hheard : (Event.resume j a).isHeard m = false := by simp [Event.isHeard, hj, hnot]
    refine ⟨_, ?_, by rw [hheard]; exact (Nat.zero_add _).le⟩
    rw [attempt?_of_eq hreports, Option.toList_none, List.append_nil]
    exact .reading h hr
  | @waits _ s' hst ht' hless he hp hy =>
    subst hm'
    refine of_steps ?_ hr hlt hj ht hst (.waits ht') (by simpa [ht'] using hless)
    refine h.of_steps hlt hj ht hst (.waits ht') ?_ (by rw [he, hp]) (by simp [he]) ?_
    · obtain ⟨entered, hlist, hmem⟩ := h.entered
      exact ⟨entered, by rw [he, hlist], by simpa using hmem⟩
    · rintro _ ⟨⟩
      exact hy
  | ends hst hmore he hp hr' =>
    subst hm'
    refine of_steps ?_ hr hlt hj ht hst .ends (by simpa using hmore)
    refine h.of_steps hlt hj ht hst .ends ?_ (by rw [he, hp]) (by simp [he]) (by simp)
    -- Without a new pool the news is good only if the tenant has one.
    refine h.entered.tell he fun hok => ?_
    rcases hr' hok with hyield | hsome
    · exact h.yielding j s t hj ht hyield
    · exact hsome
  | enters hst hmore hnone he hp =>
    subst hm'
    refine of_steps ?_ hr hlt hj ht hst .ends (by simpa using hmore)
    refine h.of_steps hlt hj ht hst .ends (h.entered.enter he hnone) ?_ (fun t' ht' => ?_) (by simp)
    · rw [he, hp, Assoc.size_insert_of_none hnone]
      omega
    · rw [he, Assoc.get?_insert]
      split <;> simp [ht']

end Warming

end Manager

end Tenancy
